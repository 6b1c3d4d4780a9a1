import ContractAudit.Text.Basic

/-!
# Line breaks of every kind

Beside the newline, a carriage return (alone or with its newline), the vertical tab, the form feed,
three information separators, the next-line control and the two separators beyond ASCII end a line.
The last line counts only if it is not empty.
-/
namespace ContractAudit.Text

def isLineBreak (c : Char) : Bool :=
  (10 ≤ c.toNat && c.toNat ≤ 13) || (0x1c ≤ c.toNat && c.toNat ≤ 0x1e) || c.toNat == 0x85 ||
    c.toNat == 0x2028 || c.toNat == 0x2029

/-- Every carriage return, alone or before a newline, becomes a newline. -/
def unifyNewlines : Text → Text
  | [] => []
  | '\r' :: '\n' :: rest => '\n' :: unifyNewlines rest
  | '\r' :: rest => '\n' :: unifyNewlines rest
  | c :: rest => c :: unifyNewlines rest

/-- A carriage return before a newline is dropped, so that the pair breaks one line. -/
def pairBreaks : Text → Text
  | [] => []
  | '\r' :: '\n' :: rest => '\n' :: pairBreaks rest
  | c :: rest => c :: pairBreaks rest

/-- The lines between single-character breaks; an unfinished line is in `current`, reversed. -/
def breakLinesAfter (current : Text) : Text → List Text
  | [] => if current.isEmpty then [] else [current.reverse]
  | c :: rest =>
    if isLineBreak c then current.reverse :: breakLinesAfter [] rest
    else breakLinesAfter (c :: current) rest

def breakLines (t : Text) : List Text :=
  breakLinesAfter [] (pairBreaks t)

end ContractAudit.Text
