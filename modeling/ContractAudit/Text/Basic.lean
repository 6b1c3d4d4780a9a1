import ContractAudit.Text.Blank

/-!
# Texts

A text is the list of its characters, so that positions count characters and scans recurse on the
data. A line ends at a newline and at nothing else; `lines` and `unlines` undo each other.
-/
namespace ContractAudit

abbrev Text := List Char

namespace Text

/-- The pieces between newlines, at least one. -/
def lines : Text → List Text
  | [] => [[]]
  | c :: rest =>
    if c = '\n' then [] :: lines rest
    else
      match lines rest with
      | [] => [[c]]
      | line :: more => (c :: line) :: more

def unlines : List Text → Text
  | [] => []
  | [line] => line
  | line :: more => line ++ '\n' :: unlines more

def join (separator : Text) : List Text → Text
  | [] => []
  | [piece] => piece
  | piece :: more => piece ++ separator ++ join separator more

def trimStart (t : Text) : Text :=
  t.dropWhile isBlank

def trimEnd (t : Text) : Text :=
  (t.reverse.dropWhile isBlank).reverse

def trim (t : Text) : Text :=
  t.trimStart.trimEnd

def isBlankText (t : Text) : Bool :=
  t.all isBlank

def startsWith (t opening : Text) : Bool :=
  opening.isPrefixOf t

def endsWith (t ending : Text) : Bool :=
  ending.isSuffixOf t

/-- What follows `opening`, if the text starts with it. -/
def dropOpening? : (opening t : Text) → Option Text
  | [], t => some t
  | _ :: _, [] => none
  | a :: opening, c :: t => if a = c then dropOpening? opening t else none

def holds (piece : Text) : Text → Bool
  | [] => piece.isEmpty
  | c :: rest => piece.isPrefixOf (c :: rest) || holds piece rest

def newlines (t : Text) : Nat :=
  t.count '\n'

end Text

def Text.mentions (t : Text) (piece : String) : Bool :=
  Text.holds piece.toList t

end ContractAudit
