import ContractAudit.Text.Basic

/-!
# Places in a text

A cursor knows what follows, the line and the column, and how many characters lie before it. A byte
order mark takes no column.
-/
namespace ContractAudit.Yaml

def isBreak (c : Char) : Bool :=
  c == '\n' || c == '\r' || c.toNat == 0x85 || c.toNat == 0x2028 || c.toNat == 0x2029

def isSpaceOrTab (c : Char) : Bool :=
  c == ' ' || c == '\t'

def atLineEnd : Text → Bool
  | [] => true
  | c :: _ => isBreak c

def atSpace : Text → Bool
  | [] => true
  | c :: _ => c == ' ' || isBreak c

def atBlank : Text → Bool
  | [] => true
  | c :: _ => isSpaceOrTab c || isBreak c

structure Cursor where
  rest : Text
  index : Nat := 0
  line : Nat := 0
  column : Nat := 0
deriving Repr

namespace Cursor

def next (c : Cursor) : Cursor :=
  match c.rest with
  | [] => c
  | ch :: rest =>
    if isBreak ch then ⟨rest, c.index + 1, c.line + 1, 0⟩
    else ⟨rest, c.index + 1, c.line, if ch.toNat = 0xfeff then c.column else c.column + 1⟩

def skip (c : Cursor) : Nat → Cursor
  | 0 => c
  | n + 1 => c.next.skip n

def span (c : Cursor) (accepts : Char → Bool) : Text × Cursor :=
  let taken := c.rest.takeWhile accepts
  (taken, c.skip taken.length)

def skipSpaces (c : Cursor) : Cursor :=
  (c.span (· == ' ')).2

def skipBlanks (c : Cursor) : Cursor :=
  (c.span isSpaceOrTab).2

def skipLine (c : Cursor) : Cursor :=
  (c.span fun ch => !isBreak ch).2

def skipComment (c : Cursor) : Cursor :=
  match c.rest with
  | '#' :: _ => c.skipLine
  | _ => c

/-- The line break that stands here, if any, and the place after it. Only the two separators beyond
ASCII are kept as they are. -/
def lineBreak (c : Cursor) : Text × Cursor :=
  match c.rest with
  | [] => ([], c)
  | ch :: _ =>
    if ch.toNat = 0x2028 || ch.toNat = 0x2029 then ([ch], c.next)
    else if isBreak ch then (['\n'], c.next)
    else ([], c)

/-- Three hyphens or three dots that stand alone divide documents. -/
def atSeparator (c : Cursor) : Bool :=
  match c.rest with
  | '-' :: '-' :: '-' :: rest => atBlank rest
  | '.' :: '.' :: '.' :: rest => atBlank rest
  | _ => false

end Cursor

end ContractAudit.Yaml
