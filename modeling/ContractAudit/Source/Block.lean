import ContractAudit.Source.Comment

/-!
# Brace blocks

A block starts at a line that looks like a header and ends where its braces balance, or, before any
brace, at a semicolon. Blocks are found by counting, not by parsing; a header inside a block starts
a block of its own.
-/
namespace ContractAudit.Source

structure Block where
  start : Nat
  /-- The text before the first opening brace, line by line, trimmed. -/
  header : Text
  lines : List Text
deriving DecidableEq, Repr

def Block.body (b : Block) : Text :=
  Text.unlines b.lines

def braceBalance (line : Text) : Int :=
  line.count '{' - line.count '}'

/-- Does the block end with this line, given whether a brace has been opened and the balance, this
line included? -/
def endsBlock (opened : Bool) (depth : Int) (line : Text) : Bool :=
  if opened then depth ≤ 0 else line.contains ';'

def blockLines (opened : Bool) (depth : Int) : List Text → List Text
  | [] => []
  | line :: rest =>
    let opened := opened || line.contains '{'
    let depth := depth + braceBalance line
    if endsBlock opened depth line then [line] else line :: blockLines opened depth rest

def headerLines : List Text → List Text
  | [] => []
  | line :: rest => if line.contains '{' then [line] else line :: headerLines rest

def headerPart (line : Text) : Text :=
  Text.trim (line.takeWhile (· != '{'))

def Block.ofLines (start : Nat) (lines : List Text) : Block :=
  ⟨start, Text.join [' '] ((headerLines lines).map headerPart), lines⟩

/-- The blocks that start in these lines, the first of which has number `number`. -/
def blocksFrom (header : Pattern) : Nat → List Text → List Block
  | _, [] => []
  | number, line :: rest =>
    if header.occursIn line then
      .ofLines number (blockLines false 0 (line :: rest)) :: blocksFrom header (number + 1) rest
    else blocksFrom header (number + 1) rest

open Pattern in
def functionHeader : Pattern :=
  inOrder [textStart, blanks,
    anyOf [
      inOrder [text "function", blanks1, word],
      inOrder [text "function", blanks, text "("],
      inOrder [text "constructor", blanks, text "("],
      inOrder [text "fallback", blanks, text "("],
      inOrder [text "receive", blanks, text "("]]]

open Pattern in
def loopHeader : Pattern :=
  anyOf [
    inOrder [textStart, blanks, anyText ["for", "while"], blanks, text "("],
    inOrder [textStart, blanks, text "do", blanks, one (· == '{')]]

def functionBlocks (code : Text) : List Block :=
  blocksFrom functionHeader 1 (bare code).lines

def loopBlocks (code : Text) : List Block :=
  blocksFrom loopHeader 1 (bare code).lines

end ContractAudit.Source
