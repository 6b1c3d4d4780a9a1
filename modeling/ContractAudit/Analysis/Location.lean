import ContractAudit.Catalog.Detector
import ContractAudit.Dialect

/-!
# Where a detector fires

A detector that fires reports the lines of its own locator, or the lines that its matcher accepts
and that are not comments. It fails when its matcher fails on one of these lines.
-/
namespace ContractAudit.Analysis

def hashComments (d : Dialect) : Bool :=
  d == .vyper

def matchedLines (hashes : Bool) (matcher : LineMatcher) : Nat → List Text → List Int
  | _, [] => []
  | number, line :: rest =>
    if !Source.isCommentLine hashes line && matcher.accepts line then
      (number : Int) :: matchedLines hashes matcher (number + 1) rest
    else matchedLines hashes matcher (number + 1) rest

def matcherFault? (hashes : Bool) (matcher : LineMatcher) (lines : List Text) : Option Fault :=
  (lines.filter fun line => !Source.isCommentLine hashes line).findSome? matcher.fault?

def locate (dialect : Dialect) (d : Detector) (code : Text) : Except Fault (List Int) :=
  match d.locate with
  | some locator => locator code
  | none =>
    match matcherFault? (hashComments dialect) d.matcher code.lines with
    | some fault => .error fault
    | none => .ok (matchedLines (hashComments dialect) d.matcher 1 code.lines)

def evaluate (dialect : Dialect) (d : Detector) (code : Text) : Except Fault (Option (List Int)) :=
  do
    if ← d.trigger code then return some (← locate dialect d code) else return none

/-- The elements from index `start` up to, excluding, `stop`; a negative `stop` counts from the
end. -/
def slice {α : Type} (xs : List α) (start : Nat) (stop : Int) : List α :=
  let last := if stop < 0 then xs.length + stop else stop
  (xs.take last.toNat).drop start

/-- A line with `context` lines on each side; no line has an empty context. -/
def codeContext (lines : List Text) (lineNumber context : Int) : Text :=
  if lineNumber ≤ 0 then []
  else
    Text.unlines
      (slice lines (lineNumber - context - 1).toNat
        (min (lines.length : Int) (lineNumber + context)))

def snippetContext : Int := 2

end ContractAudit.Analysis
