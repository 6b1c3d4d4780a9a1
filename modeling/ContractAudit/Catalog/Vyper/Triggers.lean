import ContractAudit.Catalog.Detector
import ContractAudit.Catalog.Solidity.Shapes

/-!
# Vyper functions and triggers

A function lasts from its `def` line to the next line that is indented no deeper. Hash comments are
removed before anything else.
-/
namespace ContractAudit.Catalog.Vyper

open Pattern Source
open Text (isWord isBlank)

/-! ## Functions -/

/-- The trimmed decorators of a function, nearest first, and its lines, the `def` line first. -/
structure Function where
  decorators : List Text
  lines : List Text
deriving DecidableEq, Repr

def Function.body (f : Function) : Text :=
  Text.unlines f.lines

def defLine : Pattern :=
  inOrder [textStart, capture 1 blanks, text "def", blanks1, word]

def indentation (line : Text) : Nat :=
  (line.takeWhile isBlank).length

/-- Does the line end a function whose `def` is indented by `indent`? -/
def endsFunction (indent : Nat) (line : Text) : Bool :=
  !Text.isBlankText line && indentation line ≤ indent

def isDecorator (line : Text) : Bool :=
  (Text.trim line).startsWith ['@']

/-- The functions declared in lines, given the lines above in reverse. -/
def functionsAfter (above : List Text) : List Text → List Function
  | [] => []
  | line :: rest =>
    match defLine.matchStart? line with
    | none => functionsAfter (line :: above) rest
    | some m =>
      ⟨(above.takeWhile isDecorator).map Text.trim,
        line :: rest.takeWhile fun l => !endsFunction (m.group 1).length l⟩ ::
        functionsAfter (line :: above) rest

def functions (code : Text) : List Function :=
  functionsAfter [] (hashless code).lines

/-! ## Compiler version -/

def versionDeclaration : Pattern :=
  inOrder [text "#", blanks,
    alt (text "@version") (inOrder [text "pragma", blanks1, text "version"])]

def versionPattern : Pattern :=
  inOrder [versionDeclaration, blanks1, capture 1 (many1 (!isBlank ·))]

/-- The version that the source declares, with its operator. -/
def declaredVersion? (code : Text) : Option Text :=
  (versionPattern.find? code).map (·.group 1)

def vulnerableReleases : List Text :=
  ["0.2.15".toList, "0.2.16".toList, "0.3.0".toList]

def hasVulnerableCompiler (code : Text) : Bool :=
  match declaredVersion? code with
  | none => false
  | some v => vulnerableReleases.contains (v.dropWhile (among ['^', '=', '~', '<', '>']))

def hasFloatingVersion (code : Text) : Bool :=
  match (declaredVersion? code).bind List.head? with
  | none => false
  | some c => among ['^', '>', '<', '~'] c

def floatingVersionLine : Pattern :=
  inOrder [versionDeclaration, blanks1, one (among ['^', '>', '<', '~'])]

/-! ## Reentrancy -/

def sendCall : Pattern :=
  callOfWord "send"

def valueTransfer : Pattern :=
  alt (inOrder [wordEdge, text "raw_call", blanks, text "(", many (except [')']), wordEdge,
    text "value", blanks, text "="]) sendCall

def storageWrite : Pattern :=
  inOrder [textStart, blanks, text "self.", word, star indexing, blanks,
    optional (anyOf [one (among ['-', '+', '*', '/']), text "<<", text ">>"]), text "=",
    notAhead (text "=")]

def writesAfterTransfer (transferred : Bool) : List Text → Bool
  | [] => false
  | line :: rest =>
    (transferred && storageWrite.occursIn line) ||
      writesAfterTransfer (transferred || valueTransfer.occursIn line) rest

def isLocked (f : Function) : Bool :=
  f.decorators.any fun d => d.startsWith "@nonreentrant".toList

def hasReentrancy (code : Text) : Bool :=
  (functions code).any fun f => !isLocked f && writesAfterTransfer false f.lines.tail

/-! ## Calls that do not revert -/

def nonRevertingCall : Pattern :=
  inOrder [text "raw_call", blanks, text "(", many (except [')']), text "revert_on_failure", blanks,
    text "=", blanks, text "False"]

def callTarget : Pattern :=
  inOrder [textStart, blanks, capture 1 word, optional (inOrder [blanks, text ":", blanks, word]),
    blanks, optional (seq (text ",") (many (except ['=']))), text "=", blanks, textEnd]

def flagTest (flag : Text) : Pattern :=
  inOrder [wordEdge, anyText ["assert", "if"], blanks1, optional (seq (text "not") blanks1),
    exactly flag, wordEdge]

def lineBefore (src : Text) (offset : Nat) : Text :=
  ((src.take offset).reverse.takeWhile (· != '\n')).reverse

def isTested (src : Text) (m : Match) : Bool :=
  match callTarget.matchStart? (lineBefore src m.offset) with
  | none => false
  | some target => (flagTest (target.group 1)).occursIn src

def hasUncheckedRawCall (code : Text) : Bool :=
  let src := hashless code
  (nonRevertingCall.findAll src).any fun m => !isTested src m

/-! ## Everything else -/

def selfDestruct : Pattern :=
  callOfWord "selfdestruct"

def senderAssertion : Pattern :=
  anyOf [
    inOrder [text "assert", blanks1, text "msg.sender", blanks, text "=="],
    inOrder [text "assert", blanks1, text "self.", word, blanks, text "==", blanks,
      text "msg.sender"]]

def hasUnprotectedSelfDestruct (code : Text) : Bool :=
  (functions code).any fun f => selfDestruct.occursIn f.body && !senderAssertion.occursIn f.body

def blockRandomness : Pattern :=
  inOrder [wordEdge, text "block.", anyText ["prevrandao", "difficulty"], wordEdge]

def weakRandomness : Pattern :=
  alt blockRandomness (inOrder [text "keccak256", blanks, text "(", many (except [')']),
    text "block.", anyText ["timestamp", "number"]])

def weakRandomnessLine : Pattern :=
  alt blockRandomness (inOrder [text "keccak256", blanks, text "(", lineRest, text "block.",
    anyText ["timestamp", "number"]])

def timeTest : Pattern :=
  anyOf [
    inOrder [wordEdge, text "block.timestamp", blanks,
      anyOf [seq (one (among ['<', '>'])) (optional (text "=")), text "==", text "%"]],
    inOrder [Solidity.comparison, blanks, text "block.timestamp", wordEdge]]

def storageLoop (start : Pattern) : Pattern :=
  inOrder [start, blanks, text "for", blanks1, word, optional (inOrder [blanks, text ":", blanks,
    word]), blanks1, text "in", blanks1, text "self.", word, blanks, text ":"]

end ContractAudit.Catalog.Vyper
