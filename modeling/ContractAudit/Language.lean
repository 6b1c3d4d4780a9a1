import ContractAudit.Dialect
import ContractAudit.Pattern.Search
import ContractAudit.Text.Digit

/-!
# Telling dialects apart

Each dialect has evidence: patterns with weights, whose sum is the score of a source. The dialect
with the highest score wins, the earlier one on a tie, but a low score tells nothing. A known file
extension settles the question.
-/
namespace ContractAudit

structure Evidence where
  shape : Pattern
  weight : Nat

structure LanguageGuess where
  dialect : Option Dialect
  confidence : Nat
  version : Option String
deriving DecidableEq, Repr

namespace Language

open Pattern
open Text (isWord isBlank isDecimal)

def anyCaseWord (s : String) : Pattern :=
  inOrder [wordEdge, anyCase s, wordEdge]

def anyCaseDeclaration (s : String) : Pattern :=
  inOrder [wordEdge, anyCase s, blanks1, word]

def decorator (s : String) : Pattern :=
  inOrder [anyCase s, wordEdge]

def versionNumber : Pattern :=
  inOrder [many1 isDecimal, text ".", many1 isDecimal, text ".", many1 isDecimal]

def solidityEvidence : List Evidence := [
  ⟨inOrder [anyCase "pragma", blanks1, anyCase "solidity"], 40⟩,
  ⟨anyCaseDeclaration "contract", 20⟩,
  ⟨inOrder [wordEdge, anyCase "mapping", blanks, text "("], 10⟩,
  ⟨anyCaseDeclaration "modifier", 10⟩,
  ⟨anyCaseWord "msg.sender", 5⟩,
  ⟨anyCaseWord "payable", 5⟩,
  ⟨inOrder [wordEdge, anyCase "function", blanks1, word, lineRest, anyCaseWord "returns"], 10⟩]

def solidityVersion : Pattern :=
  inOrder [text "pragma", blanks1, text "solidity", blanks1, optional (text "^"),
    capture 1 versionNumber]

def vyperVersion : Pattern :=
  inOrder [text "#", blanks, anyCase "@version", blanks1, optional (text "^"),
    capture 1 versionNumber]

def vyperEvidence : List Evidence := [
  ⟨vyperVersion, 40⟩,
  ⟨decorator "@external", 15⟩,
  ⟨decorator "@internal", 10⟩,
  ⟨decorator "@view", 10⟩,
  ⟨decorator "@pure", 10⟩,
  ⟨decorator "@payable", 10⟩,
  ⟨inOrder [anyCase "def", blanks1, word, blanks, text "("], 10⟩,
  ⟨inOrder [text ":", blanks, alt (anyCase "public") (anyCase "private"), text "("], 10⟩,
  ⟨inOrder [anyCase "event", blanks1, word, text ":"], 5⟩,
  ⟨inOrder [anyCase "implements:", blanks, word], 10⟩,
  ⟨inOrder [lineStart, many1 (among [' ', '\t']), anyText ["def", "if", "for", "while"],
    one isBlank], 5⟩]

def cairoZeroMarker : Pattern :=
  inOrder [anyCase "%lang", blanks1, anyCase "starknet"]

def cairoOneMarker : Pattern :=
  anyCase "#[starknet::contract]"

def cairoEvidence : List Evidence := [
  ⟨cairoZeroMarker, 40⟩,
  ⟨cairoOneMarker, 40⟩,
  ⟨decorator "@external", 10⟩,
  ⟨decorator "@view", 10⟩,
  ⟨decorator "@storage_var", 15⟩,
  ⟨decorator "@constructor", 10⟩,
  ⟨decorator "@event", 5⟩,
  ⟨anyCaseWord "felt", 15⟩,
  ⟨anyCaseWord "u256", 10⟩,
  ⟨inOrder [wordEdge, anyCase "let", blanks1, word, blanks, text "="], 5⟩,
  ⟨anyCaseDeclaration "use", 10⟩,
  ⟨anyCaseDeclaration "impl", 10⟩,
  ⟨anyCaseDeclaration "fn", 10⟩]

def evidence : Dialect → List Evidence
  | .solidity => solidityEvidence
  | .vyper => vyperEvidence
  | .cairo => cairoEvidence

def score (d : Dialect) (code : Text) : Nat :=
  ((evidence d).map fun e => if e.shape.occursIn code then e.weight else 0).foldr (· + ·) 0

def numberedVersion (p : Pattern) (code : Text) : Option String :=
  (p.find? code).map fun m => String.ofList (m.group 1)

def cairoGeneration (code : Text) : Option String :=
  if cairoOneMarker.occursIn code then some "1.x"
  else if cairoZeroMarker.occursIn code then some "0.x"
  else none

def declaredVersion (d : Dialect) (code : Text) : Option String :=
  match d with
  | .solidity => numberedVersion solidityVersion code
  | .vyper => numberedVersion vyperVersion code
  | .cairo => cairoGeneration code

/-- Scores up to this tell nothing. -/
def threshold : Nat := 30

def guessAs (d : Dialect) (code : Text) : LanguageGuess :=
  let confidence := score d code
  ⟨if threshold < confidence then some d else none, confidence, declaredVersion d code⟩

/-- The dialects in the order that settles ties. -/
def candidates : List Dialect :=
  [.solidity, .vyper, .cairo]

def best (first : LanguageGuess) (rest : List LanguageGuess) : LanguageGuess :=
  rest.foldl (fun found guess => if found.confidence < guess.confidence then guess else found) first

def guessFromText (code : Text) : LanguageGuess :=
  best (guessAs .solidity code) [guessAs .vyper code, guessAs .cairo code]

def fileExtension : Dialect → String
  | .solidity => ".sol"
  | .vyper => ".vy"
  | .cairo => ".cairo"

def ofFileName? (fileName : String) : Option Dialect :=
  let lowered := Text.lower fileName.toList
  candidates.find? fun d => Text.endsWith lowered (fileExtension d).toList

/-- The dialect of a source, from its file name if that tells, else from its text. -/
def guess (code : Text) (fileName : String) : LanguageGuess :=
  match ofFileName? fileName with
  | some d => { guessAs d code with dialect := some d }
  | none => guessFromText code

def nameOf : Option Dialect → String
  | some d => d.name
  | none => "unknown"

def displayName : Option Dialect → String
  | some .solidity => "Solidity"
  | some .vyper => "Vyper"
  | some .cairo => "Cairo"
  | none => "Unknown"

def usualExtension : Option Dialect → String
  | some d => fileExtension d
  | none => ".txt"

end Language

end ContractAudit
