import ContractAudit.Pattern.Search
import ContractAudit.Structure.Basic
import ContractAudit.Text.LineBreak

/-!
# Structure from single lines

Cairo and Vyper declarations are recognised one line at a time. A declaration that is split across
lines is not seen.
-/
namespace ContractAudit.Structure

open Pattern
open Text (isBlank isWord)

def nameIn? (p : Pattern) (group : Nat) (line : Text) : Option String :=
  (p.find? line).map fun m => String.ofList (m.group group)

def addName? (names : List String) : Option String → List String
  | none => names
  | some name => addName names name

/-! ## Cairo -/

namespace Cairo

def moduleDeclaration : Pattern :=
  alt (inOrder [wordEdge, text "mod", blanks1, capture 1 word])
    (inOrder [wordEdge, text "contract", blanks1, capture 1 word])

def functionDeclaration : Pattern :=
  inOrder [wordEdge, anyText ["fn", "func"], blanks1, capture 1 word, blanks,
    one (among ['(', '<', '{'])]

def storageDeclaration : Pattern :=
  inOrder [capture 1 word, blanks, text ":", blanks, anyText ["LegacyMap", "Map"], wordEdge]

def eventAttribute : Pattern :=
  alt (text "#[event]") (seq (text "@event") wordEdge)

def typeDeclaration : Pattern :=
  inOrder [wordEdge, anyText ["enum", "struct", "func"], blanks1, capture 1 word]

def eventStruct : Pattern :=
  inOrder [wordEdge, text "struct", blanks1, capture 1 (seq word (text "Event")), wordEdge]

/-- The event that a line declares: any type after an event attribute, or a structure named like an
event. -/
def eventIn? (pending : Bool) (line : Text) : Option String :=
  match pending, nameIn? typeDeclaration 1 line with
  | true, some name => some name
  | _, _ => nameIn? eventStruct 1 line

def awaitsType (pending : Bool) (line : Text) : Bool :=
  (pending || eventAttribute.occursIn line) && !typeDeclaration.occursIn line

def addLine (o : Outline) (pending : Bool) (line : Text) : Outline :=
  { o.nameIfUnknown ((nameIn? moduleDeclaration 1 line).getD "") with
    functions := addName? o.functions (nameIn? functionDeclaration 1 line)
    stateVariables := addName? o.stateVariables (nameIn? storageDeclaration 1 line)
    events := addName? o.events (eventIn? (pending || eventAttribute.occursIn line) line) }

def outlineAfter (o : Outline) (pending : Bool) : List Text → Outline
  | [] => o
  | line :: rest => outlineAfter (addLine o pending line) (awaitsType pending line) rest

def outline (code : Text) : Outline :=
  outlineAfter {} false code.breakLines

def extractor : Extractor :=
  ⟨"builtin-cairo", .cairo, fun code => ⟨outline code, none⟩⟩

end Cairo

/-! ## Vyper -/

namespace Vyper

def title : Pattern :=
  inOrder [text "@title", blanks1, capture 1 word]

def functionDeclaration : Pattern :=
  inOrder [textStart, blanks, text "def", blanks1, capture 1 word, blanks, text "("]

def eventDeclaration : Pattern :=
  inOrder [textStart, text "event", blanks1, capture 1 word, blanks, text ":"]

/-- A name and its type without indentation; constants are not storage. -/
def storageDeclaration : Pattern :=
  inOrder [textStart, capture 1 word, blanks, text ":", blanks,
    notAhead (alt (seq (text "constant") wordEdge) (seq (text "immutable") wordEdge)),
    one (!isBlank ·)]

/-- Declarations that look like storage and are not. -/
def declarationWords : List String :=
  ["implements", "uses", "initializes", "exports"]

inductive Declaration where
  | function (name : String)
  | event (name : String)
  | storage (name : String)
  | other
deriving DecidableEq, Repr

def declarationIn (line : Text) : Declaration :=
  match nameIn? functionDeclaration 1 line with
  | some name => .function name
  | none =>
    match nameIn? eventDeclaration 1 line with
    | some name => .event name
    | none =>
      match nameIn? storageDeclaration 1 line with
      | some name => if declarationWords.contains name then .other else .storage name
      | none => .other

def addDeclaration (o : Outline) : Declaration → Outline
  | .function name => { o with functions := addName o.functions name }
  | .event name => { o with events := addName o.events name }
  | .storage name => { o with stateVariables := addName o.stateVariables name }
  | .other => o

def addLine (o : Outline) (line : Text) : Outline :=
  addDeclaration (o.nameIfUnknown ((nameIn? title 1 line).getD "")) (declarationIn line)

def outline (code : Text) : Outline :=
  code.breakLines.foldl addLine {}

def extractor : Extractor :=
  ⟨"builtin-vyper", .vyper, fun code => ⟨outline code, none⟩⟩

end Vyper

end ContractAudit.Structure
