import ContractAudit.Finding
import ContractAudit.Json.Value

/-!
# Better texts for findings

A collaborator may be asked for better texts about one finding. What it is told identifies the
finding; what it answers can only replace the three descriptive texts.
-/
namespace ContractAudit

structure EnhancementRequest where
  name : String
  type : String
  snippet : String
  lineNumber : Int
deriving DecidableEq, Repr

namespace EnhancementRequest

def ofFinding (f : Finding) : EnhancementRequest :=
  ⟨f.name, f.type, f.snippet, f.lineNumber⟩

def toJson (r : EnhancementRequest) : Json :=
  .obj [("name", .str r.name), ("type", .str r.type), ("codeSnippet", .str r.snippet),
    ("lineNumber", .int r.lineNumber)]

end EnhancementRequest

structure EnhancementResponse where
  description : Option String := none
  exploitation : Option String := none
  recommendation : Option String := none
deriving DecidableEq, Repr

namespace EnhancementResponse

/-- A text without white space at its ends; blank texts and other values count as missing. -/
def offeredText : Option Json → Option String
  | some (.str s) => if Text.isBlankText s.toList then none else some (trimString s)
  | _ => none

def ofPayload (members : List (String × Json)) : EnhancementResponse where
  description := offeredText (Json.member? members "enhancedDescription")
  exploitation := offeredText (Json.member? members "exploitationScenario")
  recommendation := offeredText (Json.member? members "recommendation")

def applyTo (r : EnhancementResponse) (f : Finding) : Finding :=
  f.enhance r.description r.exploitation r.recommendation

end EnhancementResponse

/-- A collaborator: its answer to the call with this number, or nothing if the call fails. -/
abbrev Enhancer := (call : Nat) → EnhancementRequest → Option EnhancementResponse

namespace Enhancement

def isSerious (f : Finding) : Bool :=
  f.severity == .critical || f.severity == .high

inductive Limit where
  /-- The first `n`; a negative number leaves out as many at the end. -/
  | first (n : Int)
  | unlimited
  | unusable
deriving DecidableEq, Repr

/-- The number of calls for `serious` findings, if the limit makes sense. -/
def Limit.budget? (serious : Nat) : Limit → Option Nat
  | first n => some (min serious (if n < 0 then (serious + n).toNat else n.toNat))
  | unlimited => some serious
  | unusable => none

def improve (f : Finding) : Option EnhancementResponse → Finding
  | some response => response.applyTo f
  | none => f

/-- Sends the first `budget` serious findings, one call after the other, from call number `call`. -/
def run (enhancer : Enhancer) : (call budget : Nat) → List Finding → List Finding
  | _, _, [] => []
  | _, 0, findings => findings
  | call, budget + 1, f :: rest =>
    if isSerious f then
      improve f (enhancer call (.ofFinding f)) :: run enhancer (call + 1) budget rest
    else f :: run enhancer call (budget + 1) rest

def calls (budget : Nat) (findings : List Finding) : List EnhancementRequest :=
  ((findings.filter isSerious).take budget).map .ofFinding

end Enhancement

end ContractAudit
