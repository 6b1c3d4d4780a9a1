import ContractAudit.Severity

/-!
# Findings

A finding is one reported instance of a weakness. Its texts may be replaced by better ones; its
identifiers, severity and place never change.
-/
namespace ContractAudit

inductive Confidence where
  | high
  | medium
  | low
deriving DecidableEq, Repr

def Confidence.label : Confidence → String
  | high => "High"
  | medium => "Medium"
  | low => "Low"

def Confidence.ofLabel? (label : String) : Option Confidence :=
  [Confidence.high, .medium, .low].find? fun c => c.label == label

inductive DetectionMethod where
  | static
  | ai
deriving DecidableEq, Repr

def DetectionMethod.name : DetectionMethod → String
  | static => "static"
  | ai => "ai"

def DetectionMethod.ofName? (name : String) : Option DetectionMethod :=
  [DetectionMethod.static, .ai].find? fun m => m.name == name

def orText (preferred fallback : String) : String :=
  if preferred.isEmpty then fallback else preferred

def orKeep (preferred : Option String) (fallback : String) : String :=
  orText (preferred.getD "") fallback

structure Finding where
  name : String
  type : String
  severity : Severity
  swcId : String := ""
  cweIds : List String := []
  controls : List String := []
  trustImpact : Int := 5
  /-- The line from 1, or 0 when the finding has no place. -/
  lineNumber : Int := 0
  lineRange : Int × Int := (0, 0)
  snippet : String := ""
  description : String := ""
  exploitation : String := ""
  recommendation : String := ""
  references : List String := []
  method : DetectionMethod := .static
  confidence : Confidence := .high
  detectorId : String := ""
deriving DecidableEq, Repr

namespace Finding

/-- What two reports of one weakness have in common. -/
def weaknessId (f : Finding) : String :=
  orText f.swcId f.type

/-- Weakness and line: two findings with one key are the same instance. -/
def key (f : Finding) : String × Int :=
  (f.weaknessId, f.lineNumber)

/-- Replaces the texts that are given and not empty, and marks the finding as enhanced. -/
def enhance (f : Finding) (description exploitation recommendation : Option String) : Finding :=
  { f with
    description := orKeep description f.description
    exploitation := orKeep exploitation f.exploitation
    recommendation := orKeep recommendation f.recommendation
    method := .ai }

/-- Drops findings whose key is in `seen` or repeats, in order. -/
def dedupAfter (seen : List (String × Int)) : List Finding → List Finding
  | [] => []
  | f :: rest =>
    if seen.contains f.key then dedupAfter seen rest else f :: dedupAfter (f.key :: seen) rest

def deduplicate (findings : List Finding) : List Finding :=
  dedupAfter [] findings

def worstSeverity? (findings : List Finding) : Option Severity :=
  Severity.worst? (findings.map (·.severity))

end Finding

end ContractAudit
