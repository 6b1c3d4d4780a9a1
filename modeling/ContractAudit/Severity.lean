import ContractAudit.Text.Casing
import ContractAudit.Text.Quoted

/-!
# Severities

The five-level scale that registries, detectors, findings and scores share.
-/
namespace ContractAudit

inductive Severity where
  | info
  | low
  | medium
  | high
  | critical
deriving DecidableEq, Repr, Inhabited

namespace Severity

def value : Severity → Nat
  | info => 0
  | low => 1
  | medium => 2
  | high => 3
  | critical => 4

def label : Severity → String
  | info => "Info"
  | low => "Low"
  | medium => "Medium"
  | high => "High"
  | critical => "Critical"

def name : Severity → String
  | info => "INFO"
  | low => "LOW"
  | medium => "MEDIUM"
  | high => "HIGH"
  | critical => "CRITICAL"

/-- The effect on trust: 1 for the worst severity to 5 for none. -/
def impact (s : Severity) : Nat :=
  5 - s.value

def atLeast (s threshold : Severity) : Bool :=
  threshold.value ≤ s.value

def worstFirst : List Severity :=
  [critical, high, medium, low, info]

def rank (s : Severity) : Nat :=
  4 - s.value

def worse (s t : Severity) : Severity :=
  if s.value < t.value then t else s

def worst? : List Severity → Option Severity
  | [] => none
  | s :: rest => some (rest.foldl worse s)

structure UnknownLabel where
  label : String
deriving DecidableEq, Repr

def UnknownLabel.message (e : UnknownLabel) : String :=
  "Unknown severity: " ++ quoteString e.label

/-- The severity that a label names, whatever its case and the white space around it. -/
def ofLabel (label : String) : Except UnknownLabel Severity :=
  let capitals := String.ofList ((Text.trim label.toList).map Text.asciiUpperChar)
  match worstFirst.find? fun s => s.name == capitals with
  | some s => .ok s
  | none => .error ⟨label⟩

end Severity

end ContractAudit
