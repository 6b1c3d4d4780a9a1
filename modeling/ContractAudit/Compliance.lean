import ContractAudit.Finding
import ContractAudit.Number.Binary
import ContractAudit.Registry.Controls

/-!
# Compliance

A control fails as soon as one finding names it, whatever its severity. The severity shown for a
failed control is that of the first such finding.
-/
namespace ContractAudit

open Registry (Control)

structure ControlResult where
  controlId : String
  category : String
  title : String
  passed : Bool
  findings : List String
  severity : Severity
deriving DecidableEq, Repr

structure Compliance where
  total : Nat
  passed : Nat
  failed : Nat
  percentage : Int
  checklist : List ControlResult
deriving DecidableEq, Repr

namespace Compliance

def ratio (passed total : Int) : Number.Fraction :=
  Number.Fraction.round ⟨100 * passed, total.toNat⟩

/-- The whole percentage of `passed` in `total`, a half going up; 0 when there is nothing to pass.
Quotient and sum are rounded as doubles are. -/
def percentageOf (passed total : Int) : Int :=
  if total ≤ 0 then 0 else (ratio passed total).addHalf.round.floor

/-- The percentage, unless the quotient is too large for a double. -/
def percentage? (passed total : Int) : Option Int :=
  if 0 < total && (ratio passed total).isHuge then none else some (percentageOf passed total)

def violations (findings : List Finding) (control : Control) : List Finding :=
  findings.filter fun f => f.controls.contains control.id

def evaluateControl (findings : List Finding) (control : Control) : ControlResult :=
  let related := violations findings control
  { controlId := control.id
    category := control.category
    title := control.title
    passed := related.isEmpty
    findings := related.map (·.name)
    severity := (related.head?.map (·.severity)).getD .info }

def ofChecklist (checklist : List ControlResult) : Compliance :=
  let passed := checklist.countP (·.passed)
  { total := checklist.length
    passed := passed
    failed := checklist.length - passed
    percentage := percentageOf passed checklist.length
    checklist := checklist }

def evaluate (findings : List Finding) (controls : List Control) : Compliance :=
  ofChecklist (controls.map (evaluateControl findings))

def failedControls (c : Compliance) : List ControlResult :=
  c.checklist.filter fun r => !r.passed

end Compliance

end ContractAudit
