import ContractAudit.Finding
import ContractAudit.Source.Comment

/-!
# Detectors

A detector pairs a trigger over a whole source, which decides whether a weakness is present, with a
way to find the lines to report: a matcher for single lines, or a locator of its own. A trigger, a
matcher or a locator may fail; the analysis then goes on without the detector.
-/
namespace ContractAudit

inductive Fault where
  | numeralTooLong
  /-- The detector gave up for a reason of its own. -/
  | raised (reason : String)
deriving DecidableEq, Repr

inductive LineMatcher where
  | literal (text : Text)
  | pattern (p : Pattern)
  | custom (test : Text → Except Fault Bool)

namespace LineMatcher

/-- Does the matcher accept the line? One that fails does not. -/
def accepts : LineMatcher → Text → Bool
  | literal text, line => Text.holds text line
  | pattern p, line => p.occursIn line
  | custom test, line =>
    match test line with
    | .ok accepted => accepted
    | .error _ => false

/-- Why the matcher gives no answer about the line, if it gives none. -/
def fault? : LineMatcher → Text → Option Fault
  | custom test, line =>
    match test line with
    | .ok _ => none
    | .error fault => some fault
  | _, _ => none

end LineMatcher

abbrev Trigger := Text → Except Fault Bool

abbrev Locator := Text → Except Fault (List Int)

structure Detector where
  id : String
  name : String
  severity : Severity
  description : String
  trigger : Trigger
  matcher : LineMatcher
  /-- Finds the lines to report in place of the matcher. -/
  locate : Option Locator := none
  swcId : Option String := none
  csrId : Option String := none
  controls : List String := []
  exploitation : String := ""
  recommendation : String := ""

namespace Detector

/-- The kind of weakness reported: the most specific registered one, or the detector itself. -/
def typeCode (d : Detector) : String :=
  orKeep d.csrId (orKeep d.swcId d.id)

end Detector

def Trigger.occurs (p : Pattern) : Trigger := fun code =>
  .ok (p.occursIn (Source.bare code))

/-- Fires when the pattern occurs outside hash comments. -/
def Trigger.occursHashless (p : Pattern) : Trigger := fun code =>
  .ok (p.occursIn (Source.hashless code))

def Trigger.when (condition : Text → Bool) : Trigger := fun code =>
  .ok (condition code)

end ContractAudit
