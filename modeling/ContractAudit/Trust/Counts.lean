import ContractAudit.Finding

/-!
# Findings per severity
-/
namespace ContractAudit

structure SeverityCounts where
  critical : Int := 0
  high : Int := 0
  medium : Int := 0
  low : Int := 0
  info : Int := 0
deriving DecidableEq, Repr

namespace SeverityCounts

def total (c : SeverityCounts) : Int :=
  c.critical + c.high + c.medium + c.low + c.info

def ofSeverities (severities : List Severity) : SeverityCounts where
  critical := severities.count .critical
  high := severities.count .high
  medium := severities.count .medium
  low := severities.count .low
  info := severities.count .info

def ofFindings (findings : List Finding) : SeverityCounts :=
  ofSeverities (findings.map (·.severity))

def named (c : SeverityCounts) : List (String × Int) :=
  [("critical", c.critical), ("high", c.high), ("medium", c.medium), ("low", c.low),
    ("info", c.info)]

structure NegativeCount where
  name : String
  value : Int
deriving DecidableEq, Repr

def NegativeCount.message (e : NegativeCount) : String :=
  "Count '" ++ e.name ++ "' must be non-negative, got " ++ toString e.value

def validate (c : SeverityCounts) : Except NegativeCount Unit :=
  match c.named.find? fun entry => entry.2 < 0 with
  | some (name, value) => .error ⟨name, value⟩
  | none => .ok ()

end SeverityCounts

end ContractAudit
