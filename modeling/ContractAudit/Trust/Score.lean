import ContractAudit.Trust.Level

/-!
# The security score

The score starts at 100 and loses points for each finding, more for a worse one; it never falls
below zero. Bands of the score are named risks.
-/
namespace ContractAudit

inductive RiskLevel where
  | critical
  | high
  | medium
  | low
  | secure
deriving DecidableEq, Repr

namespace RiskLevel

def label : RiskLevel → String
  | critical => "Critical"
  | high => "High"
  | medium => "Medium"
  | low => "Low"
  | secure => "Secure"

def all : List RiskLevel :=
  [critical, high, medium, low, secure]

def ofLabel? (label : String) : Option RiskLevel :=
  all.find? fun level => level.label == label

def ofScore (score : Int) : RiskLevel :=
  if score < 30 then critical
  else if score < 50 then high
  else if score < 70 then medium
  else if score < 90 then low
  else secure

end RiskLevel

namespace SeverityCounts

def deduction (c : SeverityCounts) : Int :=
  c.critical * 20 + c.high * 10 + c.medium * 5 + c.low * 2

def score (c : SeverityCounts) : Int :=
  max 0 (100 - c.deduction)

end SeverityCounts

structure Classification where
  score : Int
  risk : RiskLevel
  level : TrustLevel
deriving DecidableEq, Repr

namespace Classification

def ofCounts (c : SeverityCounts) : Classification :=
  ⟨c.score, .ofScore c.score, .ofCounts c⟩

def ofCounts? (c : SeverityCounts) : Except SeverityCounts.NegativeCount Classification := do
  c.validate
  return .ofCounts c

end Classification

end ContractAudit
