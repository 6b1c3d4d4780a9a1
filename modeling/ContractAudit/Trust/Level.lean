import ContractAudit.Trust.Counts

/-!
# Trust levels

Five levels of trust. Unlike the score, the level ignores how many findings there are: the most
severe one decides.
-/
namespace ContractAudit

inductive TrustLevel where
  | criticalUnsafe
  | highRisk
  | mediumRisk
  | lowRisk
  | secure
deriving DecidableEq, Repr

structure TrustDefinition where
  name : String
  description : String
  criteria : List String
  risk : String
  color : String
  recommendation : String
deriving Repr

namespace TrustLevel

def number : TrustLevel → Nat
  | criticalUnsafe => 1
  | highRisk => 2
  | mediumRisk => 3
  | lowRisk => 4
  | secure => 5

def all : List TrustLevel :=
  [criticalUnsafe, highRisk, mediumRisk, lowRisk, secure]

def ofNumber? (n : Int) : Option TrustLevel :=
  all.find? fun level => (level.number : Int) == n

def ofCounts (c : SeverityCounts) : TrustLevel :=
  if c.critical > 0 then criticalUnsafe
  else if c.high > 0 then highRisk
  else if c.medium > 0 then mediumRisk
  else if c.low > 0 || c.info > 0 then lowRisk
  else secure

def definition : TrustLevel → TrustDefinition
  | criticalUnsafe =>
    { name := "Critical - Unsafe"
      description := "Contract contains critical vulnerabilities that pose immediate risk of " ++
        "fund loss or exploitation."
      criteria := [
        "One or more Critical severity vulnerabilities detected",
        "Reentrancy vulnerabilities present",
        "Unprotected critical functions (selfdestruct, withdrawal)",
        "Significant access control issues",
        "High risk of fund loss"]
      risk := "Critical Risk"
      color := "#DC2626"
      recommendation := "DO NOT DEPLOY. Critical fixes required immediately. Complete security " ++
        "audit recommended." }
  | highRisk =>
    { name := "High Risk"
      description := "Contract contains high-severity vulnerabilities that could lead to " ++
        "significant issues."
      criteria := [
        "No Critical vulnerabilities",
        "One or more High severity vulnerabilities",
        "Unchecked external calls",
        "Potential for unauthorized access",
        "Integer overflow/underflow risks"]
      risk := "High Risk"
      color := "#F59E0B"
      recommendation := "Deployment not recommended. Address all high severity issues before " ++
        "deployment." }
  | mediumRisk =>
    { name := "Medium Risk"
      description := "Contract has medium-severity issues that should be addressed but do not " ++
        "pose immediate critical risk."
      criteria := [
        "No Critical or High severity vulnerabilities",
        "One or more Medium severity issues",
        "Outdated compiler version",
        "Floating pragma",
        "Minor access control improvements needed"]
      risk := "Medium Risk"
      color := "#EAB308"
      recommendation := "Address medium severity issues before production deployment. " ++
        "Recommended for testnet." }
  | lowRisk =>
    { name := "Low Risk"
      description := "Contract follows most best practices with only minor informational " ++
        "findings."
      criteria := [
        "No Critical, High, or Medium vulnerabilities",
        "Only Low severity or informational findings",
        "Good security practices followed",
        "Minor code quality improvements possible",
        "Proper access controls in place"]
      risk := "Low Risk"
      color := "#22C55E"
      recommendation := "Generally safe for deployment. Consider addressing low severity " ++
        "findings for optimization." }
  | secure =>
    { name := "Secure"
      description := "Contract demonstrates excellent security practices with no significant " ++
        "vulnerabilities."
      criteria := [
        "No vulnerabilities detected",
        "Follows all security best practices",
        "Proper access controls implemented",
        "Reentrancy protection in place",
        "Safe arithmetic operations",
        "Modern compiler version",
        "Well-structured and maintainable code"]
      risk := "Secure"
      color := "#10B981"
      recommendation := "Safe for production deployment. Continue monitoring for new " ++
        "vulnerability patterns." }

end TrustLevel

end ContractAudit
