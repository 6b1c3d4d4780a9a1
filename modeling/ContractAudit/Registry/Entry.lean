import ContractAudit.Severity

/-!
# Registry entries

A registry is a fixed list of known weaknesses or of controls to verify.
-/
namespace ContractAudit.Registry

structure Weakness where
  id : String
  title : String
  severity : Severity
  cweIds : List String
  description : String
  remediation : String
  references : List String
deriving Repr

structure Control where
  id : String
  category : String
  title : String
  /-- From 1, the baseline, to 3, high assurance. -/
  level : Int
  description : String
  verification : String
deriving Repr

end ContractAudit.Registry
