import ContractAudit.Finding

/-!
# Severity filters

A filter names the least severe severity that it keeps, or keeps everything.
-/
namespace ContractAudit.Filter

def severities : List Severity :=
  [.critical, .high, .medium, .low]

def keepAll : String := "all"

def nameOf (s : Severity) : String :=
  String.ofList (s.label.toList.map Char.toLower)

def names : List String :=
  keepAll :: severities.map nameOf

structure Unknown where
  name : String
deriving DecidableEq, Repr

def Unknown.message (e : Unknown) : String :=
  "Unknown severity filter '" ++ e.name ++ "'; expected one of " ++ ", ".intercalate names

/-- The least severe severity that a filter keeps, if it drops any; case and white space around
the name do not count. -/
def threshold (name : String) : Except Unknown (Option Severity) :=
  let key := String.ofList (Text.lower (Text.trim name.toList))
  if key == keepAll then .ok none
  else
    match severities.find? fun s => nameOf s == key with
    | some s => .ok (some s)
    | none => .error ⟨name⟩

def apply (threshold : Option Severity) (findings : List Finding) : List Finding :=
  match threshold with
  | none => findings
  | some least => findings.filter fun f => f.severity.atLeast least

def select (name : String) (findings : List Finding) : Except Unknown (List Finding) :=
  (threshold name).map fun least => apply least findings

end ContractAudit.Filter
