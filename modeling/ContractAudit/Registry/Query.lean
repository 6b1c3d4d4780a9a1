import ContractAudit.Registry.Cairo
import ContractAudit.Registry.Controls
import ContractAudit.Registry.Ethereum

/-!
# Queries on the registries

Entries by what they have in common, in the order of the registry.
-/
namespace ContractAudit.Registry

def bySeverity (entries : List Weakness) (s : Severity) : List Weakness :=
  entries.filter fun e => e.severity == s

def byCwe (entries : List Weakness) (cwe : String) : List Weakness :=
  entries.filter fun e => e.cweIds.contains cwe

def controlsByCategory (category : String) : List Control :=
  controls.filter fun c => c.category == category

def controlsByLevel (level : Int) : List Control :=
  controls.filter fun c => c.level == level

end ContractAudit.Registry
