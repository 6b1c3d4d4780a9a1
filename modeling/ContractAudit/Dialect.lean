import ContractAudit.Text.Quoted

/-!
# Source dialects

The contract languages that have a detector catalog.
-/
namespace ContractAudit

inductive Dialect where
  | solidity
  | cairo
  | vyper
deriving DecidableEq, Repr

namespace Dialect

def name : Dialect → String
  | solidity => "solidity"
  | cairo => "cairo"
  | vyper => "vyper"

def all : List Dialect :=
  [solidity, cairo, vyper]

structure Unsupported where
  name : String
deriving DecidableEq, Repr

def Unsupported.message (e : Unsupported) : String :=
  quoteString e.name ++ " is not a valid Dialect"

def ofName (name : String) : Except Unsupported Dialect :=
  match all.find? fun d => d.name == name with
  | some d => .ok d
  | none => .error ⟨name⟩

end Dialect

end ContractAudit
