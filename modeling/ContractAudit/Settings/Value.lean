import ContractAudit.Audit.Moment
import ContractAudit.Json.Shown
import ContractAudit.Number.Quantity
import ContractAudit.Text.Digit

/-!
# Values of settings

A settings file may give any value to any setting; which values make sense is decided later.
-/
namespace ContractAudit

inductive Setting where
  | null
  | bool (b : Bool)
  | int (n : Int)
  | float (x : Number.Double)
  | str (s : String)
  | date (year month day : Nat)
  | moment (m : Moment)
  | bytes (content : List UInt8)
  | list (items : List Setting)
  | set (items : List Setting)
  | map (entries : List (Setting × Setting))
deriving Inhabited

namespace Setting

/-- Values that count as missing: null, false, zero and whatever is empty. -/
def isEmpty : Setting → Bool
  | null => true
  | bool b => !b
  | int n => n == 0
  | float x => x.isZero
  | str s => s.isEmpty
  | date .. => false
  | moment _ => false
  | bytes content => content.isEmpty
  | list items => items.isEmpty
  | set items => items.isEmpty
  | map entries => entries.isEmpty

/-- The number that a value is; a truth value counts as one or zero. -/
def quantity? : Setting → Option Number.Quantity
  | bool b => some (.whole (if b then 1 else 0))
  | int n => some (.whole n)
  | float x => some (.real x)
  | _ => none

def isUnwritable : Setting → Bool
  | int n => !Text.isWritable n
  | _ => false

def numberText : Setting → String
  | bool b => Json.shownBool b
  | int n => toString n
  | float x => x.text
  | _ => ""

def isText : Setting → Bool
  | str _ => true
  | _ => false

end Setting

end ContractAudit
