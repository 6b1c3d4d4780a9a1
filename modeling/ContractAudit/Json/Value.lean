import ContractAudit.Number.Double

/-!
# JSON values

Objects keep their members in order of first appearance, because that order decides which of two
faults in a request is reported. A number with a fraction or an exponent is a double.
-/
namespace ContractAudit

inductive Json where
  | null
  | bool (b : Bool)
  | int (n : Int)
  /-- A number that is not written as a whole number. -/
  | float (x : Number.Double)
  | str (s : String)
  | arr (items : List Json)
  | obj (members : List (String × Json))
deriving Inhabited

namespace Json

/-- The members with one set: in its place if it is there, else at the end. -/
def setMember (members : List (String × Json)) (key : String) (value : Json) :
    List (String × Json) :=
  match members with
  | [] => [(key, value)]
  | (k, v) :: rest => if k == key then (key, value) :: rest else (k, v) :: setMember rest key value

def member? (members : List (String × Json)) (key : String) : Option Json :=
  (members.find? fun m => m.1 == key).map (·.2)

def get? : Json → String → Option Json
  | obj members, key => member? members key
  | _, _ => none

def strings (items : List String) : Json :=
  arr (items.map str)

def nat (n : Nat) : Json :=
  int n

def orNull : Option Json → Json
  | none => null
  | some v => v

/-- Values that count as missing: null, false, zero and whatever is empty. -/
def isEmpty : Json → Bool
  | null => true
  | bool b => !b
  | int n => n == 0
  | float x => x.isZero
  | str s => s.isEmpty
  | arr items => items.isEmpty
  | obj members => members.isEmpty

mutual

def isFinite : Json → Bool
  | float x => x.isFinite
  | arr items => areFinite items
  | obj members => membersAreFinite members
  | _ => true

def areFinite : List Json → Bool
  | [] => true
  | item :: rest => isFinite item && areFinite rest

def membersAreFinite : List (String × Json) → Bool
  | [] => true
  | (_, value) :: rest => isFinite value && membersAreFinite rest

end

end Json

end ContractAudit
