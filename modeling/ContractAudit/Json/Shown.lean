import ContractAudit.Json.Value
import ContractAudit.Number.Shortest
import ContractAudit.Text.Digit
import ContractAudit.Text.Quoted

/-!
# Values inside messages

A message that quotes a value it did not expect shows a text as it is, and everything else in a
notation with capitalised words and quoted texts.
-/
namespace ContractAudit.Json

def shownBool (b : Bool) : String :=
  if b then "True" else "False"

mutual

def shownInside : Json → String
  | null => "None"
  | bool b => shownBool b
  | int n => toString n
  | float x => x.text
  | str s => quoteString s
  | arr items => "[" ++ shownItems items ++ "]"
  | obj members => "\x7b" ++ shownMembers members ++ "\x7d"

def shownItems : List Json → String
  | [] => ""
  | [item] => shownInside item
  | item :: rest => shownInside item ++ ", " ++ shownItems rest

def shownMembers : List (String × Json) → String
  | [] => ""
  | [(key, value)] => quoteString key ++ ": " ++ shownInside value
  | (key, value) :: rest =>
    quoteString key ++ ": " ++ shownInside value ++ ", " ++ shownMembers rest

end

def shown : Json → String
  | str s => s
  | value => shownInside value

mutual

/-- No whole number of the value has too many digits to be shown. -/
def isShowable : Json → Bool
  | int n => Text.isWritable n
  | arr items => areShowable items
  | obj members => membersAreShowable members
  | _ => true

def areShowable : List Json → Bool
  | [] => true
  | item :: rest => isShowable item && areShowable rest

def membersAreShowable : List (String × Json) → Bool
  | [] => true
  | (_, value) :: rest => isShowable value && membersAreShowable rest

end

def shown? (value : Json) : Option String :=
  if value.isShowable then some value.shown else none

def kindName : Json → String
  | null => "NoneType"
  | bool _ => "bool"
  | int _ => "int"
  | float _ => "float"
  | str _ => "str"
  | arr _ => "list"
  | obj _ => "dict"

end ContractAudit.Json
