import ContractAudit.Interruption
import ContractAudit.Text.Digit
import ContractAudit.Text.Quoted

/-!
# What can be wrong with a settings file

A text may break the rules of its notation. It may also follow them and hold a scalar that cannot be
what its kind says: a number without digits, a day that no month has.
-/
namespace ContractAudit.Yaml

inductive Fault where
  | malformed
  | character (code : Nat)
  | wholeNumber (base : Nat) (text : Text)
  | digitCount (count : Nat)
  | number (text : Text)
  | noNumber
  | truthValue
  | moment
  | year (n : Nat)
  | month
  | day
  | hour
  | minute
  | second
  /-- An offset from universal time, in minutes, is a day or more. -/
  | offset (minutes : Int)
  /-- A place of a number to the base sixty counts more than a double can. -/
  | place
deriving DecidableEq, Repr

namespace Fault

/-- A stretch of time in days and seconds, where only the days may be negative. -/
def stretchText (minutes : Int) : String :=
  let days := minutes.fdiv 1440
  let seconds := 60 * minutes.fmod 1440
  "datetime.timedelta(days=" ++ toString days ++
    (if seconds = 0 then ")" else ", seconds=" ++ toString seconds ++ ")")

def message? : Fault → Option String
  | malformed => none
  | character code =>
    if code < Nat.pow 2 31 then some "chr() arg not in range(0x110000)" else none
  | wholeNumber base text =>
    some ("invalid literal for int() with base " ++ toString base ++ ": " ++
      String.ofList ((Text.quoted text).take 200))
  | digitCount count => some (Text.numeralLimitMessage (some count))
  | number text =>
    some ("could not convert string to float: " ++ String.ofList (Text.quoted text))
  | noNumber => none
  | truthValue => none
  | moment => none
  | year n => some ("year " ++ toString n ++ " is out of range")
  | month => some "month must be in 1..12"
  | day => some "day is out of range for month"
  | hour => some "hour must be in 0..23"
  | minute => some "minute must be in 0..59"
  | second => some "second must be in 0..59"
  | offset minutes =>
    some ("offset must be a timedelta strictly between -timedelta(hours=24) and " ++
      "timedelta(hours=24), not " ++ stretchText minutes ++ ".")
  | place => none

def interruption (f : Fault) : Interruption :=
  match f, f.message? with
  | _, some message => ⟨"ValueError", message, by decide⟩
  | noNumber, none => ⟨"IndexError", "", by decide⟩
  | truthValue, none => ⟨"KeyError", "", by decide⟩
  | moment, none => ⟨"AttributeError", "", by decide⟩
  | _, none => ⟨"OverflowError", "", by decide⟩

end Fault

end ContractAudit.Yaml
