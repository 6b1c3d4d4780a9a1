/-!
# Moments

A date and time with milliseconds in the usual international notation. A time at offset zero ends
in `Z`, another offset is written out, and a time without an offset has none.
-/
namespace ContractAudit

structure Moment where
  year : Nat
  month : Nat
  day : Nat
  hour : Nat := 0
  minute : Nat := 0
  second : Nat := 0
  microsecond : Nat := 0
  /-- Seconds ahead of universal time. -/
  offset : Option Int := none
deriving DecidableEq, Repr

namespace Moment

def padded (width n : Nat) : String :=
  let digits := toString n
  String.ofList (List.replicate (width - digits.length) '0') ++ digits

def offsetText (seconds : Int) : String :=
  let n := seconds.natAbs
  (if seconds < 0 then "-" else "+") ++ padded 2 (n / 3600) ++ ":" ++ padded 2 (n / 60 % 60) ++
    (if n % 60 = 0 then "" else ":" ++ padded 2 (n % 60))

def zoneText : Option Int → String
  | none => ""
  | some seconds => if seconds = 0 then "Z" else offsetText seconds

def text (m : Moment) : String :=
  padded 4 m.year ++ "-" ++ padded 2 m.month ++ "-" ++ padded 2 m.day ++ "T" ++ padded 2 m.hour ++
    ":" ++ padded 2 m.minute ++ ":" ++ padded 2 m.second ++ "." ++
    padded 3 (m.microsecond / 1000) ++ zoneText m.offset

def monthAndDay (dayOfYear : Nat) : Nat × Nat :=
  let m := (5 * dayOfYear + 2) / 153
  (if m < 10 then m + 3 else m - 9, dayOfYear - (153 * m + 2) / 5 + 1)

/-- The moment in universal time so many milliseconds after the start of the year 1970. Days are
counted in periods of 400 years that begin on the first of March. -/
def ofMilliseconds (n : Nat) : Moment :=
  let days := n / 86400000 + 719468
  let period := days / 146097
  let day := days % 146097
  let year := (day - day / 1460 + day / 36524 - day / 146096) / 365
  let (month, dayOfMonth) := monthAndDay (day - (365 * year + year / 4 - year / 100))
  { year := 400 * period + year + (if month ≤ 2 then 1 else 0)
    month := month
    day := dayOfMonth
    hour := n / 3600000 % 24
    minute := n / 60000 % 60
    second := n / 1000 % 60
    microsecond := n % 1000 * 1000
    offset := some 0 }

end Moment

end ContractAudit
