import ContractAudit.Number.Binary

/-!
# Doubles

Double-precision numbers as exact values: a sign and a whole number of units, a unit being a power
of two. Reading a decimal rounds to the nearest double, a tie going to the even neighbour; values
that are too large become infinite.
-/
namespace ContractAudit.Number

inductive Double where
  /-- `units` times two to the power `exponent`, with a sign that a zero keeps. -/
  | finite (negative : Bool) (units : Nat) (exponent : Int)
  | infinite (negative : Bool)
  | nan
deriving DecidableEq, Repr

namespace Double

def zero (negative : Bool) : Double :=
  finite negative 0 0

def isFinite : Double → Bool
  | finite .. => true
  | _ => false

def leastExponent : Int := -1074

def ofRatio (negative : Bool) (n d : Nat) : Double :=
  let e := max leastExponent (lastDigitExponent n d)
  let units := roundHalfEven (n * Nat.pow 2 (-e).toNat) (d * Nat.pow 2 e.toNat)
  if Nat.pow 2 1024 ≤ units * Nat.pow 2 e.toNat then infinite negative
  else if units = 0 then zero negative
  else if units = Nat.pow 2 53 then finite negative (Nat.pow 2 52) (e + 1)
  else finite negative units e

def digitCount (n : Nat) : Nat :=
  (Nat.toDigits 10 n).length

def ofDecimal (negative : Bool) (digits : Nat) (exponent : Int) : Double :=
  if digits = 0 then zero negative
  else if 400 < exponent + digitCount digits then infinite negative
  else if exponent + digitCount digits < -400 then zero negative
  else ofRatio negative (digits * Nat.pow 10 exponent.toNat) (Nat.pow 10 (-exponent).toNat)

/-! ## Arithmetic -/

/-- The value of a finite double in units of two to the power `least`, which is not above its
exponent. -/
def unitsAbove (least : Int) (negative : Bool) (units : Nat) (exponent : Int) : Int :=
  let n : Int := units * Nat.pow 2 (exponent - least).toNat
  if negative then -n else n

/-- The double nearest to a whole number of units of two to the power `exponent`. A sum that
vanishes has the sign `negative`. -/
def ofUnits (negative : Bool) (n : Int) (exponent : Int) : Double :=
  if n = 0 then zero negative
  else ofRatio (n < 0) (n.natAbs * Nat.pow 2 exponent.toNat) (Nat.pow 2 (-exponent).toNat)

def neg : Double → Double
  | finite negative units e => finite (!negative) units e
  | infinite negative => infinite (!negative)
  | nan => nan

def add : Double → Double → Double
  | finite a m d, finite b n e =>
    let least := min d e
    ofUnits (a && b) (unitsAbove least a m d + unitsAbove least b n e) least
  | infinite a, infinite b => if a = b then infinite a else nan
  | infinite a, finite .. => infinite a
  | finite .., infinite b => infinite b
  | nan, _ => nan
  | _, nan => nan

/-- The product with a whole number that is itself rounded first. -/
def mulNat (x : Double) (n : Nat) : Double :=
  match x, (if n = 0 then zero false else ofRatio false n 1) with
  | finite a m d, finite _ k e =>
    if m * k = 0 then zero a else ofUnits a (unitsAbove 0 a (m * k) 0) (d + e)
  | infinite a, finite _ k _ => if k = 0 then nan else infinite a
  | finite a m _, infinite _ => if m = 0 then nan else infinite a
  | infinite a, infinite _ => infinite a
  | nan, _ => nan
  | _, nan => nan

/-! ## Comparison -/

def isZero : Double → Bool
  | finite _ units _ => units == 0
  | _ => false

/-- Not above the whole number; a value that is no number is never comparable. -/
def atMost (x : Double) (n : Int) : Bool :=
  match x with
  | finite negative units e =>
    let scaled : Int := units * Nat.pow 2 e.toNat
    (if negative then -scaled else scaled) ≤ n * Nat.pow 2 (-e).toNat
  | infinite negative => negative
  | nan => false

def atLeast (x : Double) (n : Int) : Bool :=
  match x with
  | finite negative units e =>
    let scaled : Int := units * Nat.pow 2 e.toNat
    n * Nat.pow 2 (-e).toNat ≤ (if negative then -scaled else scaled)
  | infinite negative => !negative
  | nan => false

end Double

end ContractAudit.Number
