/-!
# Rounding to 53 binary digits

Quotients and sums that are computed in double precision: the exact value is rounded to 53 binary
digits, a tie going to the even neighbour. Values are exact fractions throughout, so a rounded
value can be rounded again or compared with the exact one.
-/
namespace ContractAudit.Number

/-- A fraction; the denominator is meant to be positive. -/
structure Fraction where
  num : Int
  den : Nat
deriving DecidableEq, Repr

/-- The quotient rounded to a whole number, a tie going to the even neighbour. -/
def roundHalfEven (n d : Nat) : Nat :=
  let q := n / d
  let r := n % d
  if 2 * r < d then q
  else if d < 2 * r then q + 1
  else if q % 2 = 0 then q
  else q + 1

/-- The power of two that the last of 53 digits of `n / d` counts, for a positive quotient. -/
def lastDigitExponent (n d : Nat) : Int :=
  let guess : Int := Nat.log2 n - Nat.log2 d - 52
  if n * Nat.pow 2 (-guess).toNat < Nat.pow 2 52 * d * Nat.pow 2 guess.toNat then guess - 1
  else guess

def roundNat (n d : Nat) : Fraction :=
  if n = 0 then ⟨0, 1⟩
  else
    let e := lastDigitExponent n d
    let m := roundHalfEven (n * Nat.pow 2 (-e).toNat) (d * Nat.pow 2 e.toNat)
    ⟨m * Nat.pow 2 e.toNat, Nat.pow 2 (-e).toNat⟩

def Fraction.round (x : Fraction) : Fraction :=
  let r := roundNat x.num.natAbs x.den
  ⟨if x.num < 0 then -r.num else r.num, r.den⟩

def Fraction.addHalf (x : Fraction) : Fraction :=
  ⟨2 * x.num + x.den, 2 * x.den⟩

def Fraction.floor (x : Fraction) : Int :=
  x.num / x.den

def Fraction.isHuge (x : Fraction) : Bool :=
  Nat.pow 2 1024 * x.den ≤ x.num.natAbs

end ContractAudit.Number
