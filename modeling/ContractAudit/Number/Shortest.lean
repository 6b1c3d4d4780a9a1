import ContractAudit.Number.Double

/-!
# The shortest decimal of a double

The fewest significant digits that read back as the same double; of two candidates with as many
digits the nearer one. Numbers from a ten-thousandth up to ten to the sixteenth are written
positionally, with at least one place; others have an exponent of at least two digits.
-/
namespace ContractAudit.Number

/-- `digits` times ten to the power `exponent`. -/
structure Decimal where
  digits : Nat
  exponent : Int
deriving DecidableEq, Repr

namespace Double

def leadingPower (n d : Nat) : Int :=
  let guess : Int := digitCount n - digitCount d
  if n * Nat.pow 10 (-guess).toNat < d * Nat.pow 10 guess.toNat then guess - 1 else guess

/-- The two neighbours of a positive quotient on the grid of `count` digits, the nearer first; a
tie goes to the even one. -/
def neighbours (n d count : Nat) : List Decimal :=
  let exponent := leadingPower n d - count + 1
  let num := n * Nat.pow 10 (-exponent).toNat
  let den := d * Nat.pow 10 exponent.toNat
  let below : Decimal := ⟨num / den, exponent⟩
  let above : Decimal := ⟨num / den + 1, exponent⟩
  if roundHalfEven num den = below.digits then [below, above] else [above, below]

/-- The first candidate that reads back, on grids of `count` and more digits. -/
def shortestFrom (target : Double) (n d : Nat) : (more count : Nat) → Decimal
  | 0, count => (neighbours n d count).headD ⟨0, 0⟩
  | more + 1, count =>
    match (neighbours n d count).find? fun c => ofDecimal false c.digits c.exponent == target with
    | some found => found
    | none => shortestFrom target n d more (count + 1)

def maxDigits : Nat := 17

def shortest (units : Nat) (exponent : Int) : Decimal :=
  shortestFrom (finite false units exponent) (units * Nat.pow 2 exponent.toNat)
    (Nat.pow 2 (-exponent).toNat) (maxDigits - 1) 1

def significant (n : Nat) : List Char :=
  ((Nat.toDigits 10 n).reverse.dropWhile (· == '0')).reverse

/-- Positional text; `point` digits stand before the point. -/
def positional (digits : List Char) (point : Int) : List Char :=
  if point ≤ 0 then '0' :: '.' :: List.replicate (-point).toNat '0' ++ digits
  else
    let whole := digits.take point.toNat
    let places := digits.drop point.toNat
    whole ++ List.replicate (point.toNat - whole.length) '0' ++ '.' ::
      (if places.isEmpty then ['0'] else places)

def exponentDigits (n : Nat) : List Char :=
  if n < 10 then '0' :: Nat.toDigits 10 n else Nat.toDigits 10 n

def scientific (digits : List Char) (power : Int) : List Char :=
  let places := digits.drop 1
  digits.take 1 ++ (if places.isEmpty then [] else '.' :: places) ++
    'e' :: (if power < 0 then '-' else '+') :: exponentDigits power.natAbs

def writeDecimal (x : Decimal) : List Char :=
  let power : Int := x.exponent + digitCount x.digits - 1
  let digits := significant x.digits
  if -4 ≤ power && power < 16 then positional digits (power + 1) else scientific digits power

def signText (negative : Bool) : String :=
  if negative then "-" else ""

def text : Double → String
  | finite negative units exponent =>
    if units = 0 then signText negative ++ "0.0"
    else signText negative ++ String.ofList (writeDecimal (shortest units exponent))
  | infinite negative => signText negative ++ "inf"
  | nan => "nan"

end Double

end ContractAudit.Number
