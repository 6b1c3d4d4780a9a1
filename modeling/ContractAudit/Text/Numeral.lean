import ContractAudit.Number.Double
import ContractAudit.Text.Basic
import ContractAudit.Text.Casing
import ContractAudit.Text.Digit

/-!
# Numbers in free text

A number that a person typed: white space around it, a sign, digits of any script with single
underscores between them. Whole numbers have a limit on their length; other numbers may have a
point, an exponent, or be one of the words for infinity and for no number.
-/
namespace ContractAudit.Text

/-- White space around a number; the information separators do not count. -/
def isNumberBlank (c : Char) : Bool :=
  isBlank c && !(28 ≤ c.toNat && c.toNat ≤ 31)

def trimNumber (t : Text) : Text :=
  ((t.dropWhile isNumberBlank).reverse.dropWhile isNumberBlank).reverse

def takeSign : Text → Bool × Text
  | '-' :: rest => (true, rest)
  | '+' :: rest => (false, rest)
  | rest => (false, rest)

/-- The text without its underscores if each stands between two digits. -/
def dropUnderscores (before : Option Char) : Text → Option Text
  | [] => some []
  | '_' :: rest =>
    if (before.map isDecimal).getD false && (rest.head?.map isDecimal).getD false then
      dropUnderscores (some '_') rest
    else none
  | c :: rest => (dropUnderscores (some c) rest).map (c :: ·)

def readInteger? (t : Text) : Option Int := do
  let (negative, unsigned) := takeSign t.trimNumber
  let digits ← dropUnderscores none unsigned
  if digits.isEmpty || !digits.all isDecimal then none
  else
    let n ← readNumeral? digits
    return if negative then -(n : Int) else n

def readPower? : Text → Option Int
  | [] => some 0
  | c :: rest =>
    if c = 'e' || c = 'E' then
      let (negative, digits) := takeSign rest
      if digits.isEmpty || !digits.all isDecimal then none
      else some (if negative then -(numeralValue digits : Int) else numeralValue digits)
    else none

def readDecimal? (negative : Bool) (t : Text) : Option Number.Double := do
  let whole := t.takeWhile isDecimal
  let after := t.drop whole.length
  let (places, after) := match after with
    | '.' :: rest => (rest.takeWhile isDecimal, rest.dropWhile isDecimal)
    | rest => ([], rest)
  if whole.isEmpty && places.isEmpty then none
  else
    let power ← readPower? after
    return .ofDecimal negative (numeralValue (whole ++ places)) (power - places.length)

def readNumberWord? (negative : Bool) (t : Text) : Option Number.Double :=
  match String.ofList (t.map Char.toLower) with
  | "inf" => some (.infinite negative)
  | "infinity" => some (.infinite negative)
  | "nan" => some .nan
  | _ => none

def readDouble? (t : Text) : Option Number.Double := do
  let (negative, unsigned) := takeSign t.trimNumber
  (readNumberWord? negative unsigned).or
    ((dropUnderscores none unsigned).bind (readDecimal? negative))

end ContractAudit.Text
