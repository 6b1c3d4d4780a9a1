import ContractAudit.Settings.Value
import ContractAudit.Text.Numeral
import ContractAudit.Yaml.Fault

/-!
# Scalars

What kind of value an unquoted text is: a truth value, nothing, a number, a date, or just a text.
The kind is read off the form of the text, and the value is worked out afterwards, so a text may
have the form of a number or date and still be none.
-/
namespace ContractAudit.Yaml

/-! ## Forms -/

def trueWords : List String :=
  ["yes", "Yes", "YES", "true", "True", "TRUE", "on", "On", "ON"]

def falseWords : List String :=
  ["no", "No", "NO", "false", "False", "FALSE", "off", "Off", "OFF"]

def nullWords : List String :=
  ["", "~", "null", "Null", "NULL"]

def dropFinalBreak (t : Text) : Text :=
  if 1 < t.length && t.getLast? == some '\n' then t.dropLast else t

def dropMarks (t : Text) : Text :=
  t.filter (· != '_')

def isOctal (c : Char) : Bool :=
  '0' ≤ c && c ≤ '7'

def isHex (c : Char) : Bool :=
  c.isDigit || ('a' ≤ c && c ≤ 'f') || ('A' ≤ c && c ≤ 'F')

def isBinary (c : Char) : Bool :=
  c == '0' || c == '1'

def isNumeral (isDigit : Char → Bool) (t : Text) : Bool :=
  t.all fun c => isDigit c || c == '_'

def pieces : Text → List Text
  | [] => [[]]
  | c :: rest =>
    if c = ':' then [] :: pieces rest
    else
      match pieces rest with
      | [] => [[c]]
      | piece :: more => (c :: piece) :: more

/-- A place of a number to the base sixty, after the first. -/
def isSexagesimal : Text → Bool
  | [a] => a.isDigit
  | [a, b] => '0' ≤ a && a ≤ '5' && b.isDigit
  | _ => false

def isSexagesimalRow (isFirst : Text → Bool) (t : Text) : Bool :=
  match pieces t with
  | first :: place :: more => isFirst first && (place :: more).all isSexagesimal
  | _ => false

def startsWithDigit : Text → Bool
  | c :: rest => c.isDigit && isNumeral Char.isDigit rest
  | [] => false

def startsPositive : Text → Bool
  | c :: rest => c != '0' && startsWithDigit (c :: rest)
  | [] => false

def isUnsignedWhole : Text → Bool
  | ['0'] => true
  | '0' :: 'b' :: rest => !rest.isEmpty && isNumeral isBinary rest
  | '0' :: 'x' :: rest => !rest.isEmpty && isNumeral isHex rest
  | '0' :: rest => isNumeral isOctal rest
  | t => startsPositive t || isSexagesimalRow startsPositive t

def isWhole (t : Text) : Bool :=
  isUnsignedWhole (Text.takeSign t).2

def isExponent : Text → Bool
  | [] => true
  | e :: sign :: digits =>
    (e == 'e' || e == 'E') && (sign == '+' || sign == '-') && !digits.isEmpty &&
      digits.all Char.isDigit
  | _ => false

/-- Digits before the point, or a digit right after it if there is no sign; or places to the base
sixty before the point and no exponent. -/
def isDecimal (signed : Bool) (t : Text) : Bool :=
  let whole := t.takeWhile (· != '.')
  match t.drop whole.length with
  | '.' :: after =>
    let places := after.takeWhile fun c => c.isDigit || c == '_'
    let rest := after.drop places.length
    let opens := (places.head?.map Char.isDigit).getD false
    ((startsWithDigit whole || (whole.isEmpty && !signed && opens)) && isExponent rest) ||
      (isSexagesimalRow startsWithDigit whole && rest.isEmpty)
  | _ => false

def infinityWords : List String :=
  [".inf", ".Inf", ".INF"]

def nanWords : List String :=
  [".nan", ".NaN", ".NAN"]

def isReal (t : Text) : Bool :=
  let unsigned := (Text.takeSign t).2
  let signed := unsigned.length < t.length
  infinityWords.contains (String.ofList unsigned) || nanWords.contains (String.ofList t) ||
    isDecimal signed unsigned

/-! ## Dates -/

def takeDigits? (least most : Nat) (t : Text) : Option (Nat × Text) :=
  let digits := (t.take most).takeWhile Char.isDigit
  if least ≤ digits.length then some (Text.numeralValue digits, t.drop digits.length) else none

def afterMark? (mark : Char) : Text → Option Text
  | c :: rest => if c = mark then some rest else none
  | [] => none

def takeDay? (t : Text) : Option ((Nat × Nat × Nat) × Text) := do
  let (year, t) ← takeDigits? 4 4 t
  let (month, t) ← takeDigits? 1 2 (← afterMark? '-' t)
  let (day, t) ← takeDigits? 1 2 (← afterMark? '-' t)
  return ((year, month, day), t)

def microseconds (digits : Text) : Nat :=
  Text.numeralValue ((digits ++ List.replicate 6 '0').take 6)

def offset? (t : Text) : Option (Option Int) :=
  match t.dropWhile fun c => c == ' ' || c == '\t' with
  | [] => if t.isEmpty then some none else none
  | 'Z' :: rest => if rest.isEmpty then some (some 0) else none
  | sign :: rest => do
    if sign != '+' && sign != '-' then none
    let (hours, rest) ← takeDigits? 1 2 rest
    let (minutes, rest) ← match rest with
      | ':' :: rest => takeDigits? 2 2 rest
      | _ => some (0, rest)
    if !rest.isEmpty then none
    let n : Int := 60 * hours + minutes
    return some (if sign = '-' then -n else n)

def takeMoment? (t : Text) : Option ((Nat × Nat × Nat) × Option (Moment × Option Int)) := do
  let ((year, month, day), t) ← takeDay? t
  if t.isEmpty then return ((year, month, day), none)
  let time ← match t with
    | 'T' :: rest => some rest
    | 't' :: rest => some rest
    | c :: rest =>
      if c = ' ' || c = '\t' then some (rest.dropWhile fun c => c == ' ' || c == '\t') else none
    | [] => none
  let (hour, t) ← takeDigits? 1 2 time
  let (minute, t) ← takeDigits? 2 2 (← afterMark? ':' t)
  let (second, t) ← takeDigits? 2 2 (← afterMark? ':' t)
  let (fraction, t) := match t with
    | '.' :: rest => (rest.takeWhile Char.isDigit, rest.dropWhile Char.isDigit)
    | t => ([], t)
  let offset ← offset? t
  let moment : Moment :=
    { year, month, day, hour, minute, second, microsecond := microseconds fraction
      offset := offset.map (60 * ·) }
  return ((year, month, day), some (moment, offset))

def isMoment (t : Text) : Bool :=
  match takeMoment? t with
  | some (_, some _) => true
  | some (_, none) => t.length == 10
  | none => false

def isLeapYear (year : Nat) : Bool :=
  year % 4 == 0 && (year % 100 != 0 || year % 400 == 0)

def daysIn (year month : Nat) : Nat :=
  if month = 2 then (if isLeapYear year then 29 else 28)
  else if [4, 6, 9, 11].contains month then 30
  else 31

def checkDay (year month day : Nat) : Except Fault Unit :=
  if year = 0 then .error (.year year)
  else if month = 0 || 12 < month then .error .month
  else if day = 0 || daysIn year month < day then .error .day
  else .ok ()

/-- Checks an offset first, then the day and the time. -/
def checkMoment (m : Moment) (offset : Option Int) : Except Fault Unit := do
  match offset with
  | some minutes => if 1440 ≤ minutes.natAbs then throw (.offset minutes)
  | none => pure ()
  checkDay m.year m.month m.day
  if 23 < m.hour then throw .hour
  if 59 < m.minute then throw .minute
  if 59 < m.second then throw .second

/-! ## Values -/

def digitIn (c : Char) : Nat :=
  match Text.digitValue? c with
  | some n => n
  | none =>
    if 'a' ≤ c && c ≤ 'z' then c.toNat - 'a'.toNat + 10
    else if 'A' ≤ c && c ≤ 'Z' then c.toNat - 'A'.toNat + 10
    else 36

def dropBase (base : Nat) (t : Text) : Text :=
  match t with
  | '0' :: x :: rest =>
    let letter := if base = 2 then 'b' else if base = 8 then 'o' else 'x'
    if x.toLower = letter && !rest.isEmpty then rest else t
  | _ => t

def wholeIn (base : Nat) (t : Text) : Except Fault Int :=
  let (negative, unsigned) := Text.takeSign (Text.trimNumber t)
  let digits := dropBase base unsigned
  if digits.isEmpty || digits.any fun c => base ≤ digitIn c then .error (.wholeNumber base t)
  else
    let n : Int := (digits.foldl (fun n c => base * n + digitIn c) 0 : Nat)
    .ok (if negative then -n else n)

def decimalWhole (t : Text) : Except Fault Int :=
  let (negative, digits) := Text.takeSign (Text.trimNumber t)
  if digits.isEmpty || !digits.all Text.isDecimal then .error (.wholeNumber 10 t)
  else
    match Text.readNumeral? digits with
    | some n => .ok (if negative then -(n : Int) else n)
    | none => .error (.digitCount digits.length)

def unsignedWhole (t : Text) : Except Fault Int :=
  match t with
  | [] => .error .noNumber
  | ['0'] => .ok 0
  | '0' :: 'b' :: rest => wholeIn 2 rest
  | '0' :: 'x' :: rest => wholeIn 16 rest
  | '0' :: _ => wholeIn 8 t
  | _ =>
    if t.contains ':' then do
      let places ← (pieces t).mapM decimalWhole
      return places.foldl (fun n place => 60 * n + place) 0
    else decimalWhole t

def whole (t : Text) : Except Fault Int := do
  let t := dropMarks t
  if t.isEmpty then throw .noNumber
  let (negative, unsigned) := Text.takeSign t
  let n ← unsignedWhole unsigned
  return if negative then -n else n

def realPlace (t : Text) : Except Fault Number.Double :=
  match Text.readDouble? t with
  | some x => .ok x
  | none => .error (.number t)

/-- The sum of places to the base sixty, the last one first, where the first counts `base`. -/
def sumPlaces (sum : Number.Double) (base : Nat) :
    List Number.Double → Except Fault Number.Double
  | [] => .ok sum
  | place :: rest =>
    if (Number.Double.ofRatio false base 1).isFinite then
      sumPlaces (sum.add (place.mulNat base)) (60 * base) rest
    else .error .place

def real (t : Text) : Except Fault Number.Double := do
  let t := (dropMarks t).map Char.toLower
  if t.isEmpty then throw .noNumber
  let (negative, unsigned) := Text.takeSign t
  if unsigned = ".nan".toList then return .nan
  let x ←
    if unsigned = ".inf".toList then pure (Number.Double.infinite false)
    else if unsigned.contains ':' then do
      let places ← (pieces unsigned).mapM realPlace
      sumPlaces (.zero false) 1 places.reverse
    else realPlace unsigned
  return if negative then x.neg else x

def truthValue (t : Text) : Except Fault Bool :=
  let word := String.ofList (t.map Char.toLower)
  if ["yes", "true", "on"].contains word then .ok true
  else if ["no", "false", "off"].contains word then .ok false
  else .error .truthValue

def momentOf (t : Text) : Except Fault Setting := do
  match takeMoment? (dropFinalBreak t) with
  | none => throw .moment
  | some ((year, month, day), none) =>
    checkDay year month day
    return .date year month day
  | some (_, some (m, offset)) =>
    checkMoment m offset
    return .moment m

end ContractAudit.Yaml
