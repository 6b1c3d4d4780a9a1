import ContractAudit.Json.Value
import ContractAudit.Text.Basic
import ContractAudit.Text.Digit
import ContractAudit.Text.Numeral

/-!
# Reading JSON

The reader takes the standard grammar and the words `NaN`, `Infinity` and `-Infinity` for numbers.
A member that is given twice has the last value. Whole numbers that are too long to be read are a
fault of their own.

A text is read with a bound on the number of steps that its length always satisfies.
-/
namespace ContractAudit.Json

inductive ReadError where
  | malformed
  | numeralTooLong (digits : Nat)
deriving DecidableEq, Repr

def isSpace (c : Char) : Bool :=
  c == ' ' || c == '\n' || c == '\t' || c == '\r'

def skipSpace (t : Text) : Text :=
  t.dropWhile isSpace

def hexValue? (c : Char) : Option Nat :=
  if c.isDigit then some (c.toNat - '0'.toNat)
  else if 'a' ≤ c && c ≤ 'f' then some (c.toNat - 'a'.toNat + 10)
  else if 'A' ≤ c && c ≤ 'F' then some (c.toNat - 'A'.toNat + 10)
  else none

def readHex : Text → Option (Nat × Text)
  | a :: b :: c :: d :: rest => do
    let a ← hexValue? a
    let b ← hexValue? b
    let c ← hexValue? c
    let d ← hexValue? d
    return (((a * 16 + b) * 16 + c) * 16 + d, rest)
  | _ => none

def isHighHalf (n : Nat) : Bool :=
  0xd800 ≤ n && n < 0xdc00

def isLowHalf (n : Nat) : Bool :=
  0xdc00 ≤ n && n < 0xe000

/-- The character of a code unit, joined with the escape after it if the two are halves of one. -/
def readUnit (unit : Nat) (rest : Text) : Char × Text :=
  if isHighHalf unit then
    match rest with
    | '\\' :: 'u' :: after =>
      match readHex after with
      | some (low, rest') =>
        if isLowHalf low then
          (Char.ofNat (0x10000 + (unit - 0xd800) * 0x400 + (low - 0xdc00)), rest')
        else (Char.ofNat 0xfffd, rest)
      | none => (Char.ofNat 0xfffd, rest)
    | _ => (Char.ofNat 0xfffd, rest)
  else if isLowHalf unit then (Char.ofNat 0xfffd, rest)
  else (Char.ofNat unit, rest)

def simpleEscape? : Char → Option Char
  | '\x22' => some '\x22'
  | '\\' => some '\\'
  | '/' => some '/'
  | 'b' => some '\x08'
  | 'f' => some '\x0c'
  | 'n' => some '\n'
  | 'r' => some '\r'
  | 't' => some '\t'
  | _ => none

/-- The rest of a string whose opening quote has been read; the characters so far are in reverse. -/
def readString : (bound : Nat) → (sofar : Text) → Text → Except ReadError (String × Text)
  | 0, _, _ => .error .malformed
  | _ + 1, _, [] => .error .malformed
  | bound + 1, sofar, c :: rest =>
    if c = '\x22' then .ok (String.ofList sofar.reverse, rest)
    else if c = '\\' then
      match rest with
      | 'u' :: after =>
        match readHex after with
        | none => .error .malformed
        | some (unit, rest') =>
          let (c', rest'') := readUnit unit rest'
          readString bound (c' :: sofar) rest''
      | e :: after =>
        match simpleEscape? e with
        | none => .error .malformed
        | some c' => readString bound (c' :: sofar) after
      | [] => .error .malformed
    else if c.toNat < 32 then .error .malformed
    else readString bound (c :: sofar) rest

def readFraction : Text → Text × Text
  | '.' :: rest =>
    let digits := rest.takeWhile Char.isDigit
    if digits.isEmpty then ([], '.' :: rest) else ('.' :: digits, rest.drop digits.length)
  | rest => ([], rest)

def readExponent : Text → Text × Text
  | [] => ([], [])
  | e :: rest =>
    if e = 'e' || e = 'E' then
      let sign := match rest with
        | '+' :: _ => ['+']
        | '-' :: _ => ['-']
        | _ => []
      let after := rest.drop sign.length
      let digits := after.takeWhile Char.isDigit
      if digits.isEmpty then ([], e :: rest)
      else (e :: sign ++ digits, after.drop digits.length)
    else ([], e :: rest)

/-- The whole part of a number: a zero alone or digits that do not start with one. -/
def readWhole : Text → Option (Text × Text)
  | '0' :: rest => some (['0'], rest)
  | rest =>
    let digits := rest.takeWhile Char.isDigit
    if digits.isEmpty then none else some (digits, rest.drop digits.length)

def readUnsigned (negative : Bool) (t : Text) : Except ReadError (Json × Text) :=
  match readWhole t with
  | none => .error .malformed
  | some (whole, rest) =>
    let (fraction, rest') := readFraction rest
    let (exponent, rest'') := readExponent rest'
    if fraction.isEmpty && exponent.isEmpty then
      match Text.readNumeral? whole with
      | none => .error (.numeralTooLong whole.length)
      | some n => .ok (.int (if negative then -(n : Int) else n), rest)
    else
      match Text.readDecimal? negative (whole ++ fraction ++ exponent) with
      | none => .error .malformed
      | some x => .ok (.float x, rest'')

def words : List (String × Json) :=
  [("null", .null), ("true", .bool true), ("false", .bool false), ("NaN", .float .nan),
    ("Infinity", .float (.infinite false)), ("-Infinity", .float (.infinite true))]

def readWord (t : Text) : Option (Json × Text) :=
  words.findSome? fun (word, value) =>
    (Text.dropOpening? word.toList t).map fun rest => (value, rest)

def readScalar (t : Text) : Except ReadError (Json × Text) :=
  match readWord t with
  | some found => .ok found
  | none =>
    match t with
    | '-' :: rest => readUnsigned true rest
    | _ => readUnsigned false t

mutual

def readValue : (bound : Nat) → Text → Except ReadError (Json × Text)
  | 0, _ => .error .malformed
  | bound + 1, t =>
    match t with
    | '\x22' :: rest => do
      let (s, rest) ← readString (rest.length + 1) [] rest
      return (.str s, rest)
    | '[' :: rest =>
      match skipSpace rest with
      | ']' :: after => .ok (.arr [], after)
      | items => readItems bound [] items
    | '{' :: rest =>
      match skipSpace rest with
      | '}' :: after => .ok (.obj [], after)
      | members => readMembers bound [] members
    | _ => readScalar t

def readItems : (bound : Nat) → List Json → Text → Except ReadError (Json × Text)
  | 0, _, _ => .error .malformed
  | bound + 1, sofar, t => do
    let (item, rest) ← readValue bound t
    match skipSpace rest with
    | ',' :: after => readItems bound (item :: sofar) (skipSpace after)
    | ']' :: after => return (.arr (item :: sofar).reverse, after)
    | _ => .error .malformed

def readMembers : (bound : Nat) → List (String × Json) → Text → Except ReadError (Json × Text)
  | 0, _, _ => .error .malformed
  | bound + 1, sofar, t =>
    match t with
    | '\x22' :: rest => do
      let (key, rest) ← readString (rest.length + 1) [] rest
      match skipSpace rest with
      | ':' :: after => do
        let (value, rest) ← readValue bound (skipSpace after)
        let members := setMember sofar key value
        match skipSpace rest with
        | ',' :: after => readMembers bound members (skipSpace after)
        | '}' :: after => return (.obj members, after)
        | _ => .error .malformed
      | _ => .error .malformed
    | _ => .error .malformed

end

def read (t : Text) : Except ReadError Json := do
  let (value, rest) ← readValue (2 * t.length + 2) (skipSpace t)
  if (skipSpace rest).isEmpty then return value else .error .malformed

end ContractAudit.Json
