import ContractAudit.Text.Basic

/-!
# Punycode

A text as ASCII letters and digits: its ASCII characters first, then numbers that say which other
characters stand between them. A number is written with digits to the base 36, where the place of a
digit and the numbers before it decide which digits end a number.
-/
namespace ContractAudit.Url.Punycode

def digit (n : Nat) : Char :=
  if n < 26 then Char.ofNat ('a'.toNat + n) else Char.ofNat ('0'.toNat + (n - 26))

def digitValue? (c : Char) : Option Nat :=
  if c.isDigit then some (c.toNat - '0'.toNat + 26)
  else if c.isAlpha then some (c.toLower.toNat - 'a'.toNat)
  else none

def threshold (place bias : Nat) : Nat :=
  min 26 (max 1 (place - bias))

def scale : (bound : Nat) → (place n : Nat) → Nat
  | 0, place, _ => place
  | bound + 1, place, n =>
    if 455 < n then scale bound (place + 36) (n / 35) else place + 36 * n / (n + 38)

/-- The bias after a number, when `count` characters are placed. -/
def adapt (n count : Nat) (first : Bool) : Nat :=
  let n := if first then n / 700 else n / 2
  scale n 0 (n + n / count)

/-! ## Writing -/

def numberDigits (bias : Nat) : (bound : Nat) → (place n : Nat) → Text
  | 0, _, n => [digit n]
  | bound + 1, place, n =>
    let t := threshold place bias
    if n < t then [digit n]
    else digit (t + (n - t) % (36 - t)) :: numberDigits bias bound (place + 36) ((n - t) / (36 - t))

/-- What has been written, the distance from the last character that was placed, the bias and the
number of characters placed. -/
structure Writing where
  written : Text := []
  distance : Nat := 0
  bias : Nat := 72
  placed : Nat
  first : Bool := true

def Writing.pass (n : Nat) (w : Writing) (c : Char) : Writing :=
  if c.toNat < n then { w with distance := w.distance + 1 }
  else if c.toNat = n then
    { written := w.written ++ numberDigits w.bias w.distance 36 w.distance
      distance := 0
      bias := adapt w.distance (w.placed + 1) w.first
      placed := w.placed + 1
      first := false }
  else w

def place (t : Text) (least : Nat) : Writing → List Nat → Writing
  | w, [] => w
  | w, n :: rest =>
    let w := { w with distance := w.distance + (n - least) * (w.placed + 1) }
    let w := t.foldl (Writing.pass n) w
    place t (n + 1) { w with distance := w.distance + 1 } rest

def encode (t : Text) : Text :=
  let basic := t.filter fun c => c.toNat < 128
  let codes := ((t.filter fun c => 128 ≤ c.toNat).map Char.toNat).mergeSort.eraseDups
  let front := if basic.isEmpty then [] else basic ++ ['-']
  front ++ (place t 128 { placed := basic.length } codes).written

/-! ## Reading -/

def takeNumber? (bias place weight sum : Nat) : Text → Option (Nat × Text)
  | [] => none
  | c :: rest => do
    let d ← digitValue? c
    let sum := sum + d * weight
    let t := threshold place bias
    if d < t then some (sum, rest)
    else takeNumber? bias (place + 36) (weight * (36 - t)) sum rest

/-- Inserts the characters that the numbers give, after one that was inserted at `position`. -/
def insertAll : (bound : Nat) → (code position bias : Nat) → (first : Bool) → (t : Text) →
    (numbers : Text) → Option Text
  | 0, _, _, _, _, _, _ => none
  | _ + 1, _, _, _, _, t, [] => some t
  | bound + 1, code, position, bias, first, t, numbers => do
    let (n, rest) ← takeNumber? bias 36 1 0 numbers
    let count := t.length + 1
    let position := position + n
    let code := code + position / count
    let position := position % count
    if 0x10ffff < code then none
    else
      insertAll bound code (position + 1) (adapt n count first) false
        (t.take position ++ Char.ofNat code :: t.drop position) rest

def decode? (t : Text) : Option Text :=
  let tail := (t.reverse.takeWhile (· != '-')).reverse
  let front := t.take (t.length - tail.length - 1)
  insertAll (tail.length + 1) 128 0 72 true front tail

end ContractAudit.Url.Punycode
