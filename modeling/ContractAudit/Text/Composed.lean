import ContractAudit.Text.Basic
import ContractAudit.Text.CombiningTable

/-!
# Composed text

A text is composed when no character and mark in it could be written as one character and all marks
stand in the order of their classes. Whether it is can be seen by taking it apart and putting it
together again.
-/
namespace ContractAudit.Text

def markClass (c : Char) : Nat :=
  match markClasses.find? fun entry => entry.1 ≤ c.toNat && c.toNat ≤ entry.2.1 with
  | some (_, _, n) => n
  | none => 0

/-! ## Syllables

A syllable of the Korean script has a leading consonant, a vowel and possibly a trailing consonant,
and its number is computed from theirs. -/

def firstSyllable : Nat := 0xac00

def firstLeading : Nat := 0x1100

def firstVowel : Nat := 0x1161

def noTrailing : Nat := 0x11a7

def vowelCount : Nat := 21

def trailingCount : Nat := 28

def syllableCount : Nat := 19 * vowelCount * trailingCount

def splitSyllable? (n : Nat) : Option (Nat × Nat) :=
  if firstSyllable ≤ n && n < firstSyllable + syllableCount then
    let place := n - firstSyllable
    if place % trailingCount = 0 then
      some (firstLeading + place / (vowelCount * trailingCount),
        firstVowel + place / trailingCount % vowelCount)
    else some (n - place % trailingCount, noTrailing + place % trailingCount)
  else none

def joinSyllable? (a b : Nat) : Option Nat :=
  if firstLeading ≤ a && a < firstLeading + 19 && firstVowel ≤ b && b < firstVowel + vowelCount then
    some (firstSyllable + ((a - firstLeading) * vowelCount + (b - firstVowel)) * trailingCount)
  else if firstSyllable ≤ a && a < firstSyllable + syllableCount &&
      (a - firstSyllable) % trailingCount = 0 &&
      noTrailing < b && b < noTrailing + trailingCount then
    some (a + (b - noTrailing))
  else none

/-! ## Taking apart and putting together -/

def split? (c : Char) : Option (Char × Char) :=
  let n := c.toNat
  let parts := (splitSyllable? n).or
    ((compositions.find? fun entry => entry.1 == n).map (·.2))
  parts.map fun (a, b) => (Char.ofNat a, Char.ofNat b)

def join? (a b : Char) : Option Char :=
  let found := (joinSyllable? a.toNat b.toNat).or
    ((compositions.find? fun entry => entry.2 == (a.toNat, b.toNat)).map (·.1))
  found.map Char.ofNat

/-- Takes a character apart, and the first part again. -/
def decomposeChar : (bound : Nat) → Char → Text
  | 0, c => [c]
  | bound + 1, c =>
    match split? c with
    | some (a, b) => decomposeChar bound a ++ [b]
    | none => [c]

def deepestComposition : Nat := 8

/-- Puts a mark behind the marks of its class or a lower one; `sofar` is reversed. -/
def insertMark (c : Char) (n : Nat) : (sofar : Text) → Text
  | [] => [c]
  | d :: rest => if n < markClass d then d :: insertMark c n rest else c :: d :: rest

def decompose (t : Text) : Text :=
  ((t.flatMap (decomposeChar deepestComposition)).foldl
    (fun sofar c => let n := markClass c; if n = 0 then c :: sofar else insertMark c n sofar)
    []).reverse

/-- Puts characters together with the last one that is no mark, unless a mark in between keeps them
apart; `marks` are those after it, reversed. -/
def composeFrom (base : Char) (marks : Text) : Text → Text
  | [] => base :: marks.reverse
  | c :: rest =>
    let n := markClass c
    let apart : Bool := match marks with
      | m :: _ => n ≤ markClass m
      | [] => false
    match if apart then none else join? base c with
    | some joined => composeFrom joined marks rest
    | none =>
      if n = 0 then base :: marks.reverse ++ composeFrom c [] rest
      else composeFrom base (c :: marks) rest

def compose (t : Text) : Text :=
  match t with
  | [] => []
  | c :: rest => composeFrom c [] rest

def isComposed (t : Text) : Bool :=
  compose (decompose t) == t

end ContractAudit.Text
