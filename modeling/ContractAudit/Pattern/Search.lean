import ContractAudit.Pattern.Basic

/-!
# Searching with patterns

A search tries a pattern at every position of a text from left to right. `Pattern.findAll` gives the
leftmost matches that do not overlap.
-/
namespace ContractAudit.Pattern

structure Match where
  offset : Nat
  opening : Text
  closing : Text
  captures : List Capture

def Match.length (m : Match) : Nat :=
  m.opening.length - m.closing.length

def Match.text (m : Match) : Text :=
  m.opening.take m.length

/-- What a numbered part matched, if it took part. -/
def Match.group? (m : Match) (n : Nat) : Option Text :=
  (m.captures.find? (·.group == n)).map (·.text)

def Match.group (m : Match) (n : Nat) : Text :=
  (m.group? n).getD []

def matchHere? (p : Pattern) (before : Option Char) (t : Text) (offset : Nat) : Option Match :=
  (p.run ⟨before, t, []⟩ some).map fun s => ⟨offset, t, s.rest, s.captures⟩

def matchStart? (p : Pattern) (t : Text) : Option Match :=
  p.matchHere? none t 0

def findFrom? (p : Pattern) : Option Char → Text → Nat → Option Match
  | before, [], offset => p.matchHere? before [] offset
  | before, c :: rest, offset =>
    match p.matchHere? before (c :: rest) offset with
    | some m => some m
    | none => findFrom? p (some c) rest (offset + 1)

def find? (p : Pattern) (t : Text) : Option Match :=
  p.findFrom? none t 0

def occursIn (p : Pattern) (t : Text) : Bool :=
  (p.find? t).isSome

def opens (p : Pattern) (t : Text) : Bool :=
  (p.matchStart? t).isSome

/-- Matches from here on, after the next `skip` characters, which the last match has taken. -/
def findAllFrom (p : Pattern) : Option Char → Text → (offset skip : Nat) → List Match
  | before, [], offset, skip =>
    match skip with
    | 0 => (p.matchHere? before [] offset).toList
    | _ + 1 => []
  | _, c :: rest, offset, skip + 1 => findAllFrom p (some c) rest (offset + 1) skip
  | before, c :: rest, offset, 0 =>
    match p.matchHere? before (c :: rest) offset with
    | some m => m :: findAllFrom p (some c) rest (offset + 1) (m.length - 1)
    | none => findAllFrom p (some c) rest (offset + 1) 0

/-- The leftmost matches that do not overlap, in order. -/
def findAll (p : Pattern) (t : Text) : List Match :=
  p.findAllFrom none t 0 0

end ContractAudit.Pattern
