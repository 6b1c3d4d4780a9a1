import ContractAudit.Source.Comment
import ContractAudit.Text.Digit

/-!
# The compiler version of a Solidity source

The first `pragma solidity` gives the version constraint, and the first number in it the version.
For a range written from its lower end this is the oldest compiler that the source admits.
-/
namespace ContractAudit.Source

open Pattern in
def pragmaPattern : Pattern :=
  inOrder [text "pragma", blanks1, text "solidity", blanks1, capture 1 (many1 (except [';'])),
    text ";"]

def pragma? (code : Text) : Option Text :=
  (pragmaPattern.find? (bare code)).map fun m => (m.group 1).trim

open Pattern in
def versionPattern : Pattern :=
  inOrder [capture 1 (many1 Text.isDecimal), text ".", capture 2 (many1 Text.isDecimal),
    optional (seq (text ".") (capture 3 (many1 Text.isDecimal)))]

structure Version where
  major : Nat
  minor : Nat
  patch : Nat
deriving DecidableEq, Repr

def Version.isBefore (v w : Version) : Bool :=
  v.major < w.major || (v.major == w.major &&
    (v.minor < w.minor || (v.minor == w.minor && v.patch < w.patch)))

inductive VersionError where
  | numeralTooLong
deriving DecidableEq, Repr

def readPart (digits : Text) : Except VersionError Nat :=
  match Text.readNumeral? digits with
  | some n => .ok n
  | none => .error .numeralTooLong

/-- The first version number in a constraint; a missing patch number is zero. -/
def constraintVersion? (constraint : Text) : Except VersionError (Option Version) :=
  match versionPattern.find? constraint with
  | none => .ok none
  | some m => do
    let major ← readPart (m.group 1)
    let minor ← readPart (m.group 2)
    let patch ← readPart (m.group 3)
    return some ⟨major, minor, patch⟩

def version? (code : Text) : Except VersionError (Option Version) :=
  match pragma? code with
  | none => .ok none
  | some constraint => constraintVersion? constraint

/-- Does the constraint admit more than one compiler release? -/
def isFloating (constraint : Text) : Bool :=
  ["^", ">", "<", "~", "*", "||"].any fun mark => constraint.mentions mark

end ContractAudit.Source
