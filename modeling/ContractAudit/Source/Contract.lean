import ContractAudit.Source.Block
import ContractAudit.Text.Digit

/-!
# Contract declarations

The top-level contracts, libraries and interfaces of a Solidity source, with the lines that stand
directly in their bodies and the state variables declared there.
-/
namespace ContractAudit.Source

structure Contract where
  name : Text
  parents : List Text
  start : Nat
  /-- Number and text of every line directly inside the body. -/
  members : List (Nat × Text)
deriving DecidableEq, Repr

open Pattern in
def contractHeader : Pattern :=
  inOrder [textStart, blanks, optional (seq (text "abstract") blanks1),
    anyText ["contract", "library", "interface"], blanks1, capture 1 word,
    optional (inOrder [blanks1, text "is", blanks1, capture 2 (many1 (except ['{']))])]

open Pattern in
def parentPattern : Pattern :=
  inOrder [capture 1 word, blanks, optional arguments]

def parentNames (list : Text) : List Text :=
  (parentPattern.findAll list).map (·.group 1)

/-- A contract whose body has not ended; its members are in reverse. -/
structure OpenContract where
  name : Text
  parents : List Text
  start : Nat
  members : List (Nat × Text)
  opened : Bool
  depth : Int

def openContract? (number : Nat) (line : Text) : Option OpenContract :=
  (contractHeader.matchStart? line).map fun m =>
    ⟨m.group 1, parentNames (m.group 2), number, [], false, 0⟩

/-- Takes a later line as a member if it stands directly in the body. -/
def OpenContract.addMember (c : OpenContract) (number : Nat) (line : Text) : OpenContract :=
  if c.opened && c.depth == 1 then { c with members := (number, line) :: c.members } else c

def OpenContract.countBraces (c : OpenContract) (line : Text) : OpenContract :=
  { c with opened := c.opened || line.contains '{', depth := c.depth + braceBalance line }

def OpenContract.isFinished (c : OpenContract) : Bool :=
  c.opened && c.depth ≤ 0

def OpenContract.close (c : OpenContract) : Contract :=
  ⟨c.name, c.parents, c.start, c.members.reverse⟩

def contractsFrom : Option OpenContract → Nat → List Text → List Contract
  | _, _, [] => []
  | current, number, line :: rest =>
    let inside := match current with
      | none => openContract? number line
      | some c => some (c.addMember number line)
    match inside with
    | none => contractsFrom none (number + 1) rest
    | some c =>
      let c := c.countBraces line
      if c.isFinished then c.close :: contractsFrom none (number + 1) rest
      else contractsFrom (some c) (number + 1) rest

def contracts (code : Text) : List Contract :=
  contractsFrom none 1 (bare code).lines

/-! ## State variables -/

structure StateVariable where
  line : Nat
  name : Text
  /-- The words between type and name, with the white space before each. -/
  qualifiers : Text
deriving DecidableEq, Repr

open Pattern in
/-- The type of a variable: a mapping, an elementary type or a name with a capital, and arrays of
the latter two. -/
def typePattern : Pattern :=
  alt (inOrder [text "mapping", blanks, text "(", lineRest, text ")"])
    (inOrder [
      anyOf [
        inOrder [optional (text "u"), text "int", many Text.isDecimal],
        inOrder [text "address", optional (seq blanks1 (text "payable"))],
        text "bool",
        seq (text "bytes") (many Text.isDecimal),
        text "string",
        seq (one fun c => c.isUpper) wordChars],
      star (inOrder [text "[", wordChars, text "]"])])

open Pattern in
def declarationEnd : Pattern :=
  inOrder [blanks, optional (seq (text "=") (many (except [';']))), text ";"]

open Pattern in
def stateDeclaration : Pattern :=
  inOrder [textStart, blanks, typePattern,
    capture 1 (star (seq blanks1 (anyText ["public", "private", "internal", "constant",
      "immutable", "override", "transient"]))),
    blanks1, capture 2 word, declarationEnd]

def stateVariable? (number : Nat) (line : Text) : Option StateVariable :=
  (stateDeclaration.matchStart? line).map fun m => ⟨number, m.group 2, m.group 1⟩

def Contract.stateVariables (c : Contract) : List StateVariable :=
  c.members.filterMap fun (number, line) => stateVariable? number line

end ContractAudit.Source
