import ContractAudit.Catalog.Detector
import ContractAudit.Catalog.Solidity.Shapes
import ContractAudit.Source.Contract
import ContractAudit.Source.Pragma

/-!
# Triggers of the Solidity detectors

Conditions that one pattern cannot state: most look at functions, loops or contracts one by one, so
that a guard in one function does not hide that another has none.
-/
namespace ContractAudit.Catalog.Solidity

open Source

def isGuarded (b : Block) : Bool :=
  guardHeader.occursIn b.header || guardBody.occursIn b.body

/-! ## Reentrancy -/

/-- The transfers among numbered lines that a write to state follows. `pending` holds the transfers
seen since the last write. -/
def transfersBeforeWrite (pending : List Nat) : Nat → List Text → List Nat
  | _, [] => []
  | number, line :: rest =>
    let written := !pending.isEmpty && stateWrite.occursIn line
    let open' := if written then [] else pending
    let next := if externalTransfer.occursIn line then open' ++ [number] else open'
    (if written then pending else []) ++ transfersBeforeWrite next (number + 1) rest

/-- The transfers of a function that a write to state follows, if nothing locks the function. -/
def reentrantCallsOf (b : Block) : List Nat :=
  if nonReentrant.occursIn b.header then []
  else transfersBeforeWrite [] (b.start + 1) b.lines.tail

def reentrantCalls (code : Text) : List Nat :=
  (functionBlocks code).flatMap reentrantCallsOf

/-! ## Visibility -/

def unscopedFunctions (code : Text) : List Nat :=
  let src := bare code
  ((signature.findAll src).filter fun m => !visibility.occursIn m.text).map fun m =>
    lineNumberAt src m.offset

def hasHiddenVisibility (code : Text) : Bool :=
  (contracts code).any fun c =>
    c.stateVariables.any fun v => !stateVisibility.occursIn v.qualifiers

/-! ## Access -/

def hasUnprotectedSelfDestruct (code : Text) : Bool :=
  (functionBlocks code).any fun b => selfDestruct.occursIn b.body && !isGuarded b

def isOpenWithdrawal (b : Block) : Bool :=
  publicEntry.occursIn b.header && !readOnly.occursIn b.header && ownBalance.occursIn b.body &&
    externalTransfer.occursIn b.body && !isGuarded b

def hasOpenWithdrawal (code : Text) : Bool :=
  (functionBlocks code).any isOpenWithdrawal

def storesUncheckedAddress (b : Block) : Bool :=
  !zeroAddress.occursIn b.body &&
    (addressParameter.findAll b.header).any fun m => (storesParameter (m.group 1)).occursIn b.body

def hasUncheckedAddress (code : Text) : Bool :=
  (functionBlocks code).any storesUncheckedAddress

/-! ## Compiler version -/

def checkedArithmetic : Version := ⟨0, 8, 0⟩

/-- The version that the pragma names, as far as a detector can use it. -/
def declaredVersion (code : Text) : Except Fault (Option Version) :=
  match version? code with
  | .ok v => .ok v
  | .error .numeralTooLong => .error .numeralTooLong

def isOutdated : Option Version → Bool
  | none => false
  | some v => v.isBefore checkedArithmetic

def outdatedCompiler : Trigger := fun code => do
  return isOutdated (← declaredVersion code)

/-- Arithmetic that wraps around: an old compiler, and no library that checks. -/
def uncheckedArithmetic : Trigger := fun code => do
  let version ← declaredVersion code
  return isOutdated version && !code.mentions "SafeMath" && plainArithmetic.occursIn (bare code)

def hasFloatingPragma (code : Text) : Bool :=
  match pragma? code with
  | none => false
  | some constraint => isFloating constraint

/-! ## Signatures and hashes -/

def hasMalleableSignature (code : Text) : Bool :=
  recoverCall.occursIn (bare code) && !halfOrder.occursIn (bare code)

def hasUncheckedRecovery (code : Text) : Bool :=
  recoverCall.occursIn (bare code) && !zeroAddressTest.occursIn (bare code)

def lacksNonce (code : Text) : Bool :=
  anyRecoverCall.occursIn (bare code) && !nonce.occursIn (bare code)

def hasHashCollision (code : Text) : Bool :=
  packedArguments.occursIn (bare code) && dynamicParameter.occursIn (bare code)

/-! ## Loops -/

def hasCallInLoop (code : Text) : Bool :=
  (loopBlocks code).any fun b => loopCall.occursIn b.body

/-! ## Inheritance -/

def variablesOf (all : List Contract) (name : Text) : List Text :=
  match all.reverse.find? fun c => c.name == name with
  | none => []
  | some c => c.stateVariables.map (·.name)

def hasShadowing (code : Text) : Bool :=
  let all := contracts code
  all.any fun c => c.parents.any fun parent =>
    (variablesOf all c.name).any (variablesOf all parent).contains

def hasMisnamedConstructor (code : Text) : Bool :=
  (contracts code).any fun c =>
    c.members.any fun (_, line) => (constructorOf c.name).occursIn line

/-! ## Everything else -/

def hasApproveRace (code : Text) : Bool :=
  (functionNamed "approve").occursIn (bare code) && !(bare code).mentions "increaseAllowance"

def hasGasGriefing (code : Text) : Bool :=
  dataCall.occursIn (bare code) && !(bare code).mentions "gasleft"

def hasFunctionJump (code : Text) : Bool :=
  assemblyBlock.occursIn (bare code) && functionVariable.occursIn (bare code)

def hasStaleOracle (code : Text) : Bool :=
  (bare code).mentions "latestRoundData" && !freshnessTest.occursIn (bare code)

def hasSingleStepOwnership (code : Text) : Bool :=
  (functionNamed "transferOwnership").occursIn (bare code) &&
    !twoStepOwnership.occursIn (bare code)

end ContractAudit.Catalog.Solidity
