import ContractAudit.Catalog.Solidity.Triggers

/-!
# The Solidity catalog

Detectors in the order in which their findings are reported, roughly the worst first.
-/
namespace ContractAudit.Catalog.Solidity

def rightToLeftOverride : Char := Char.ofNat 0x202e

def licenseTag : String := "SPDX-License-Identifier"

def located (lines : Text → List Nat) : Locator := fun code =>
  .ok ((lines code).map Int.ofNat)

def detectors : List Detector := [
  { id := "reentrancy"
    name := "Reentrancy Vulnerability"
    severity := .critical
    description := "An external call transferring Ether is made before the contract updates its " ++
      "own state."
    trigger := .when fun code => !(reentrantCalls code).isEmpty
    matcher := .pattern externalTransfer
    locate := some (located reentrantCalls)
    swcId := some "SWC-107"
    controls := ["V6.1"]
    exploitation := "A malicious contract receives the Ether in its fallback function and " ++
      "re-enters the vulnerable function before the balance is reduced, draining funds in a loop."
    recommendation := "Apply the checks-effects-interactions pattern: update balances before " ++
      "the external call, or protect the function with a reentrancy guard." },
  { id := "unprotected-selfdestruct"
    name := "Unprotected Selfdestruct"
    severity := .critical
    description := "selfdestruct can be reached without an access control check."
    trigger := .when hasUnprotectedSelfDestruct
    matcher := .pattern selfDestruct
    swcId := some "SWC-106"
    controls := ["V2.1"]
    exploitation := "Any account calls the function, destroys the contract and sends its Ether " ++
      "balance to an address of its choosing."
    recommendation := "Restrict the function to an authorized role or remove selfdestruct." },
  { id := "unprotected-ether-withdrawal"
    name := "Unprotected Ether Withdrawal"
    severity := .critical
    description := "A public function transfers the contract's entire balance without checking " ++
      "the caller."
    trigger := .when hasOpenWithdrawal
    matcher := .pattern balanceTransfer
    swcId := some "SWC-105"
    controls := ["V2.1"]
    exploitation := "Any account calls the withdrawal function and receives all funds."
    recommendation := "Guard withdrawal functions with an ownership or role check." },
  { id := "delegatecall-untrusted"
    name := "Delegatecall to Untrusted Callee"
    severity := .critical
    description := "delegatecall executes foreign code against this contract's storage."
    trigger := .occurs delegateCall
    matcher := .pattern delegateCall
    swcId := some "SWC-112"
    controls := ["V6.3"]
    exploitation := "If the callee address can be influenced, an attacker supplies a contract " ++
      "that overwrites owner slots or self-destructs the caller."
    recommendation := "Only delegatecall into immutable, audited implementation addresses." },
  { id := "missing-visibility"
    name := "Missing Function Visibility"
    severity := .high
    description := "A function is declared without an explicit visibility specifier."
    trigger := .when fun code => !(unscopedFunctions code).isEmpty
    matcher := .pattern unscopedFunction
    locate := some (located unscopedFunctions)
    swcId := some "SWC-100"
    controls := ["V2.1"]
    exploitation := "Older compilers make such functions public; an attacker calls what was " ++
      "intended to be an internal helper."
    recommendation := "Declare public, external, internal or private on every function." },
  { id := "tx-origin-auth"
    name := "Authorization through tx.origin"
    severity := .high
    description := "tx.origin is compared against an address to authorize a caller."
    trigger := .occurs originTest
    matcher := .pattern originTest
    swcId := some "SWC-115"
    controls := ["V2.4"]
    exploitation := "The owner is lured into calling a malicious contract, which then calls " ++
      "this contract; tx.origin still equals the owner and the check passes."
    recommendation := "Use msg.sender for authorization." },
  { id := "unchecked-call-return"
    name := "Unchecked Low-Level Call"
    severity := .high
    description := "The boolean result of a low-level call or send is ignored."
    trigger := .occurs (uncheckedCall .lineStart)
    matcher := .pattern (uncheckedCall .textStart)
    swcId := some "SWC-104"
    controls := ["V6.2"]
    exploitation := "The call fails silently and the contract continues as if the payment or " ++
      "interaction succeeded, leaving accounting inconsistent."
    recommendation := "Check the returned success flag and revert on failure." },
  { id := "integer-overflow"
    name := "Integer Overflow and Underflow"
    severity := .high
    description := "Arithmetic compiled with a pre-0.8 compiler, without SafeMath, wraps around " ++
      "silently."
    trigger := uncheckedArithmetic
    matcher := .pattern plainArithmetic
    swcId := some "SWC-101"
    controls := ["V3.1"]
    exploitation := "An attacker picks amounts that underflow a balance check, minting a huge " ++
      "balance out of nothing."
    recommendation := "Compile with Solidity 0.8 or later, or use SafeMath." },
  { id := "weak-randomness"
    name := "Weak Sources of Randomness"
    severity := .high
    description := "Block attributes are used as a source of randomness."
    trigger := .occurs weakRandomness
    matcher := .pattern weakRandomnessLine
    swcId := some "SWC-120"
    controls := ["V10.2"]
    exploitation := "Miners, validators or contracts in the same block compute the same value " ++
      "and only act when the outcome favours them."
    recommendation := "Use a verifiable randomness source such as Chainlink VRF or " ++
      "commit-reveal." },
  { id := "missing-replay-protection"
    name := "Signature Replay"
    severity := .high
    description := "Signed messages are accepted without a nonce."
    trigger := .when lacksNonce
    matcher := .pattern anyRecoverCall
    swcId := some "SWC-121"
    controls := ["V11.2"]
    exploitation := "A previously valid signature is submitted again to repeat the action."
    recommendation := "Include a per-signer nonce, the chain id and the contract address in the " ++
      "signed payload." },
  { id := "ecrecover-zero-address"
    name := "Missing Signature Verification"
    severity := .high
    description := "The address returned by ecrecover is not checked against zero."
    trigger := .when hasUncheckedRecovery
    matcher := .pattern recoverCall
    swcId := some "SWC-122"
    controls := ["V11.1"]
    exploitation := "An invalid signature makes ecrecover return address(0), which matches an " ++
      "uninitialized signer slot."
    recommendation := "Reject a zero recovered address, or use OpenZeppelin ECDSA.recover." },
  { id := "hash-collision"
    name := "Hash Collision with Multiple Variable Length Arguments"
    severity := .high
    description := "abi.encodePacked packs several dynamic arguments into one hash input."
    trigger := .when hasHashCollision
    matcher := .pattern packedArguments
    swcId := some "SWC-133"
    controls := ["V11.3"]
    exploitation := "Moving bytes between adjacent dynamic arguments yields the same packed " ++
      "encoding, so different inputs share a signature or commitment."
    recommendation := "Use abi.encode, or pack at most one dynamic argument." },
  { id := "unbounded-loop"
    name := "DoS with Block Gas Limit"
    severity := .high
    description := "A loop iterates over an array whose length can grow without bound."
    trigger := .occurs lengthLoop
    matcher := .pattern lengthLoop
    swcId := some "SWC-128"
    controls := ["V5.1"]
    exploitation := "An attacker grows the array until iterating it exceeds the block gas " ++
      "limit, permanently blocking the function."
    recommendation := "Bound iterations or process the array in paginated batches." },
  { id := "call-in-loop"
    name := "DoS with Failed Call"
    severity := .high
    description := "External calls are made inside a loop."
    trigger := .when hasCallInLoop
    matcher := .pattern loopStart
    swcId := some "SWC-113"
    controls := ["V6.4"]
    exploitation := "A single recipient that always reverts makes the whole loop revert, " ++
      "blocking payouts for everyone."
    recommendation := "Favour pull over push payments and isolate each external call." },
  { id := "uninitialized-storage-pointer"
    name := "Uninitialized Storage Pointer"
    severity := .high
    description := "A local storage variable is declared without being initialized."
    trigger := .occurs (storagePointer .lineStart)
    matcher := .pattern (storagePointer .textStart)
    swcId := some "SWC-109"
    controls := ["V9.1"]
    exploitation := "Writes through the pointer land in slot 0 and overwrite unrelated state."
    recommendation := "Initialize storage pointers or use memory for local variables." },
  { id := "private-data-exposure"
    name := "Unencrypted Private Data On-Chain"
    severity := .high
    description := "A secret value is stored in a state variable marked private."
    trigger := .occurs privateSecret
    matcher := .pattern privateSecret
    swcId := some "SWC-136"
    controls := ["V8.1"]
    exploitation := "Anyone reads the storage slot directly from the chain."
    recommendation := "Never store secrets on-chain; use commit-reveal with salted hashes." },
  { id := "rtlo-character"
    name := "Right-To-Left-Override Control Character"
    severity := .high
    description := "The source contains the U+202E right-to-left override character."
    trigger := .when fun code => code.contains rightToLeftOverride
    matcher := .literal [rightToLeftOverride]
    swcId := some "SWC-130"
    controls := ["V15.3"]
    exploitation := "Reviewers read reordered text while the compiler sees the real order."
    recommendation := "Remove U+202E from the source." },
  { id := "spot-price-oracle"
    name := "Spot Price Oracle"
    severity := .high
    description := "Prices are read from AMM reserves or the current pool tick."
    trigger := .occurs spotPrice
    matcher := .pattern spotPrice
    controls := ["V7.2"]
    exploitation := "A flash loan skews the reserves within one transaction to move the price."
    recommendation := "Use a time-weighted average price or an external price oracle." },
  { id := "state-variable-default-visibility"
    name := "State Variable Default Visibility"
    severity := .medium
    description := "A state variable is declared without an explicit visibility."
    trigger := .when hasHiddenVisibility
    matcher := .pattern hiddenVisibility
    swcId := some "SWC-108"
    controls := ["V8.2"]
    exploitation := "Readers assume a visibility the compiler does not apply."
    recommendation := "Declare the visibility of every state variable explicitly." },
  { id := "unchecked-block"
    name := "Unchecked Arithmetic Block"
    severity := .medium
    description := "Arithmetic inside an unchecked block is not overflow-checked."
    trigger := .occurs uncheckedBlock
    matcher := .pattern uncheckedBlock
    swcId := some "SWC-101"
    controls := ["V3.1"]
    exploitation := "Values near the type bounds wrap around silently."
    recommendation := "Only use unchecked for arithmetic whose bounds are proven." },
  { id := "outdated-compiler"
    name := "Outdated Compiler Version"
    severity := .medium
    description := "The pragma admits a compiler older than 0.8.0."
    trigger := outdatedCompiler
    matcher := .pattern solidityPragma
    swcId := some "SWC-102"
    controls := ["V15.1"]
    exploitation := "Known compiler bugs fixed in later releases can affect the bytecode."
    recommendation := "Use a recent 0.8.x compiler release." },
  { id := "timestamp-dependence"
    name := "Block Timestamp Dependence"
    severity := .medium
    description := "Control flow depends on block.timestamp or now."
    trigger := .occurs timeTest
    matcher := .pattern timeTest
    swcId := some "SWC-116"
    controls := ["V10.1"]
    exploitation := "Validators shift the timestamp by several seconds to pass a deadline check."
    recommendation := "Tolerate timestamp drift or use block numbers for coarse timing." },
  { id := "signature-malleability"
    name := "Signature Malleability"
    severity := .medium
    description := "ecrecover is used without restricting s to the lower half order."
    trigger := .when hasMalleableSignature
    matcher := .pattern recoverCall
    swcId := some "SWC-117"
    controls := ["V11.1"]
    exploitation := "A second valid signature is derived from an existing one to bypass " ++
      "used-signature checks."
    recommendation := "Use OpenZeppelin ECDSA, which rejects malleable signatures." },
  { id := "approve-front-running"
    name := "Transaction Order Dependence on approve"
    severity := .medium
    description := "approve overwrites an allowance that may be spent in the meantime."
    trigger := .when hasApproveRace
    matcher := .pattern (functionNamed "approve")
    swcId := some "SWC-114"
    controls := ["V12.3"]
    exploitation := "The spender front-runs an allowance change, spending the old allowance and " ++
      "then the new one."
    recommendation := "Provide increaseAllowance/decreaseAllowance or require a zero allowance " ++
      "first." },
  { id := "shadowing-state-variables"
    name := "Shadowing State Variables"
    severity := .medium
    description := "A contract redeclares a state variable inherited from a parent."
    trigger := .when hasShadowing
    matcher := .pattern childContract
    swcId := some "SWC-119"
    controls := ["V13.2"]
    exploitation := "Parent functions read one variable while the child writes the other."
    recommendation := "Remove the redeclaration and assign the inherited variable instead." },
  { id := "strict-balance-equality"
    name := "Unexpected Ether Balance"
    severity := .medium
    description := "Logic relies on the contract balance being exactly equal to a value."
    trigger := .occurs balanceEquality
    matcher := .pattern balanceEquality
    swcId := some "SWC-132"
    controls := ["V9.1"]
    exploitation := "Ether forced in via selfdestruct breaks the equality for good."
    recommendation := "Track deposits in a state variable instead of reading the balance." },
  { id := "arbitrary-storage-write"
    name := "Write to Arbitrary Storage Location"
    severity := .medium
    description := "Array lengths or raw storage slots are written directly."
    trigger := .occurs storageWrite
    matcher := .pattern storageWrite
    swcId := some "SWC-124"
    controls := ["V9.1"]
    exploitation := "An attacker-controlled index reaches the slot holding the owner address."
    recommendation := "Never expose raw storage writes or array length manipulation." },
  { id := "function-type-jump"
    name := "Arbitrary Jump with Function Type Variable"
    severity := .medium
    description := "Inline assembly is used in a contract holding function type variables."
    trigger := .when hasFunctionJump
    matcher := .pattern assemblyBlock
    swcId := some "SWC-127"
    controls := ["V13.2"]
    exploitation := "Assembly overwrites the function pointer to jump to arbitrary code."
    recommendation := "Avoid assembly that can alter function type variables." },
  { id := "gas-griefing"
    name := "Insufficient Gas Griefing"
    severity := .medium
    description := "Calls forwarding caller-supplied data do not check the remaining gas."
    trigger := .when hasGasGriefing
    matcher := .pattern dataCall
    swcId := some "SWC-126"
    controls := ["V5.3"]
    exploitation := "A relayer supplies just enough gas for the outer call but not the inner one."
    recommendation := "Require gasleft() to cover the sub-call, or let the signer fix the gas." },
  { id := "typographical-error"
    name := "Typographical Error"
    severity := .medium
    description := "An assignment operator looks like a mistyped compound operator."
    trigger := .occurs mistypedOperator
    matcher := .pattern mistypedOperator
    swcId := some "SWC-129"
    controls := ["V13.2"]
    exploitation := "x =+ 1 assigns 1 instead of incrementing, corrupting balances."
    recommendation := "Use += or -= and keep a space around unary operators." },
  { id := "incorrect-constructor-name"
    name := "Incorrect Constructor Name"
    severity := .medium
    description := "A function named after the contract, or named constructor, acts as a normal " ++
      "function."
    trigger := .when hasMisnamedConstructor
    matcher := .pattern constructorLike
    swcId := some "SWC-118"
    controls := ["V2.1"]
    exploitation := "Anyone calls the intended constructor later and becomes the owner."
    recommendation := "Use the constructor keyword." },
  { id := "stale-oracle-price"
    name := "Stale Oracle Price"
    severity := .medium
    description := "latestRoundData is consumed without checking the update time."
    trigger := .when hasStaleOracle
    matcher := .pattern roundDataCall
    controls := ["V7.1"]
    exploitation := "A stale price during feed downtime lets positions be opened at the wrong " ++
      "price."
    recommendation := "Check updatedAt against a heartbeat and validate the answer is positive." },
  { id := "division-before-multiplication"
    name := "Division Before Multiplication"
    severity := .medium
    description := "A division result is multiplied, losing precision."
    trigger := .occurs divisionFirst
    matcher := .pattern divisionFirst
    controls := ["V3.2"]
    exploitation := "Truncation rounds small amounts to zero, skewing fees or rewards."
    recommendation := "Multiply before dividing." },
  { id := "unchecked-erc20-transfer"
    name := "Unchecked ERC20 Transfer"
    severity := .medium
    description := "The boolean returned by an ERC20 transfer is ignored."
    trigger := .occurs (tokenTransfer .lineStart)
    matcher := .pattern (tokenTransfer .textStart)
    swcId := some "SWC-104"
    controls := ["V12.2"]
    exploitation := "Tokens that return false instead of reverting leave the transfer undone."
    recommendation := "Use SafeERC20 safeTransfer and safeTransferFrom." },
  { id := "missing-zero-address-check"
    name := "Missing Zero Address Validation"
    severity := .low
    description := "An address parameter is stored without rejecting address(0)."
    trigger := .when hasUncheckedAddress
    matcher := .pattern accountAssignment
    controls := ["V4.2"]
    exploitation := "A mistaken zero address locks ownership or burns funds sent to it."
    recommendation := "require(addr != address(0)) before storing the address." },
  { id := "floating-pragma"
    name := "Floating Pragma"
    severity := .low
    description := "The pragma admits several compiler releases."
    trigger := .when hasFloatingPragma
    matcher := .pattern floatingPragmaLine
    swcId := some "SWC-103"
    controls := ["V15.1"]
    exploitation := "The contract is deployed with a compiler other than the tested one."
    recommendation := "Lock the pragma to the exact compiler version used in testing." },
  { id := "deprecated-functions"
    name := "Use of Deprecated Solidity Functions"
    severity := .low
    description := "Deprecated built-ins such as suicide, sha3, callcode or throw are used."
    trigger := .occurs deprecatedFunction
    matcher := .pattern deprecatedFunction
    swcId := some "SWC-111"
    controls := ["V15.2"]
    exploitation := "Deprecated constructs behave differently or fail on current compilers."
    recommendation := "Use selfdestruct, keccak256, delegatecall, revert and gasleft()." },
  { id := "assert-violation"
    name := "Assert Violation"
    severity := .low
    description := "assert is used, possibly for input validation."
    trigger := .occurs assertion
    matcher := .pattern assertion
    swcId := some "SWC-110"
    controls := ["V4.1"]
    exploitation := "A reachable failing assert consumes the caller's gas and signals a logic " ++
      "bug."
    recommendation := "Use require for input validation; keep assert for invariants." },
  { id := "hardcoded-gas"
    name := "Message Call with Hardcoded Gas Amount"
    severity := .low
    description := "transfer, send or a fixed gas stipend forwards a hardcoded amount of gas."
    trigger := .occurs fixedGas
    matcher := .pattern fixedGas
    swcId := some "SWC-134"
    controls := ["V6.4"]
    exploitation := "Gas repricing makes the stipend insufficient and payments start failing."
    recommendation := "Use call with a checked return value instead of transfer or send." },
  { id := "code-without-effect"
    name := "Code With No Effects"
    severity := .low
    description := "A statement has no effect, such as a comparison used as a statement."
    trigger := .occurs (withoutEffect .lineStart)
    matcher := .pattern (withoutEffect .textStart)
    swcId := some "SWC-135"
    controls := ["V13.2"]
    exploitation := "The intended check or call never happens."
    recommendation := "Replace the statement with the intended require or call." },
  { id := "single-step-ownership"
    name := "Single-Step Ownership Transfer"
    severity := .low
    description := "Ownership moves to the new owner without acceptance."
    trigger := .when hasSingleStepOwnership
    matcher := .pattern (functionNamed "transferOwnership")
    controls := ["V2.3"]
    exploitation := "A typo in the new owner address locks administration forever."
    recommendation := "Use a two-step transfer where the new owner accepts ownership." },
  { id := "inline-assembly"
    name := "Inline Assembly"
    severity := .info
    description := "Inline assembly bypasses the compiler's safety checks."
    trigger := .occurs assemblyBlock
    matcher := .pattern assemblyBlock
    controls := ["V13.2"]
    exploitation := "Memory or storage mistakes in assembly are not caught by the compiler."
    recommendation := "Keep assembly minimal and document the invariants it relies on." },
  { id := "missing-license"
    name := "Missing SPDX License Identifier"
    severity := .info
    description := "The source carries no SPDX license identifier."
    trigger := .when fun code => !code.mentions licenseTag
    matcher := .literal licenseTag.toList
    controls := ["V13.1"]
    recommendation := "Add an SPDX-License-Identifier comment at the top of the file." }]

end ContractAudit.Catalog.Solidity
