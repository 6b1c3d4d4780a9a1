import ContractAudit.Catalog.Vyper.Triggers

/-!
# The Vyper catalog

The language leaves few weaknesses to look for: calls whose failure goes unnoticed, reentrancy
without a lock, block data, and compiler releases whose lock is broken.
-/
namespace ContractAudit.Catalog.Vyper

def detectors : List Detector := [
  { id := "vyper-reentrancy"
    name := "Reentrancy Vulnerability"
    severity := .critical
    description := "Ether is sent before storage is updated and the function has no " ++
      "@nonreentrant decorator."
    trigger := .when hasReentrancy
    matcher := .pattern valueTransfer
    swcId := some "SWC-107"
    controls := ["V6.1"]
    exploitation := "The recipient re-enters the function from its default function before the " ++
      "balance is reduced."
    recommendation := "Update storage before sending Ether and add @nonreentrant." },
  { id := "vyper-vulnerable-compiler"
    name := "Compiler With Broken Reentrancy Lock"
    severity := .critical
    description := "Vyper 0.2.15, 0.2.16 and 0.3.0 miscompile @nonreentrant, allowing " ++
      "cross-function reentrancy."
    trigger := .when hasVulnerableCompiler
    matcher := .pattern versionDeclaration
    swcId := some "SWC-102"
    controls := ["V15.1", "V6.1"]
    exploitation := "Functions sharing a lock key can be re-entered, as in the July 2023 Curve " ++
      "pool exploits."
    recommendation := "Recompile with Vyper 0.3.1 or later." },
  { id := "vyper-unprotected-selfdestruct"
    name := "Unprotected Selfdestruct"
    severity := .critical
    description := "selfdestruct can be reached without checking msg.sender."
    trigger := .when hasUnprotectedSelfDestruct
    matcher := .pattern selfDestruct
    swcId := some "SWC-106"
    controls := ["V2.1"]
    exploitation := "Any account destroys the contract and collects its balance."
    recommendation := "Assert msg.sender is the owner before selfdestruct." },
  { id := "vyper-unchecked-raw-call"
    name := "Unchecked raw_call"
    severity := .high
    description := "raw_call with revert_on_failure=False whose success flag is not asserted."
    trigger := .when hasUncheckedRawCall
    matcher := .pattern nonRevertingCall
    swcId := some "SWC-104"
    controls := ["V6.2"]
    exploitation := "A failed call goes unnoticed and the contract proceeds as if it succeeded."
    recommendation := "Assert the success flag returned by raw_call." },
  { id := "vyper-tx-origin"
    name := "Authorization through tx.origin"
    severity := .high
    description := "tx.origin is compared against an address."
    trigger := .occursHashless Solidity.originTest
    matcher := .pattern Solidity.originTest
    swcId := some "SWC-115"
    controls := ["V2.4"]
    exploitation := "A contract the owner interacts with forwards the call and passes the check."
    recommendation := "Use msg.sender for authorization." },
  { id := "vyper-weak-randomness"
    name := "Weak Sources of Randomness"
    severity := .high
    description := "Block data is used as a source of randomness."
    trigger := .occursHashless weakRandomness
    matcher := .pattern weakRandomnessLine
    swcId := some "SWC-120"
    controls := ["V10.2"]
    exploitation := "Validators or same-block contracts predict the value."
    recommendation := "Use a verifiable randomness source." },
  { id := "vyper-timestamp-dependence"
    name := "Block Timestamp Dependence"
    severity := .medium
    description := "Control flow depends on block.timestamp."
    trigger := .occursHashless timeTest
    matcher := .pattern timeTest
    swcId := some "SWC-116"
    controls := ["V10.1"]
    exploitation := "Validators shift the timestamp to pass a deadline check."
    recommendation := "Tolerate timestamp drift in time comparisons." },
  { id := "vyper-send"
    name := "Message Call with Hardcoded Gas Amount"
    severity := .low
    description := "send forwards a fixed 2300 gas stipend."
    trigger := .occursHashless sendCall
    matcher := .pattern sendCall
    swcId := some "SWC-134"
    controls := ["V6.4"]
    exploitation := "Recipients whose default function needs more gas cannot be paid."
    recommendation := "Use raw_call with value and check the result." },
  { id := "vyper-unbounded-loop"
    name := "DoS with Block Gas Limit"
    severity := .medium
    description := "A loop iterates over a storage array whose bound may exceed the block gas " ++
      "limit."
    trigger := .occursHashless (storageLoop .lineStart)
    matcher := .pattern (storageLoop .textStart)
    swcId := some "SWC-128"
    controls := ["V5.1"]
    exploitation := "Growing the array past the gas limit blocks the function."
    recommendation := "Bound the array length or paginate the loop." },
  { id := "vyper-floating-pragma"
    name := "Floating Pragma"
    severity := .low
    description := "The version pragma admits several compiler releases."
    trigger := .when hasFloatingVersion
    matcher := .pattern floatingVersionLine
    swcId := some "SWC-103"
    controls := ["V15.1"]
    exploitation := "The contract is compiled with a release other than the tested one."
    recommendation := "Pin the exact compiler version." }]

end ContractAudit.Catalog.Vyper
