import ContractAudit.Catalog.Cairo.Triggers

/-!
# The Cairo catalog

Every detector scans lines, most of them in a window of fixed size after a declaration.
-/
namespace ContractAudit.Catalog.Cairo

open Pattern (text)

def detectors : List Detector := [
  { id := "cairo-reentrancy"
    name := "Potential Reentrancy Vulnerability"
    severity := .critical
    description := "External call detected before state changes. Follow " ++
      "checks-effects-interactions pattern."
    trigger := .when hasReentrancy
    matcher := .pattern externalCall
    swcId := some "SWC-107"
    csrId := some "CSR-001"
    controls := ["V6.1"]
    recommendation := "Follow checks-effects-interactions pattern. Update storage before " ++
      "external calls." },
  { id := "cairo-unchecked-call"
    name := "Unchecked External Call"
    severity := .high
    description := "External contract call should be wrapped in error handling."
    trigger := .when hasUncheckedCall
    matcher := .pattern externalCall
    csrId := some "CSR-002"
    controls := ["V6.2"]
    recommendation := "Wrap external calls in match statements or use .expect() for error " ++
      "handling." },
  { id := "cairo-integer-overflow"
    name := "Potential Integer Overflow"
    severity := .high
    description := "Arithmetic operations on felt252 can overflow. Use checked arithmetic or " ++
      "u256."
    trigger := .when hasFeltOverflow
    matcher := .pattern feltArithmetic
    csrId := some "CSR-003"
    controls := ["V3.1"]
    recommendation := "Use checked arithmetic operations or u256 type with proper bounds " ++
      "checking." },
  { id := "cairo-missing-access-control"
    name := "Missing Access Control"
    severity := .critical
    description := "External function lacks access control. Add ownership or permission checks."
    trigger := .when lacksAccessControl
    matcher := .pattern sensitiveFunction
    csrId := some "CSR-004"
    controls := ["V2.1"]
    recommendation := "Implement Ownable pattern or use access control modifiers." },
  { id := "cairo-zero-address-check"
    name := "Missing Zero Address Check"
    severity := .medium
    description := "ContractAddress parameter should be validated against zero address."
    trigger := .when lacksZeroAddressCheck
    matcher := .pattern addressFunction
    csrId := some "CSR-005"
    controls := ["V4.2"]
    recommendation := "Validate ContractAddress parameters using is_non_zero() or assertions." },
  { id := "cairo-timestamp-dependency"
    name := "Timestamp Dependence"
    severity := .medium
    description := "Using block timestamp for critical logic can be manipulated."
    trigger := .when dependsOnTimestamp
    matcher := .pattern (text "get_block_timestamp")
    swcId := some "SWC-116"
    csrId := some "CSR-006"
    controls := ["V10.1"]
    recommendation := "Avoid relying on block timestamp for critical logic or add sufficient " ++
      "tolerance." },
  { id := "cairo-unused-return"
    name := "Unused Return Value"
    severity := .medium
    description := "Function return value is ignored. This may hide errors."
    trigger := .when hasUnusedReturn
    matcher := .pattern externalCallStart
    csrId := some "CSR-015"
    controls := ["V6.2"]
    recommendation := "Always capture and validate return values from external calls." },
  { id := "cairo-unsafe-felt-conversion"
    name := "Unsafe felt252 Conversion"
    severity := .high
    description := "Converting between felt252 and other types without validation can be " ++
      "dangerous."
    trigger := .when hasUnsafeConversion
    matcher := .pattern (text ".into()")
    csrId := some "CSR-008"
    controls := ["V3.3"]
    recommendation := "Use try_into() with proper error handling instead of into()." },
  { id := "cairo-missing-event"
    name := "Missing Event Emission"
    severity := .low
    description := "Critical state changes should emit events for transparency."
    trigger := .when lacksEvent
    matcher := .pattern eventfulFunction
    csrId := some "CSR-010"
    controls := ["V9.1"]
    recommendation := "Emit events for all state-changing operations for transparency." },
  { id := "cairo-storage-collision"
    name := "Potential Storage Collision"
    severity := .high
    description := "Storage variables should use unique keys to avoid collisions."
    trigger := .when hasStorageCollision
    matcher := .pattern storageMap
    csrId := some "CSR-007"
    controls := ["V5.2"]
    recommendation := "Use unique storage variable names and proper namespacing." },
  { id := "cairo-unvalidated-input"
    name := "Unvalidated Input Parameters"
    severity := .medium
    description := "Input parameters should be validated before use."
    trigger := .when hasUnvalidatedInput
    matcher := .pattern amountFunction
    csrId := some "CSR-012"
    controls := ["V4.1"]
    recommendation := "Validate all input parameters with assertions or require checks." },
  { id := "cairo-dangerous-delegate-call"
    name := "Dangerous Library Call"
    severity := .critical
    description := "library_call should only be used with trusted contracts."
    trigger := .occurs libraryCall
    matcher := .pattern libraryCall
    swcId := some "SWC-112"
    csrId := some "CSR-009"
    controls := ["V6.3"]
    recommendation := "Only use library_call with thoroughly audited and trusted contracts." },
  { id := "cairo-missing-constructor"
    name := "Missing Constructor Validation"
    severity := .medium
    description := "Constructor should validate initial parameters."
    trigger := .when lacksConstructorValidation
    matcher := .pattern (text "#[constructor]")
    csrId := some "CSR-013"
    controls := ["V4.1"]
    recommendation := "Validate all constructor parameters to ensure safe initialization." },
  { id := "cairo-array-out-of-bounds"
    name := "Potential Array Out of Bounds"
    severity := .high
    description := "Array access should be bounds-checked."
    trigger := .when hasUncheckedIndex
    matcher := .pattern (text ".at(")
    csrId := some "CSR-011"
    controls := ["V4.3"]
    recommendation := "Always check array bounds before accessing elements." },
  { id := "cairo-unchecked-math"
    name := "Unchecked Arithmetic"
    severity := .high
    description := "Use checked arithmetic operations or explicitly handle overflow."
    trigger := .when hasUncheckedMath
    matcher := .pattern assignedArithmetic
    csrId := some "CSR-014"
    controls := ["V3.1"]
    recommendation := "Use checked arithmetic or explicitly handle overflow/underflow cases." }]

end ContractAudit.Catalog.Cairo
