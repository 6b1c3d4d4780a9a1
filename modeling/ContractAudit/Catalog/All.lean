import ContractAudit.Catalog.Cairo.Detectors
import ContractAudit.Catalog.Solidity.Detectors
import ContractAudit.Catalog.Vyper.Detectors
import ContractAudit.Dialect

/-!
# The catalog of each dialect
-/
namespace ContractAudit.Catalog

def of : Dialect → List Detector
  | .solidity => Solidity.detectors
  | .cairo => Cairo.detectors
  | .vyper => Vyper.detectors

end ContractAudit.Catalog
