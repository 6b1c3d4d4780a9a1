import ContractAudit.Analysis.Location
import ContractAudit.Catalog.All
import ContractAudit.Registry.Cairo
import ContractAudit.Registry.Ethereum
import ContractAudit.Structure.Registry

/-!
# Static analysis

Every detector of a catalog is evaluated on a source. A detector that fails is skipped; one that
fires is reported at its first three lines, or without a place if it has none. Registries supply
the texts that they have. Of findings with one weakness and one line the first is kept.

The structure of the source matters only for how sure the findings are.
-/
namespace ContractAudit

namespace Analysis

def maxInstances : Nat := 3

def defaultRecommendation : String :=
  "Review the code and implement appropriate security measures."

structure Background where
  csr : Option Registry.Weakness
  swc : Option Registry.Weakness

def background (d : Detector) : Background :=
  ⟨d.csrId.bind Registry.csr?, d.swcId.bind Registry.swc?⟩

def Background.text (b : Background) (field : Registry.Weakness → String) (own : String) : String :=
  orKeep (b.csr.map field) (orKeep (b.swc.map field) own)

def Background.cweIds (b : Background) : List String :=
  match b.csr.or b.swc with
  | some entry => entry.cweIds
  | none => []

/-- References of the entry, or the page of a weakness that the registry does not hold. -/
def Background.references (b : Background) (d : Detector) : List String :=
  match b.csr.or b.swc with
  | some entry => entry.references
  | none =>
    match d.swcId with
    | some id => if id.isEmpty then [] else [Registry.swcUrl id]
    | none => []

def buildFinding (d : Detector) (lines : List Text) (lineNumber : Int) (confidence : Confidence) :
    Finding :=
  let b := background d
  let description := b.text (·.description) d.description
  { name := d.name
    type := d.typeCode
    severity := d.severity
    swcId := d.swcId.getD ""
    cweIds := b.cweIds
    controls := d.controls
    trustImpact := d.severity.impact
    lineNumber := lineNumber
    lineRange := (lineNumber, lineNumber)
    snippet := String.ofList (codeContext lines lineNumber snippetContext)
    description := description
    exploitation := orText d.exploitation description
    recommendation := b.text (·.remediation) (orText d.recommendation defaultRecommendation)
    references := b.references d
    confidence := confidence
    detectorId := d.id }

/-- Where to report, and how sure: the first lines found, or no place at all. -/
def placements (located : List Int) : List (Int × Confidence) :=
  if located.isEmpty then [(0, .medium)] else (located.take maxInstances).map fun n => (n, .high)

/-- Without a structure nothing is certain. -/
def settle (extracted : Bool) (confidence : Confidence) : Confidence :=
  if extracted then confidence else .medium

def instances (d : Detector) (located : List Int) (lines : List Text) (extracted : Bool) :
    List Finding :=
  (placements located).map fun (n, confidence) =>
    buildFinding d lines n (settle extracted confidence)

def findingsOf (dialect : Dialect) (extracted : Bool) (code : Text) (d : Detector) : List Finding :=
  match evaluate dialect d code with
  | .ok (some located) => instances d located code.lines extracted
  | _ => []

def rawFindings (catalog : List Detector) (dialect : Dialect) (extracted : Bool) (code : Text) :
    List Finding :=
  catalog.flatMap (findingsOf dialect extracted code)

end Analysis

structure Analysis where
  dialect : Dialect
  findings : List Finding
  shape : Structure
deriving DecidableEq, Repr

namespace Analysis

def run (catalog : List Detector) (shape : Structure) (dialect : Dialect) (code : Text) :
    Analysis :=
  { dialect := dialect
    findings := Finding.deduplicate (rawFindings catalog dialect shape.isExtracted code)
    shape := shape }

def ofRegistered? (extractors : ExtractorRegistry) (dialect : Dialect) (code : Text) :
    Option Analysis :=
  (extractors.get? dialect).map fun extractor =>
    run (Catalog.of dialect) (extractor.extract code) dialect code

end Analysis

end ContractAudit
