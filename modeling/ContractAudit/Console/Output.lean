import ContractAudit.Audit.Report
import ContractAudit.Catalog.All
import ContractAudit.Console.Table
import ContractAudit.Json.Shown
import ContractAudit.Language
import ContractAudit.Registry.Cairo
import ContractAudit.Registry.Ethereum

/-!
# What the commands show

Reports, registries and catalogs as lines of text, and the lists as JSON.
-/
namespace ContractAudit.Console

def findingTable (findings : List Finding) : Table where
  title := "Findings"
  columns := [⟨"Severity", .center⟩, ⟨"Line", .right⟩, ⟨"Weakness", .left⟩, ⟨"Name", .left⟩,
    ⟨"Confidence", .left⟩]
  rows := findings.map fun f =>
    [f.severity.label, if f.lineNumber = 0 then "-" else toString f.lineNumber, f.weaknessId,
      f.name, f.confidence.label]

def countLine (c : SeverityCounts) : String :=
  " | ".intercalate ((toString c.total ++ " findings") ::
    c.named.map fun entry => toString entry.2 ++ " " ++ entry.1)

def findingLines (r : Report) : List String :=
  if r.findings.isEmpty then ["No findings."]
  else (findingTable r.findings).lines ++ [countLine r.statistics]

def controlResultTable (results : List ControlResult) : Table where
  title := "Failed SCSVS Controls"
  columns := [⟨"Control", .left⟩, ⟨"Title", .left⟩, ⟨"Severity", .center⟩, ⟨"Findings", .left⟩]
  rows := results.map fun r =>
    [r.controlId, r.title, r.severity.label, ", ".intercalate r.findings]

def complianceLine (c : Compliance) : String :=
  "  SCSVS v2:       " ++ toString c.percentage ++ "% (" ++ toString c.passed ++ " passed, " ++
    toString c.failed ++ " failed)"

def checklistLines (checklist : Bool) (c : Option Compliance) : List String :=
  match c with
  | none => []
  | some c =>
    if checklist && !c.failedControls.isEmpty then (controlResultTable c.failedControls).lines
    else []

def reportLines (r : Report) (elapsed : Int) (checklist : Bool) : List String :=
  panel "chainaudit Report" ("File: " ++ r.fileName.shown ++ "  Language: " ++ r.dialect.name) ++
  ["  Security Score: " ++ toString r.score ++ "/100 (" ++ r.risk.label ++ ")",
    "  EthTrust Level:  L" ++ toString r.level.number ++ " " ++ r.level.definition.name] ++
  (r.compliance.map complianceLine).toList ++ findingLines r ++
  checklistLines checklist r.compliance ++
  "Recommendations" :: (r.recommendations.map fun line => "  - " ++ line) ++
  ["Analyzed in " ++ toString elapsed ++ " ms"]

def weaknessTable (title : String) (entries : List Registry.Weakness) : Table where
  title := title
  columns := [⟨"ID", .left⟩, ⟨"Title", .left⟩, ⟨"Severity", .center⟩, ⟨"CWE", .left⟩]
  rows := entries.map fun e => [e.id, e.title, e.severity.label, ", ".intercalate e.cweIds]

def weaknessJson (e : Registry.Weakness) : Json :=
  .obj [("id", .str e.id), ("title", .str e.title), ("description", .str e.description),
    ("remediation", .str e.remediation), ("severity", .str e.severity.label),
    ("cweIds", .strings e.cweIds), ("references", .strings e.references)]

def controlTable (controls : List Registry.Control) : Table where
  title := "SCSVS v2 Controls"
  columns := [⟨"ID", .left⟩, ⟨"Category", .left⟩, ⟨"Title", .left⟩, ⟨"Level", .center⟩]
  rows := controls.map fun c => [c.id, c.category, c.title, toString c.level]

def controlJson (c : Registry.Control) : Json :=
  .obj [("id", .str c.id), ("category", .str c.category), ("title", .str c.title),
    ("level", .int c.level), ("description", .str c.description),
    ("verification", .str c.verification)]

def detectorTable (dialect : Dialect) (detectors : List Detector) : Table where
  title := Language.displayName (some dialect) ++ " Detectors (" ++ toString detectors.length ++ ")"
  columns := [⟨"Detector", .left⟩, ⟨"Name", .left⟩, ⟨"Severity", .center⟩, ⟨"Weakness", .left⟩,
    ⟨"SCSVS", .left⟩]
  rows := detectors.map fun d =>
    [d.id, d.name, d.severity.label, d.typeCode, ", ".intercalate d.controls]

def detectorJson (d : Detector) : Json :=
  .obj [("id", .str d.id), ("name", .str d.name), ("severity", .str d.severity.label),
    ("type", .str d.typeCode), ("scsvIds", .strings d.controls)]

end ContractAudit.Console
