import ContractAudit.Compliance
import ContractAudit.Dialect
import ContractAudit.Json.Value
import ContractAudit.Number.Quantity
import ContractAudit.Trust.Score

/-!
# Reports

The result of one audit, and its form as JSON. What differs from run to run, such as identifiers
and times, is kept apart in a `Stamp`.
-/
namespace ContractAudit

structure Stamp where
  id : String
  time : String
  elapsed : Int
  /-- The identifier of the finding at this place. -/
  findingId : Nat → String

structure Report where
  code : String
  fileName : Json
  dialect : Dialect
  score : Int
  risk : RiskLevel
  findings : List Finding := []
  statistics : SeverityCounts := {}
  compliance : Option Compliance := none
  level : TrustLevel := .secure
  recommendations : List String := []

def Finding.toJson (id : String) (f : Finding) : Json :=
  .obj [("id", .str id), ("name", .str f.name), ("type", .str f.type),
    ("severity", .str f.severity.label), ("swcId", .str f.swcId), ("cweIds", .strings f.cweIds),
    ("scsvIds", .strings f.controls), ("ethTrustImpact", .int f.trustImpact),
    ("lineNumber", .int f.lineNumber),
    ("lineRange", .obj [("start", .int f.lineRange.1), ("end", .int f.lineRange.2)]),
    ("codeSnippet", .str f.snippet), ("description", .str f.description),
    ("exploitationScenario", .str f.exploitation), ("recommendation", .str f.recommendation),
    ("references", .strings f.references), ("detectionMethod", .str f.method.name),
    ("confidence", .str f.confidence.label)]

def SeverityCounts.toJson (c : SeverityCounts) : Json :=
  .obj ((c.named.map fun entry => (entry.1, .int entry.2)) ++ [("total", .int c.total)])

def ControlResult.toJson (r : ControlResult) : Json :=
  .obj [("controlId", .str r.controlId), ("category", .str r.category), ("title", .str r.title),
    ("passed", .bool r.passed), ("findings", .strings r.findings),
    ("severity", .str r.severity.label)]

namespace Compliance

def reportMembers (c : Compliance) : List (String × Json) :=
  [("passed", .nat c.passed), ("failed", .nat c.failed), ("percentage", .int c.percentage),
    ("checklist", .arr (c.checklist.map ControlResult.toJson))]

def toJson (c : Compliance) : Json :=
  .obj (("totalControls", .nat c.total) :: c.reportMembers)

/-- The summary that stands for a compliance that was not evaluated. -/
def absent : Compliance :=
  ⟨0, 0, 0, 0, []⟩

end Compliance

def Classification.toJson (c : Classification) : Json :=
  .obj [("securityScore", .int c.score), ("riskLevel", .str c.risk.label),
    ("ethTrustLevel", .nat c.level.number), ("ethTrustName", .str c.level.definition.name)]

namespace Report

def isBlocking (r : Report) : Bool :=
  r.statistics.critical > 0 || r.statistics.high > 0

def toJson (r : Report) (stamp : Stamp) : Json :=
  .obj [("analysisId", .str stamp.id), ("timestamp", .str stamp.time),
    ("contractCode", .str r.code), ("fileName", r.fileName), ("language", .str r.dialect.name),
    ("securityScore", .int r.score), ("riskLevel", .str r.risk.label),
    ("vulnerabilities",
      .arr (r.findings.zipIdx.map fun entry => entry.1.toJson (stamp.findingId entry.2))),
    ("statistics", r.statistics.toJson),
    ("scsvCompliance", .obj (r.compliance.getD .absent).reportMembers),
    ("ethTrustLevel", .nat r.level.number), ("recommendations", .strings r.recommendations),
    ("analysisTime", .int stamp.elapsed)]

def recommend (counts : SeverityCounts) (level : TrustLevel) (percentage : Int)
    (wanted : Number.Quantity) : List String :=
  (if counts.critical > 0 then ["Address critical vulnerabilities immediately before deployment"]
    else []) ++
  (if counts.high > 0 then ["Fix high severity issues to prevent potential exploits"] else []) ++
  (if wanted.exceeds percentage then ["Improve SCSVS v2 compliance to meet security standards"]
    else []) ++
  ["Current EthTrust Level: " ++ level.definition.name, level.definition.recommendation]

end Report

end ContractAudit
