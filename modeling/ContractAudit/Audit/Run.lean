import ContractAudit.Analysis.Run
import ContractAudit.Audit.Report
import ContractAudit.Audit.Request
import ContractAudit.Enhancement.Basic
import ContractAudit.Registry.Controls
import ContractAudit.Structure.Registry

/-!
# Audits

An auditor turns an accepted request into a report: static findings, better texts for some of
them, the filter, and then the verdict on what is left. Only a request can be turned down; a
detector, an extractor or a collaborator that fails takes nothing else with it.
-/
namespace ContractAudit

structure AuditOptions where
  limit : Enhancement.Limit := .first 3
  /-- The percentage of controls below which a report recommends to improve; none if it is no
  number. -/
  wanted : Option Number.Quantity := some (.whole 80)

structure Auditor where
  catalog : Dialect → List Detector := Catalog.of
  extractor : Dialect → Extractor
  enhancer : Option Enhancer := none
  options : AuditOptions := {}

inductive AuditError where
  | request (e : RequestError)
  | unusableLimit
  | unusableThreshold
deriving DecidableEq, Repr

namespace Auditor

def staticFindings (a : Auditor) (t : Task) : List Finding :=
  if t.facets.contains .static then
    let code := t.code.toList
    (Analysis.run (a.catalog t.dialect) ((a.extractor t.dialect).extract code) t.dialect
      code).findings
  else []

def activeEnhancer (a : Auditor) (t : Task) : Option Enhancer :=
  if t.facets.contains .ai then a.enhancer else none

/-- How many findings are sent to the collaborator. -/
def budget (a : Auditor) (t : Task) (findings : List Finding) : Except AuditError Nat :=
  match a.activeEnhancer t with
  | none => .ok 0
  | some _ =>
    match a.options.limit.budget? (findings.countP Enhancement.isSerious) with
    | some n => .ok n
    | none => .error .unusableLimit

def enhanced (a : Auditor) (t : Task) (call budget : Nat) (findings : List Finding) :
    List Finding :=
  match a.activeEnhancer t with
  | none => findings
  | some enhancer => Enhancement.run enhancer call budget findings

def assemble (t : Task) (wanted : Number.Quantity) (findings : List Finding) : Report :=
  let counts := SeverityCounts.ofFindings findings
  let verdict := Classification.ofCounts counts
  let compliance := Compliance.evaluate findings Registry.controls
  { code := t.code
    fileName := t.fileName
    dialect := t.dialect
    score := verdict.score
    risk := verdict.risk
    findings := findings
    statistics := counts
    compliance := some compliance
    level := verdict.level
    recommendations := Report.recommend counts verdict.level compliance.percentage wanted }

structure Session where
  calls : List EnhancementRequest
  report : Except AuditError Report

def perform (a : Auditor) (call : Nat) (t : Task) : Session :=
  let found := a.staticFindings t
  match a.budget t found with
  | .error e => ⟨[], .error e⟩
  | .ok budget =>
    let calls := Enhancement.calls budget found
    let kept := Filter.apply t.threshold (a.enhanced t call budget found)
    match a.options.wanted with
    | none => ⟨calls, .error .unusableThreshold⟩
    | some wanted => ⟨calls, .ok (assemble t wanted kept)⟩

def audit (a : Auditor) (call : Nat) (r : Request) : Session :=
  match r.accept with
  | .error e => ⟨[], .error (.request e)⟩
  | .ok t => a.perform call t

def auditJson (a : Auditor) (call : Nat) (data : Json) : Session :=
  match Request.ofJson data with
  | .error e => ⟨[], .error (.request e)⟩
  | .ok r => a.audit call r

/-- Audits several requests in turn; calls are numbered throughout. -/
def auditAll (a : Auditor) : (call : Nat) → List Json → List Session
  | _, [] => []
  | call, data :: rest =>
    let session := a.auditJson call data
    session :: a.auditAll (call + session.calls.length) rest

end Auditor

end ContractAudit
