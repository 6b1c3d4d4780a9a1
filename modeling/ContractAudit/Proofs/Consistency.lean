import ContractAudit.Proofs.Acceptance
import ContractAudit.Proofs.Masking
import Mathlib.Tactic.TFAE

/-!
# The parts of a report agree

Statistics, score, risk, trust level and checklist are computed apart from each other, all from the
findings that the filter leaves. `Report.Consistent` collects what they then have to say about one
another. Most of it holds of any list of findings. That a report without failed controls is one
without findings, though, rests on the catalogs: every detector names a control that is on the list,
and of the 45 controls not even one can fail without the rounded percentage falling below 100.
-/
namespace ContractAudit

/-! ## Counts and scores -/

namespace SeverityCounts

def countOf (c : SeverityCounts) : Severity → Int
  | .critical => c.critical
  | .high => c.high
  | .medium => c.medium
  | .low => c.low
  | .info => c.info

theorem countOf_ofFindings (findings : List Finding) (s : Severity) :
    (ofFindings findings).countOf s = findings.countP fun f => f.severity == s := by
  have hcount : (findings.map (·.severity)).count s = findings.countP fun f => f.severity == s := by
    rw [List.count, List.countP_map]
    rfl
  cases s <;> exact congrArg Int.ofNat hcount

theorem countOf_ofFindings_nonneg (findings : List Finding) (s : Severity) :
    0 ≤ (ofFindings findings).countOf s := by
  rw [countOf_ofFindings]
  omega

theorem total_ofFindings (findings : List Finding) :
    (ofFindings findings).total = findings.length := by
  induction findings with
  | nil => rfl
  | cons f rest ih =>
    simp only [total, ofFindings, ofSeverities, List.map_cons, List.count_cons] at ih ⊢
    cases f.severity <;> simp <;> omega

theorem score_ofFindings_bounds (findings : List Finding) :
    0 ≤ (ofFindings findings).score ∧ (ofFindings findings).score ≤ 100 := by
  have hnonneg := countOf_ofFindings_nonneg findings
  have hcritical : 0 ≤ (ofFindings findings).critical := hnonneg .critical
  have hhigh : 0 ≤ (ofFindings findings).high := hnonneg .high
  have hmedium : 0 ≤ (ofFindings findings).medium := hnonneg .medium
  have hlow : 0 ≤ (ofFindings findings).low := hnonneg .low
  unfold score deduction
  omega

end SeverityCounts

def RiskLevel.band : RiskLevel → Int × Int
  | critical => (0, 29)
  | high => (30, 49)
  | medium => (50, 69)
  | low => (70, 89)
  | secure => (90, 100)

theorem RiskLevel.ofScore_mem_band {score : Int} (hscore : 0 ≤ score ∧ score ≤ 100) :
    (ofScore score).band.1 ≤ score ∧ score ≤ (ofScore score).band.2 := by
  unfold ofScore
  split
  · simp only [band]
    omega
  split
  · simp only [band]
    omega
  split
  · simp only [band]
    omega
  split <;> simp only [band] <;> omega

theorem TrustLevel.ofCounts_ofFindings (findings : List Finding) :
    ofCounts (.ofFindings findings) = ofWorst (Finding.worstSeverity? findings) :=
  ofCounts_ofSeverities _

theorem TrustLevel.number_ofCounts_eq_five_iff (findings : List Finding) :
    (ofCounts (.ofFindings findings)).number = 5 ↔ findings = [] := by
  rw [ofCounts_ofFindings]
  cases hworst : Finding.worstSeverity? findings with
  | none =>
    have hnil := Severity.worst?_eq_none_iff.mp hworst
    simpa [ofWorst, number] using hnil
  | some s =>
    have hne : findings ≠ [] := by
      rintro rfl
      simp [Finding.worstSeverity?, Severity.worst?] at hworst
    cases s <;> simp [ofWorst, number, hne]

theorem TrustLevel.number_ofCounts_le_two_iff (c : SeverityCounts) :
    (ofCounts c).number ≤ 2 ↔ c.critical > 0 ∨ c.high > 0 := by
  unfold ofCounts
  by_cases hcritical : c.critical > 0
  · simp [hcritical, number]
  by_cases hhigh : c.high > 0
  · simp [hcritical, hhigh, number]
  · simp only [hcritical, hhigh, if_false, or_self, iff_false]
    split
    · decide
    · split <;> decide

/-! ## Checklists -/

namespace Compliance

theorem passed_evaluate_eq_length_iff (findings : List Finding)
    (controls : List Registry.Control) :
    (evaluate findings controls).passed = controls.length ↔
      ∀ control ∈ controls, ∀ f ∈ findings, control.id ∉ f.controls := by
  have hlength : controls.length = (controls.map (evaluateControl findings)).length := by simp
  simp only [evaluate, ofChecklist]
  rw [hlength, List.countP_eq_length]
  simp only [List.forall_mem_map, evaluateControl_passed_iff]

theorem passed_evaluate_le (findings : List Finding) (controls : List Registry.Control) :
    (evaluate findings controls).passed ≤ controls.length := by
  have h := (controls.map (evaluateControl findings)).countP_le_length (p := (·.passed))
  simpa [evaluate, ofChecklist] using h

theorem failed_evaluate_eq_zero_iff (findings : List Finding) (controls : List Registry.Control) :
    (evaluate findings controls).failed = 0 ↔
      (evaluate findings controls).passed = controls.length := by
  have hle := passed_evaluate_le findings controls
  have hfailed : (evaluate findings controls).failed =
      controls.length - (evaluate findings controls).passed := by
    simp [evaluate, ofChecklist]
  omega

/-- With the controls as they are, rounding gives 100 to a full checklist only. -/
theorem percentageOf_eq_hundred_iff : ∀ passed ≤ Registry.controls.length,
    percentageOf passed Registry.controls.length = 100 ↔ passed = Registry.controls.length := by
  decide +kernel

theorem percentage_evaluate_eq_hundred_iff (findings : List Finding) :
    (evaluate findings Registry.controls).percentage = 100 ↔
      (evaluate findings Registry.controls).passed = Registry.controls.length := by
  rw [← percentageOf_eq_hundred_iff _ (passed_evaluate_le findings _)]
  simp [evaluate, ofChecklist]

end Compliance

/-! ## Findings and controls -/

def Finding.Listed (f : Finding) : Prop :=
  ∃ control ∈ Registry.controls, control.id ∈ f.controls

theorem Catalog.controls_ne_nil (dialect : Dialect) :
    ∀ d ∈ Catalog.of dialect, d.controls ≠ [] := by
  cases dialect <;> decide +kernel

theorem Analysis.listed_of_mem_rawFindings {dialect : Dialect} {extracted : Bool} {code : Text}
    {f : Finding} (hf : f ∈ rawFindings (Catalog.of dialect) dialect extracted code) :
    f.Listed := by
  obtain ⟨d, hd, -, hreported⟩ := exists_reportedBy hf
  obtain ⟨id, hid⟩ := List.exists_mem_of_ne_nil _ (Catalog.controls_ne_nil dialect d hd)
  obtain ⟨control, hcontrol, rfl⟩ := (controls_of_mem_catalog dialect d hd).1 id hid
  exact ⟨control, hcontrol, hreported.controls ▸ hid⟩

theorem Auditor.listed_of_mem_staticFindings {a : Auditor} (ha : a.catalog = Catalog.of) {t : Task}
    {f : Finding} (hf : f ∈ a.staticFindings t) : f.Listed := by
  unfold staticFindings at hf
  split at hf
  · rw [ha] at hf
    exact Analysis.listed_of_mem_rawFindings (Finding.mem_of_mem_deduplicate hf)
  · simp at hf

theorem Filter.mem_apply_iff {threshold : Option Severity} {findings : List Finding} {f : Finding} :
    f ∈ apply threshold findings ↔
      f ∈ findings ∧ ∀ least ∈ threshold, f.severity.atLeast least := by
  cases threshold with
  | none => simp [apply]
  | some least => simp [apply]

/-! ## Reports -/

/-- What the parts of a report say about one another, for findings that are at least as severe as
`threshold` and a checklist `c`. -/
structure Report.Consistent (r : Report) (threshold : Option Severity) (c : Compliance) : Prop where
  statistics : ∀ s, r.statistics.countOf s = r.findings.countP fun f => f.severity == s
  total : r.statistics.total = r.findings.length
  score : r.score = max 0 (100 - 20 * r.statistics.critical - 10 * r.statistics.high -
    5 * r.statistics.medium - 2 * r.statistics.low)
  score_bounds : 0 ≤ r.score ∧ r.score ≤ 100
  risk : r.risk.band.1 ≤ r.score ∧ r.score ≤ r.risk.band.2
  level : r.level = .ofWorst (Finding.worstSeverity? r.findings)
  isBlocking : r.isBlocking ↔ r.level.number ≤ 2
  severe : ∀ f ∈ r.findings, ∀ least ∈ threshold, f.severity.atLeast least
  compliance : r.compliance = some c
  checklist : c.checklist.map (·.controlId) = Registry.controls.map (·.id)
  fails_iff : ∀ result ∈ c.checklist,
    result.passed = false ↔ ∃ f ∈ r.findings, result.controlId ∈ f.controls
  clean : List.TFAE [r.findings = [], r.level.number = 5, c.failed = 0, c.percentage = 100]

namespace Auditor

theorem tfae_clean {findings : List Finding} (hlisted : ∀ f ∈ findings, f.Listed) :
    List.TFAE [findings = [], (TrustLevel.ofCounts (.ofFindings findings)).number = 5,
      (Compliance.evaluate findings Registry.controls).failed = 0,
      (Compliance.evaluate findings Registry.controls).percentage = 100] := by
  have hpassed : (Compliance.evaluate findings Registry.controls).passed =
      Registry.controls.length ↔ findings = [] := by
    rw [Compliance.passed_evaluate_eq_length_iff]
    constructor
    · intro hpass
      rw [List.eq_nil_iff_forall_not_mem]
      intro f hf
      obtain ⟨control, hcontrol, hid⟩ := hlisted f hf
      exact hpass control hcontrol f hf hid
    · rintro rfl
      simp
  tfae_have 1 ↔ 2 := (TrustLevel.number_ofCounts_eq_five_iff findings).symm
  tfae_have 1 ↔ 3 := by rw [Compliance.failed_evaluate_eq_zero_iff, hpassed]
  tfae_have 1 ↔ 4 := by rw [Compliance.percentage_evaluate_eq_hundred_iff, hpassed]
  tfae_finish

theorem assemble_consistent (t : Task) (wanted : Number.Quantity) {threshold : Option Severity}
    {findings : List Finding}
    (hsevere : ∀ f ∈ findings, ∀ least ∈ threshold, f.severity.atLeast least)
    (hlisted : ∀ f ∈ findings, f.Listed) :
    (assemble t wanted findings).Consistent threshold
      (Compliance.evaluate findings Registry.controls) where
  statistics := SeverityCounts.countOf_ofFindings findings
  total := SeverityCounts.total_ofFindings findings
  score := by
    simp only [assemble, Classification.ofCounts, SeverityCounts.score, SeverityCounts.deduction]
    omega
  score_bounds := SeverityCounts.score_ofFindings_bounds findings
  risk := RiskLevel.ofScore_mem_band (SeverityCounts.score_ofFindings_bounds findings)
  level := TrustLevel.ofCounts_ofFindings findings
  isBlocking := by
    change _ ↔ (TrustLevel.ofCounts (.ofFindings findings)).number ≤ 2
    rw [TrustLevel.number_ofCounts_le_two_iff]
    simp [Report.isBlocking, assemble]
  severe := hsevere
  compliance := rfl
  checklist := by simp [Compliance.evaluate, Compliance.ofChecklist, Compliance.evaluateControl]
  fails_iff := by
    intro result hresult
    obtain ⟨control, -, rfl⟩ := List.mem_map.mp hresult
    exact Compliance.evaluateControl_passed_eq_false_iff
  clean := tfae_clean hlisted

/-- Every request that is accepted gets a report, it is a report on the static findings that the
filter of the request leaves, and its parts agree, whatever the collaborator does. -/
theorem audit_report_consistent (a : Auditor) (hcatalog : a.catalog = Catalog.of)
    (ha : a.options.Usable) (call : Nat) (r : Request) (t : Task) (hr : r.accept = .ok t) :
    ∃ (report : Report) (c : Compliance), (a.audit call r).report = .ok report ∧
      r.checkSeverity = .ok t.threshold ∧ report.Consistent t.threshold c ∧
      report.findings.map Finding.fixedPart =
        (Filter.apply t.threshold (a.staticFindings t)).map Finding.fixedPart := by
  obtain ⟨wanted, findings, hreport, hfixed⟩ := exists_report_of_accept a ha call hr
  have hsame : ∀ f ∈ findings, ∃ g ∈ Filter.apply t.threshold (a.staticFindings t),
      g.fixedPart = f.fixedPart := by
    intro f hf
    have hmem : f.fixedPart ∈ findings.map Finding.fixedPart := List.mem_map_of_mem hf
    rw [hfixed] at hmem
    exact List.mem_map.mp hmem
  have hsevere : ∀ f ∈ findings, ∀ least ∈ t.threshold, f.severity.atLeast least := by
    intro f hf
    obtain ⟨g, hg, hgf⟩ := hsame f hf
    have hseverity : g.severity = f.severity := by
      simpa using congrArg Finding.severity hgf
    exact hseverity ▸ (Filter.mem_apply_iff.mp hg).2
  have hlisted : ∀ f ∈ findings, f.Listed := by
    intro f hf
    obtain ⟨g, hg, hgf⟩ := hsame f hf
    obtain ⟨control, hcontrol, hid⟩ :=
      listed_of_mem_staticFindings hcatalog (Filter.mem_apply_iff.mp hg).1
    have hcontrols : g.controls = f.controls := by
      simpa using congrArg Finding.controls hgf
    exact ⟨control, hcontrol, hcontrols ▸ hid⟩
  exact ⟨_, _, hreport, (Request.accept_eq_ok_iff.mp hr).2.2.1,
    assemble_consistent t wanted hsevere hlisted, hfixed⟩

/-- A filter written with blanks and capitals, and a collaborator whose first call fails. -/
theorem audit_report_consistent_origin :
    let a : Auditor :=
      { extractor := Structure.extractorOf fun _ => .error "no parser"
        enhancer := some fun call _ =>
          if call = 0 then none else some { description := some "why" } }
    let r : Request :=
      { code := .str "require(tx.origin == owner);", severity := .str " High "
        language := some .solidity }
    ∃ t report c, r.accept = .ok t ∧ t.threshold = some .high ∧
      (a.audit 0 r).report = .ok report ∧ report.Consistent (some .high) c := by
  intro a r
  have hr : r.accept = .ok ⟨"require(tx.origin == owner);", .str "contract.sol", .solidity,
      [.static, .ai, .standards], some .high⟩ := rfl
  obtain ⟨report, c, hreport, -, hconsistent, -⟩ :=
    audit_report_consistent a rfl AuditOptions.usable_default 0 r _ hr
  exact ⟨_, report, c, hr, rfl, hreport, hconsistent⟩

end Auditor

end ContractAudit
