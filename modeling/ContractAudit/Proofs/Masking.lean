import ContractAudit.Analysis.Run
import ContractAudit.Enhancement.Basic
import ContractAudit.Proofs.Deduplication
import ContractAudit.Proofs.Verdict
import ContractAudit.Structure.Registry

/-!
# What deduplication can hide

Of two findings with one weakness and one line only the first is kept, so what is lost depends on
how detectors of one weakness stand in a catalog. In the catalogs as they are, a later detector of a
weakness is never more severe than an earlier one, hence the worst severity and all that follows
from it survive. It names the same controls as the earlier one, with a single exception: a token
transfer shares its weakness with a low-level call and has a control of its own, which is hidden
exactly when the call is reported at every line of the transfer.
-/
namespace ContractAudit

def Detector.weaknessId (d : Detector) : String :=
  orText (d.swcId.getD "") d.typeCode

namespace Analysis

def fires (dialect : Dialect) (code : Text) (d : Detector) : Bool :=
  match evaluate dialect d code with
  | .ok (some _) => true
  | _ => false

theorem placements_ne_nil (located : List Int) : placements located ≠ [] := by
  unfold placements
  split
  · simp
  · simp_all [maxInstances]

theorem findingsOf_ne_nil_iff {dialect : Dialect} {extracted : Bool} {code : Text} {d : Detector} :
    findingsOf dialect extracted code d ≠ [] ↔ fires dialect code d := by
  unfold findingsOf fires
  rcases evaluate dialect d code with fault | none | located
  · simp
  · simp
  · simp [instances, placements_ne_nil]

structure ReportedBy (d : Detector) (f : Finding) : Prop where
  detectorId : f.detectorId = d.id
  severity : f.severity = d.severity
  controls : f.controls = d.controls
  weaknessId : f.weaknessId = d.weaknessId

theorem reportedBy_of_mem_findingsOf {dialect : Dialect} {extracted : Bool} {code : Text}
    {d : Detector} {f : Finding} (hf : f ∈ findingsOf dialect extracted code d) :
    ReportedBy d f := by
  unfold findingsOf at hf
  split at hf
  · obtain ⟨place, -, rfl⟩ := List.mem_map.mp hf
    exact ⟨rfl, rfl, rfl, rfl⟩
  · simp at hf

theorem exists_reportedBy {catalog : List Detector} {dialect : Dialect} {extracted : Bool}
    {code : Text} {f : Finding} (hf : f ∈ rawFindings catalog dialect extracted code) :
    ∃ d ∈ catalog, fires dialect code d ∧ ReportedBy d f := by
  obtain ⟨d, hd, hfd⟩ := List.mem_flatMap.mp hf
  exact ⟨d, hd, findingsOf_ne_nil_iff.mp (List.ne_nil_of_mem hfd), reportedBy_of_mem_findingsOf hfd⟩

theorem exists_mem_rawFindings {catalog : List Detector} {dialect : Dialect} (extracted : Bool)
    {code : Text} {d : Detector} (hd : d ∈ catalog) (hfires : fires dialect code d) :
    ∃ f ∈ rawFindings catalog dialect extracted code, ReportedBy d f := by
  have hne : findingsOf dialect extracted code d ≠ [] := findingsOf_ne_nil_iff.mpr hfires
  obtain ⟨f, hf⟩ := List.exists_mem_of_ne_nil _ hne
  exact ⟨f, List.mem_flatMap.mpr ⟨d, hd, hf⟩, reportedBy_of_mem_findingsOf hf⟩

/-- What holds between an earlier and a later detector of one weakness, and between a detector and
itself, holds between their findings with one key. -/
theorem pairwise_rawFindings {catalog : List Detector} {S : Detector → Detector → Prop}
    {R : Finding → Finding → Prop}
    (hS : catalog.Pairwise fun d₁ d₂ => d₁.weaknessId = d₂.weaknessId → S d₁ d₂)
    (hrefl : ∀ d, S d d) (hR : ∀ d₁ d₂ g f, S d₁ d₂ → ReportedBy d₁ g → ReportedBy d₂ f → R g f)
    (dialect : Dialect) (extracted : Bool) (code : Text) :
    (rawFindings catalog dialect extracted code).Pairwise fun g f => g.key = f.key → R g f := by
  refine List.pairwise_flatMap.mpr ⟨?_, hS.imp ?_⟩
  · intro d _
    refine List.pairwise_of_forall_mem_list fun g hg f hf _ => ?_
    exact hR d d g f (hrefl d) (reportedBy_of_mem_findingsOf hg) (reportedBy_of_mem_findingsOf hf)
  · intro d₁ d₂ hd g hg f hf hkey
    have hg := reportedBy_of_mem_findingsOf hg
    have hf := reportedBy_of_mem_findingsOf hf
    have hweakness : d₁.weaknessId = d₂.weaknessId := by
      rw [← hg.weaknessId, ← hf.weaknessId]
      exact congrArg Prod.fst hkey
    exact hR d₁ d₂ g f (hd hweakness) hg hf

/-! ## Severities -/

/-- How an earlier and a later detector of one weakness compare in the catalogs: the later one is
not more severe, and unless it is the one for token transfers it names the same controls. -/
def Masks (d₁ d₂ : Detector) : Prop :=
  d₂.severity.value ≤ d₁.severity.value ∧
    (d₁.controls = d₂.controls ∨
      d₁.id = "unchecked-call-return" ∧ d₂.id = "unchecked-erc20-transfer")

instance (d₁ d₂ : Detector) : Decidable (Masks d₁ d₂) :=
  inferInstanceAs (Decidable (_ ∧ _))

theorem pairwise_masks (dialect : Dialect) :
    (Catalog.of dialect).Pairwise fun d₁ d₂ => d₁.weaknessId = d₂.weaknessId → Masks d₁ d₂ := by
  cases dialect <;> decide +kernel

theorem masks_refl (d : Detector) : Masks d d :=
  ⟨Nat.le_refl _, Or.inl rfl⟩

theorem exists_kept_severity (dialect : Dialect) (extracted : Bool) (code : Text) {f : Finding}
    (hf : f ∈ rawFindings (Catalog.of dialect) dialect extracted code) :
    ∃ g ∈ Finding.deduplicate (rawFindings (Catalog.of dialect) dialect extracted code),
      f.severity.value ≤ g.severity.value := by
  have hpair := pairwise_rawFindings (pairwise_masks dialect) masks_refl
    (R := fun g f => f.severity.value ≤ g.severity.value)
    (fun d₁ d₂ g f h hg hf => by rw [hg.severity, hf.severity]; exact h.1) dialect extracted code
  obtain ⟨g, hg, -, hle⟩ := Finding.exists_mem_deduplicate hpair (fun f => Nat.le_refl _) hf
  exact ⟨g, hg, hle⟩

theorem worstSeverity?_deduplicate_rawFindings (dialect : Dialect) (extracted : Bool)
    (code : Text) :
    Finding.worstSeverity?
        (Finding.deduplicate (rawFindings (Catalog.of dialect) dialect extracted code)) =
      Finding.worstSeverity? (rawFindings (Catalog.of dialect) dialect extracted code) := by
  apply Severity.worst?_congr
  · intro s hs
    obtain ⟨f, hf, rfl⟩ := List.mem_map.mp hs
    exact ⟨_, List.mem_map_of_mem (Finding.mem_of_mem_deduplicate hf), Nat.le_refl _⟩
  · intro s hs
    obtain ⟨f, hf, rfl⟩ := List.mem_map.mp hs
    obtain ⟨g, hg, hle⟩ := exists_kept_severity dialect extracted code hf
    exact ⟨_, List.mem_map_of_mem hg, hle⟩

theorem worstSeverity?_rawFindings (catalog : List Detector) (dialect : Dialect) (extracted : Bool)
    (code : Text) :
    Finding.worstSeverity? (rawFindings catalog dialect extracted code) =
      Severity.worst? ((catalog.filter (fires dialect code)).map (·.severity)) := by
  apply Severity.worst?_congr
  · intro s hs
    obtain ⟨f, hf, rfl⟩ := List.mem_map.mp hs
    obtain ⟨d, hd, hfires, hreported⟩ := exists_reportedBy hf
    exact ⟨d.severity, List.mem_map_of_mem (List.mem_filter.mpr ⟨hd, hfires⟩),
      Nat.le_of_eq (congrArg _ hreported.severity)⟩
  · intro s hs
    obtain ⟨d, hd, rfl⟩ := List.mem_map.mp hs
    obtain ⟨hd, hfires⟩ := List.mem_filter.mp hd
    obtain ⟨f, hf, hreported⟩ := exists_mem_rawFindings extracted hd hfires
    exact ⟨f.severity, List.mem_map_of_mem hf, Nat.le_of_eq (congrArg _ hreported.severity.symm)⟩

theorem isSerious_iff (f : Finding) : Enhancement.isSerious f ↔ 3 ≤ f.severity.value := by
  unfold Enhancement.isSerious
  cases f.severity <;> decide

/-- Deduplication never hides how bad a source is: the worst severity reported is that of the worst
detector that fired, and the trust level and whether anything serious is left are what they would be
without deduplication. -/
theorem run_worstSeverity (dialect : Dialect) (shape : Structure) (code : Text) :
    let raw := rawFindings (Catalog.of dialect) dialect shape.isExtracted code
    let kept := (run (Catalog.of dialect) shape dialect code).findings
    Finding.worstSeverity? kept =
        Severity.worst? (((Catalog.of dialect).filter (fires dialect code)).map (·.severity)) ∧
      TrustLevel.ofCounts (.ofFindings kept) = TrustLevel.ofCounts (.ofFindings raw) ∧
      kept.any Enhancement.isSerious = raw.any Enhancement.isSerious := by
  intro raw kept
  have hworst : Finding.worstSeverity? kept = Finding.worstSeverity? raw :=
    worstSeverity?_deduplicate_rawFindings dialect shape.isExtracted code
  refine ⟨?_, ?_, ?_⟩
  · rw [hworst]
    exact worstSeverity?_rawFindings _ dialect _ code
  · unfold SeverityCounts.ofFindings
    rw [TrustLevel.ofCounts_ofSeverities, TrustLevel.ofCounts_ofSeverities]
    exact congrArg TrustLevel.ofWorst hworst
  · rw [Bool.eq_iff_iff, List.any_eq_true, List.any_eq_true]
    constructor
    · rintro ⟨f, hf, hserious⟩
      exact ⟨f, Finding.mem_of_mem_deduplicate hf, hserious⟩
    · rintro ⟨f, hf, hserious⟩
      obtain ⟨g, hg, hle⟩ := exists_kept_severity dialect shape.isExtracted code hf
      rw [isSerious_iff] at hserious
      exact ⟨g, hg, (isSerious_iff g).mpr (Nat.le_trans hserious hle)⟩

/-! ## Controls -/

theorem controls_of_mem_catalog (dialect : Dialect) : ∀ d ∈ Catalog.of dialect,
    (∀ id ∈ d.controls, ∃ control ∈ Registry.controls, control.id = id) ∧
    ("V12.2" ∈ d.controls → d.id = "unchecked-erc20-transfer") ∧
    (d.id = "unchecked-erc20-transfer" → d.controls = ["V12.2"] ∧ d.weaknessId = "SWC-104") ∧
    (d.id = "unchecked-call-return" → d.weaknessId = "SWC-104") := by
  cases dialect <;> decide +kernel

/-- The lines at which a detector is reported before repetitions are dropped: its first three, or
line 0 if it has none. -/
def linesOf (id : String) (findings : List Finding) : List Int :=
  (findings.filter fun f => f.detectorId == id).map (·.lineNumber)

theorem mem_linesOf_iff {id : String} {findings : List Finding} {n : Int} :
    n ∈ linesOf id findings ↔ ∃ f ∈ findings, f.detectorId = id ∧ f.lineNumber = n := by
  simp [linesOf, and_assoc]

theorem filter_rawFindings (id : String) (catalog : List Detector) (dialect : Dialect)
    (extracted : Bool) (code : Text) :
    (rawFindings catalog dialect extracted code).filter (fun f => f.detectorId == id) =
      rawFindings (catalog.filter fun d => d.id == id) dialect extracted code := by
  have hown (d : Detector) (f : Finding) (hf : f ∈ findingsOf dialect extracted code d) :
      (f.detectorId == id) = (d.id == id) := by
    rw [(reportedBy_of_mem_findingsOf hf).detectorId]
  unfold rawFindings
  rw [List.filter_flatMap]
  induction catalog with
  | nil => rfl
  | cons d rest ih =>
    rw [List.flatMap_cons, ih, List.filter_congr (hown d), List.filter_cons]
    cases d.id == id <;> simp

theorem linesOf_rawFindings (id : String) (catalog : List Detector) (dialect : Dialect)
    (extracted : Bool) (code : Text) :
    linesOf id (rawFindings catalog dialect extracted code) =
      linesOf id (rawFindings (catalog.filter fun d => d.id == id) dialect extracted code) := by
  simp only [linesOf, filter_rawFindings, List.filter_filter, Bool.and_self]

/-- Every token transfer is reported on the line of a low-level call. -/
def TransferHidden (findings : List Finding) : Prop :=
  ∀ n ∈ linesOf "unchecked-erc20-transfer" findings, n ∈ linesOf "unchecked-call-return" findings

section Raw

variable {dialect : Dialect} {extracted : Bool} {code : Text} {f g : Finding}

theorem detectorId_of_transfer_control
    (hf : f ∈ rawFindings (Catalog.of dialect) dialect extracted code)
    (hcontrol : "V12.2" ∈ f.controls) : f.detectorId = "unchecked-erc20-transfer" := by
  obtain ⟨d, hd, -, hreported⟩ := exists_reportedBy hf
  rw [hreported.detectorId]
  exact (controls_of_mem_catalog dialect d hd).2.1 (hreported.controls ▸ hcontrol)

theorem controls_of_transfer (hf : f ∈ rawFindings (Catalog.of dialect) dialect extracted code)
    (hid : f.detectorId = "unchecked-erc20-transfer") : f.controls = ["V12.2"] := by
  obtain ⟨d, hd, -, hreported⟩ := exists_reportedBy hf
  rw [hreported.controls]
  exact ((controls_of_mem_catalog dialect d hd).2.2.1 (hreported.detectorId ▸ hid)).1

theorem key_eq_of_transfer_of_call
    (hf : f ∈ rawFindings (Catalog.of dialect) dialect extracted code)
    (hg : g ∈ rawFindings (Catalog.of dialect) dialect extracted code)
    (hfid : f.detectorId = "unchecked-erc20-transfer")
    (hgid : g.detectorId = "unchecked-call-return") (hline : g.lineNumber = f.lineNumber) :
    g.key = f.key := by
  obtain ⟨d, hd, -, hreported⟩ := exists_reportedBy hf
  obtain ⟨d', hd', -, hreported'⟩ := exists_reportedBy hg
  have hweakness : f.weaknessId = "SWC-104" := by
    rw [hreported.weaknessId]
    exact ((controls_of_mem_catalog dialect d hd).2.2.1 (hreported.detectorId ▸ hfid)).2
  have hweakness' : g.weaknessId = "SWC-104" := by
    rw [hreported'.weaknessId]
    exact (controls_of_mem_catalog dialect d' hd').2.2.2 (hreported'.detectorId ▸ hgid)
  exact Prod.ext (hweakness'.trans hweakness.symm) hline

end Raw

theorem pairwise_controls (dialect : Dialect) (extracted : Bool) (code : Text) :
    (rawFindings (Catalog.of dialect) dialect extracted code).Pairwise fun g f =>
      g.key = f.key → g.controls = f.controls ∨
        g.detectorId = "unchecked-call-return" ∧ f.detectorId = "unchecked-erc20-transfer" := by
  apply pairwise_rawFindings (pairwise_masks dialect) masks_refl
  intro d₁ d₂ g f hmasks hg hf
  rw [hg.controls, hf.controls, hg.detectorId, hf.detectorId]
  exact hmasks.2

theorem not_transfer_control_of_hidden (dialect : Dialect) (extracted : Bool) (code : Text)
    (hhidden : TransferHidden (rawFindings (Catalog.of dialect) dialect extracted code)) :
    ∀ f ∈ Finding.deduplicate (rawFindings (Catalog.of dialect) dialect extracted code),
      "V12.2" ∉ f.controls := by
  intro f hkept hcontrol
  have hf := Finding.mem_of_mem_deduplicate hkept
  have hid := detectorId_of_transfer_control hf hcontrol
  obtain ⟨g, hg, hgid, hline⟩ := mem_linesOf_iff.mp
    (hhidden f.lineNumber (mem_linesOf_iff.mpr ⟨f, hf, hid, rfl⟩))
  have hkey := key_eq_of_transfer_of_call hf hg hid hgid hline
  obtain ⟨before, after, hsplit, hfirst⟩ := Finding.mem_deduplicate_iff.mp hkept
  have hpair := pairwise_controls dialect extracted code
  rw [hsplit] at hpair
  rcases List.mem_append.mp (hsplit ▸ hg) with hbefore | hafter
  · exact hfirst g hbefore hkey
  rcases List.mem_cons.mp hafter with rfl | hafter
  · simp [hid] at hgid
  -- A call after the transfer would contradict the order of the catalog.
  rcases (List.pairwise_cons.mp (List.pairwise_append.mp hpair).2.1).1 g hafter hkey.symm with
    hcontrols | ⟨hcall, -⟩
  · have htransfer := detectorId_of_transfer_control hg (hcontrols ▸ hcontrol)
    simp [hgid] at htransfer
  · simp [hid] at hcall

theorem not_failed_of_hidden (dialect : Dialect) (shape : Structure) (code : Text)
    (hhidden : TransferHidden
      (rawFindings (Catalog.of dialect) dialect shape.isExtracted code)) :
    ¬ ∃ r ∈ (Compliance.evaluate (run (Catalog.of dialect) shape dialect code).findings
      Registry.controls).failedControls, r.controlId = "V12.2" := by
  rw [Compliance.exists_failedControls_iff]
  rintro ⟨-, f, hf, hcontrol⟩
  exact not_transfer_control_of_hidden dialect _ code hhidden f hf hcontrol

theorem exists_kept_control_or_hidden (dialect : Dialect) (extracted : Bool) (code : Text)
    {id : String} {f : Finding}
    (hf : f ∈ rawFindings (Catalog.of dialect) dialect extracted code) (hid : id ∈ f.controls) :
    (∃ g ∈ Finding.deduplicate (rawFindings (Catalog.of dialect) dialect extracted code),
      id ∈ g.controls) ∨
    id = "V12.2" ∧ TransferHidden (rawFindings (Catalog.of dialect) dialect extracted code) := by
  have hplace (h : Finding) (hh : h ∈ rawFindings (Catalog.of dialect) dialect extracted code) :=
    Finding.exists_mem_deduplicate (pairwise_controls dialect extracted code)
      (fun _ => Or.inl rfl) hh
  obtain ⟨g, hg, -, hcontrols | ⟨-, htransfer⟩⟩ := hplace f hf
  · exact Or.inl ⟨g, hg, hcontrols ▸ hid⟩
  have hcontrols := controls_of_transfer hf htransfer
  obtain rfl : id = "V12.2" := by simpa [hcontrols] using hid
  by_cases hhidden : TransferHidden (rawFindings (Catalog.of dialect) dialect extracted code)
  · exact Or.inr ⟨rfl, hhidden⟩
  refine Or.inl ?_
  simp only [TransferHidden, Classical.not_forall] at hhidden
  obtain ⟨n, hn, hfree⟩ := hhidden
  obtain ⟨h, hh, hhid, rfl⟩ := mem_linesOf_iff.mp hn
  obtain ⟨k, hk, hkey, hsame | ⟨hcall, -⟩⟩ := hplace h hh
  · exact ⟨k, hk, by simp [hsame, controls_of_transfer hh hhid]⟩
  · exact absurd (mem_linesOf_iff.mpr
      ⟨k, Finding.mem_of_mem_deduplicate hk, hcall, congrArg Prod.snd hkey⟩) hfree

/-- The controls that fail are those that the detectors that fired name, but for the control of
token transfers when a low-level call is reported at each of their lines. -/
theorem run_failedControls (dialect : Dialect) (shape : Structure) (code : Text) (id : String) :
    (∃ r ∈ (Compliance.evaluate (run (Catalog.of dialect) shape dialect code).findings
        Registry.controls).failedControls, r.controlId = id) ↔
      (∃ d ∈ Catalog.of dialect, fires dialect code d ∧ id ∈ d.controls) ∧
        ¬ (id = "V12.2" ∧
          TransferHidden (rawFindings (Catalog.of dialect) dialect shape.isExtracted code)) := by
  constructor
  · intro hfailed
    obtain ⟨-, f, hf, hid⟩ := Compliance.exists_failedControls_iff.mp hfailed
    obtain ⟨d, hd, hfires, hreported⟩ := exists_reportedBy (Finding.mem_of_mem_deduplicate hf)
    refine ⟨⟨d, hd, hfires, hreported.controls ▸ hid⟩, ?_⟩
    rintro ⟨rfl, hhidden⟩
    exact not_failed_of_hidden dialect shape code hhidden hfailed
  · rintro ⟨⟨d, hd, hfires, hid⟩, hnot⟩
    rw [Compliance.exists_failedControls_iff]
    refine ⟨(controls_of_mem_catalog dialect d hd).1 id hid, ?_⟩
    obtain ⟨f, hf, hreported⟩ := exists_mem_rawFindings shape.isExtracted hd hfires
    rcases exists_kept_control_or_hidden dialect _ code hf (hreported.controls ▸ hid) with
      hkept | hhidden
    · exact hkept
    · exact absurd hhidden hnot

/-- A call and a transfer that are both spread over several lines are both reported without a place,
so the transfer is dropped and its control passes, whatever structure the source is given. -/
theorem failedControls_misses_transfer :
    let code := "to.call\x7b\n  value: x\n\x7d(\"\");\ntoken.transfer(\n  to,\n  x\n);".toList
    (∃ d ∈ Catalog.of .solidity, "V12.2" ∈ d.controls ∧ fires .solidity code d) ∧
      ∀ shape, ¬ ∃ r ∈ (Compliance.evaluate
        (run (Catalog.of .solidity) shape .solidity code).findings
        Registry.controls).failedControls, r.controlId = "V12.2" := by
  intro code
  refine ⟨by decide +kernel, fun shape => ?_⟩
  have hhidden (extracted : Bool) :
      TransferHidden (rawFindings (Catalog.of .solidity) .solidity extracted code) := by
    unfold TransferHidden
    rw [linesOf_rawFindings, linesOf_rawFindings "unchecked-call-return"]
    cases extracted <;> decide +kernel
  exact not_failed_of_hidden .solidity shape code (hhidden shape.isExtracted)

end Analysis

end ContractAudit
