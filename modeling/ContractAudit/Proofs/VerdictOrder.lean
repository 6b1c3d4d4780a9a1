import ContractAudit.Proofs.Consistency
import ContractAudit.Proofs.Rounding
import Mathlib.Data.List.Count

/-!
# Fewer findings, no worse a verdict

Dropping findings never worsens score, risk, trust level or compliance, so a stricter filter never
does either, and the order of findings plays no part in them. For the percentage this rests on the
fact that rounding, which happens twice before its whole part is taken, never turns an order around.
-/
namespace ContractAudit

/-! ## Scores and levels -/

def RiskLevel.rank : RiskLevel → Nat
  | critical => 0
  | high => 1
  | medium => 2
  | low => 3
  | secure => 4

theorem RiskLevel.rank_ofScore_mono {a b : Int} (h : a ≤ b) :
    (ofScore a).rank ≤ (ofScore b).rank := by
  unfold ofScore
  split_ifs <;> simp only [rank] <;> omega

namespace SeverityCounts

variable {c c' : SeverityCounts}

theorem score_antitone (h : ∀ s, c.countOf s ≤ c'.countOf s) : c'.score ≤ c.score := by
  have hcritical : c.critical ≤ c'.critical := h .critical
  have hhigh : c.high ≤ c'.high := h .high
  have hmedium : c.medium ≤ c'.medium := h .medium
  have hlow : c.low ≤ c'.low := h .low
  unfold score deduction
  omega

theorem number_ofCounts_antitone (h : ∀ s, c.countOf s ≤ c'.countOf s) :
    (TrustLevel.ofCounts c').number ≤ (TrustLevel.ofCounts c).number := by
  have hcritical : c.critical ≤ c'.critical := h .critical
  have hhigh : c.high ≤ c'.high := h .high
  have hmedium : c.medium ≤ c'.medium := h .medium
  have hlow : c.low ≤ c'.low := h .low
  have hinfo : c.info ≤ c'.info := h .info
  unfold TrustLevel.ofCounts
  simp only [Bool.or_eq_true, decide_eq_true_eq]
  split_ifs <;> simp only [TrustLevel.number] <;> omega

theorem ofCounts?_ofFindings (findings : List Finding) :
    Classification.ofCounts? (ofFindings findings) =
      .ok (Classification.ofCounts (ofFindings findings)) := by
  have hvalid : (ofFindings findings).validate = .ok () := by
    simp [validate, named, ofFindings, ofSeverities]
  simp [Classification.ofCounts?, hvalid, bind, Except.bind, pure, Except.pure]

theorem countOf_le_of_sublist {xs ys : List Finding} (h : xs.Sublist ys) (s : Severity) :
    (ofFindings xs).countOf s ≤ (ofFindings ys).countOf s := by
  rw [countOf_ofFindings, countOf_ofFindings]
  exact_mod_cast h.countP_le

theorem ofFindings_perm {xs ys : List Finding} (h : xs.Perm ys) :
    ofFindings xs = ofFindings ys := by
  simp only [ofFindings, ofSeverities, (h.map (·.severity)).count_eq]

end SeverityCounts

/-! ## Controls -/

namespace Compliance

open Registry (Control)

theorem ratio_den_pos (passed total : Int) : 0 < (ratio passed total).den :=
  Number.Fraction.den_round_pos _

theorem ratio_mono {p q total : Int} (htotal : 0 < total) (h : p ≤ q) :
    (ratio p total).value ≤ (ratio q total).value := by
  have hden : 0 < total.toNat := by omega
  apply Number.Fraction.round_mono hden hden
  have hpq : ((100 * p : Int) : ℚ) ≤ ((100 * q : Int) : ℚ) := by exact_mod_cast (by omega)
  unfold Number.Fraction.value
  gcongr

theorem percentageOf_mono {p q : Int} (total : Int) (h : p ≤ q) :
    percentageOf p total ≤ percentageOf q total := by
  unfold percentageOf
  split
  · rfl
  · rename_i htotal
    have hp := ratio_den_pos p total
    have hq := ratio_den_pos q total
    have hratio := ratio_mono (not_le.mp htotal) h
    rw [Number.Fraction.floor_eq, Number.Fraction.floor_eq]
    apply Int.floor_mono
    apply Number.Fraction.round_mono
    · exact Nat.mul_pos Nat.two_pos hp
    · exact Nat.mul_pos Nat.two_pos hq
    · rw [Number.Fraction.value_addHalf hp, Number.Fraction.value_addHalf hq]
      linarith

theorem passed_evaluate_antitone {xs ys : List Finding} (h : xs ⊆ ys) (controls : List Control) :
    (evaluate ys controls).passed ≤ (evaluate xs controls).passed := by
  simp only [evaluate, ofChecklist, List.countP_map]
  apply List.countP_mono_left
  intro control _ hpassed
  exact evaluateControl_passed_iff.mpr fun f hf => evaluateControl_passed_iff.mp hpassed f (h hf)

theorem percentage_evaluate_antitone {xs ys : List Finding} (h : xs ⊆ ys)
    (controls : List Control) :
    (evaluate ys controls).percentage ≤ (evaluate xs controls).percentage := by
  have hpassed := passed_evaluate_antitone h controls
  simp only [evaluate, ofChecklist, List.length_map] at hpassed ⊢
  exact percentageOf_mono _ (by exact_mod_cast hpassed)

theorem passed_evaluateControl_perm {xs ys : List Finding} (h : xs.Perm ys) (control : Control) :
    (evaluateControl xs control).passed = (evaluateControl ys control).passed := by
  rw [Bool.eq_iff_iff, evaluateControl_passed_iff, evaluateControl_passed_iff]
  simp only [h.mem_iff]

end Compliance

/-! ## Filters -/

namespace Filter

def byStrictness : List String :=
  ["all", "low", "medium", "high", "critical"]

def strictness (name : String) : Nat :=
  byStrictness.idxOf (String.ofList (Text.lower (Text.trim name.toList)))

def stricter (a b : String) : String :=
  if strictness a < strictness b then b else a

def leastValue : Option Severity → Nat
  | none => 0
  | some least => least.value

theorem apply_eq_filter (least : Option Severity) (findings : List Finding) :
    apply least findings = findings.filter fun f => leastValue least ≤ f.severity.value := by
  cases least with
  | none => simp [apply, leastValue]
  | some least => rfl

theorem leastValue_threshold {name : String} {least : Option Severity}
    (h : threshold name = .ok least) : leastValue least = strictness name := by
  unfold threshold at h
  unfold strictness
  generalize String.ofList (Text.lower (Text.trim name.toList)) = key at h ⊢
  by_cases hall : key = keepAll
  · rw [if_pos (by simpa using hall)] at h
    obtain rfl := Except.ok.inj h
    rw [hall]
    rfl
  · rw [if_neg (by simpa using hall)] at h
    have hplace : ∀ s ∈ severities, leastValue (some s) = byStrictness.idxOf (nameOf s) := by decide
    cases hfind : severities.find? (fun s => nameOf s == key) with
    | none => simp [hfind] at h
    | some s =>
      rw [hfind] at h
      obtain rfl := Except.ok.inj h
      have hname : nameOf s = key := by simpa using List.find?_some hfind
      rw [hplace s (List.mem_of_find?_eq_some hfind), hname]

theorem apply_sublist_apply {s t : Option Severity} (h : leastValue t ≤ leastValue s)
    (findings : List Finding) : (apply s findings).Sublist (apply t findings) := by
  rw [apply_eq_filter, apply_eq_filter]
  apply List.monotone_filter_right
  intro f hf
  simp only [decide_eq_true_eq] at hf ⊢
  omega

theorem apply_apply (s t : Option Severity) (findings : List Finding) :
    apply t (apply s findings) =
      apply (if leastValue s < leastValue t then t else s) findings := by
  rw [apply_eq_filter, apply_eq_filter s, apply_eq_filter, List.filter_filter]
  apply List.filter_congr
  intro f _
  rw [Bool.eq_iff_iff, Bool.and_eq_true]
  simp only [decide_eq_true_eq]
  split_ifs <;> omega

theorem exists_threshold {name : String} (h : Known name) : ∃ least,
    leastValue least = strictness name ∧
      ∀ findings, select name findings = .ok (apply least findings) := by
  rcases threshold_cases name with ⟨-, least, hleast⟩ | ⟨hunknown, -⟩
  · refine ⟨least, leastValue_threshold hleast, fun findings => ?_⟩
    rw [select, hleast]
    rfl
  · exact absurd h hunknown

theorem select_bind_select {a b : String} (ha : Known a) (hb : Known b) (findings : List Finding) :
    (select a findings).bind (select b) = select (stricter a b) findings := by
  obtain ⟨s, hs, hselect⟩ := exists_threshold ha
  obtain ⟨t, ht, hselect'⟩ := exists_threshold hb
  have hkept : (select a findings).bind (select b) =
      .ok (apply (if leastValue s < leastValue t then t else s) findings) := by
    rw [hselect, ← apply_apply]
    exact hselect' _
  rw [hkept, hs, ht, stricter]
  split
  · exact (hselect' findings).symm
  · exact (hselect findings).symm

end Filter

/-! ## Verdicts -/

/-- In no part is the verdict on `xs` worse than the verdict on `ys`. -/
structure NoWorse (controls : List Registry.Control) (xs ys : List Finding) : Prop where
  classification : ∃ c c', Classification.ofCounts? (.ofFindings xs) = .ok c ∧
    Classification.ofCounts? (.ofFindings ys) = .ok c' ∧ c'.score ≤ c.score ∧
    c'.risk.rank ≤ c.risk.rank ∧ c'.level.number ≤ c.level.number
  passed : (Compliance.evaluate ys controls).passed ≤ (Compliance.evaluate xs controls).passed
  percentage :
    (Compliance.evaluate ys controls).percentage ≤ (Compliance.evaluate xs controls).percentage

structure SameVerdict (controls : List Registry.Control) (xs ys : List Finding) : Prop where
  classification :
    Classification.ofCounts? (.ofFindings xs) = Classification.ofCounts? (.ofFindings ys)
  verdicts : (Compliance.evaluate xs controls).checklist.map (fun r => (r.controlId, r.passed)) =
    (Compliance.evaluate ys controls).checklist.map fun r => (r.controlId, r.passed)
  percentage :
    (Compliance.evaluate xs controls).percentage = (Compliance.evaluate ys controls).percentage

theorem noWorse_of_sublist (controls : List Registry.Control) {xs ys : List Finding}
    (h : xs.Sublist ys) : NoWorse controls xs ys where
  classification := by
    have hcounts := SeverityCounts.countOf_le_of_sublist h
    have hscore := SeverityCounts.score_antitone hcounts
    exact ⟨_, _, SeverityCounts.ofCounts?_ofFindings xs, SeverityCounts.ofCounts?_ofFindings ys,
      hscore, RiskLevel.rank_ofScore_mono hscore, SeverityCounts.number_ofCounts_antitone hcounts⟩
  passed := Compliance.passed_evaluate_antitone h.subset controls
  percentage := Compliance.percentage_evaluate_antitone h.subset controls

theorem sameVerdict_of_perm (controls : List Registry.Control) {xs ys : List Finding}
    (h : xs.Perm ys) : SameVerdict controls xs ys where
  classification := by rw [SeverityCounts.ofFindings_perm h]
  verdicts := by
    simp only [Compliance.evaluate, Compliance.ofChecklist, List.map_map]
    apply List.map_congr_left
    intro control _
    simp only [Function.comp_apply, Compliance.passed_evaluateControl_perm h]
    rfl
  percentage := le_antisymm (Compliance.percentage_evaluate_antitone h.symm.subset controls)
    (Compliance.percentage_evaluate_antitone h.subset controls)

/-- Every verdict is at least as good for fewer findings, among them those of a stricter filter, and
the same for another order; of two filters in turn only the stricter counts. -/
theorem verdict_antitone (ys : List Finding) (controls : List Registry.Control) :
    (∀ xs, xs.Sublist ys → NoWorse controls xs ys) ∧
      (∀ a b, Filter.Known a → Filter.Known b → Filter.strictness b ≤ Filter.strictness a →
        ∃ xs zs, Filter.select a ys = .ok xs ∧ Filter.select b ys = .ok zs ∧
          NoWorse controls xs zs) ∧
      (∀ xs, xs.Perm ys → SameVerdict controls xs ys) ∧
      ∀ a b, Filter.Known a → Filter.Known b →
        (Filter.select a ys).bind (Filter.select b) = Filter.select (Filter.stricter a b) ys := by
  refine ⟨fun xs h => noWorse_of_sublist controls h, ?_,
    fun xs h => sameVerdict_of_perm controls h, fun a b ha hb => Filter.select_bind_select ha hb ys⟩
  intro a b ha hb hle
  obtain ⟨s, hs, hselect⟩ := Filter.exists_threshold ha
  obtain ⟨t, ht, hselect'⟩ := Filter.exists_threshold hb
  rw [← hs, ← ht] at hle
  exact ⟨_, _, hselect ys, hselect' ys,
    noWorse_of_sublist controls (Filter.apply_sublist_apply hle ys)⟩

/-- A critical and a low finding, and filters written with blanks and capitals. -/
theorem verdict_antitone_critical_low :
    let critical : Finding :=
      { name := "c", type := "c", severity := .critical, controls := ["V2.4"] }
    let low : Finding := { name := "l", type := "l", severity := .low, controls := ["V13.1"] }
    NoWorse Registry.controls [critical] [low, critical] ∧
      SameVerdict Registry.controls [critical, low] [low, critical] ∧
      (∃ xs zs, Filter.select " HIGH " [low, critical] = .ok xs ∧
        Filter.select "All" [low, critical] = .ok zs ∧ NoWorse Registry.controls xs zs) ∧
      (Filter.select "low" [low, critical]).bind (Filter.select " HIGH ") = .ok [critical] := by
  intro critical low
  have hhigh : Filter.Known " HIGH " := by decide +kernel
  have hall : Filter.Known "All" := by decide +kernel
  have hlow : Filter.Known "low" := by decide +kernel
  have hle : Filter.strictness "All" ≤ Filter.strictness " HIGH " := by decide +kernel
  obtain ⟨hsublist, hfilter, hperm, hcompose⟩ :=
    verdict_antitone [low, critical] Registry.controls
  refine ⟨hsublist _ (.cons _ (.refl _)), hperm _ (.swap _ _ _), hfilter _ _ hhigh hall hle, ?_⟩
  rw [hcompose _ _ hlow hhigh]
  decide +kernel

end ContractAudit
