import ContractAudit.Compliance
import ContractAudit.Trust.Level

/-!
# What verdicts depend on

The worst severity of a list is one of its members and is not exceeded. The trust level is a
function of the worst severity alone, and a control fails exactly when it is on the list and a
finding names it.
-/
namespace ContractAudit

namespace Severity

theorem eq_of_value_eq {s t : Severity} (h : s.value = t.value) : s = t := by
  cases s <;> cases t <;> simp [value] at h ⊢

theorem value_worse (s t : Severity) : (worse s t).value = max s.value t.value := by
  unfold worse
  split <;> omega

theorem worse_eq_or (s t : Severity) : worse s t = s ∨ worse s t = t := by
  unfold worse
  split
  · exact Or.inr rfl
  · exact Or.inl rfl

theorem foldl_worse_spec (s : Severity) (rest : List Severity) :
    rest.foldl worse s ∈ s :: rest ∧ ∀ t ∈ s :: rest, t.value ≤ (rest.foldl worse s).value := by
  induction rest generalizing s with
  | nil => simp
  | cons t rest ih =>
    obtain ⟨hmem, hle⟩ := ih (worse s t)
    have hworse : max s.value t.value ≤ (rest.foldl worse (worse s t)).value := by
      rw [← value_worse]
      exact hle _ List.mem_cons_self
    rw [List.foldl_cons]
    constructor
    · rcases List.mem_cons.mp hmem with heq | hrest
      · rw [heq]
        rcases worse_eq_or s t with h | h <;> simp [h]
      · exact List.mem_cons_of_mem _ (List.mem_cons_of_mem _ hrest)
    · simp only [List.forall_mem_cons]
      exact ⟨by omega, by omega, fun u hu => hle u (List.mem_cons_of_mem _ hu)⟩

theorem worst?_eq_some_iff {severities : List Severity} {s : Severity} :
    worst? severities = some s ↔ s ∈ severities ∧ ∀ t ∈ severities, t.value ≤ s.value := by
  cases severities with
  | nil => simp [worst?]
  | cons first rest =>
    obtain ⟨hmem, hle⟩ := foldl_worse_spec first rest
    simp only [worst?, Option.some.injEq]
    constructor
    · rintro rfl
      exact ⟨hmem, hle⟩
    · rintro ⟨hs, hmax⟩
      exact eq_of_value_eq (Nat.le_antisymm (hmax _ hmem) (hle s hs))

theorem worst?_eq_none_iff {severities : List Severity} :
    worst? severities = none ↔ severities = [] := by
  cases severities <;> simp [worst?]

/-- Two lists each of which exceeds every member of the other have one worst severity. -/
theorem worst?_congr {ss ts : List Severity} (h : ∀ s ∈ ss, ∃ t ∈ ts, s.value ≤ t.value)
    (h' : ∀ t ∈ ts, ∃ s ∈ ss, t.value ≤ s.value) : worst? ss = worst? ts := by
  cases hs : worst? ss with
  | none =>
    rw [worst?_eq_none_iff] at hs
    have hts : ts = [] := List.eq_nil_iff_forall_not_mem.mpr fun t ht => by
      obtain ⟨s, hss, -⟩ := h' t ht
      simp [hs] at hss
    exact (worst?_eq_none_iff.mpr hts).symm
  | some s =>
    obtain ⟨hmem, hmax⟩ := worst?_eq_some_iff.mp hs
    obtain ⟨t, ht, hst⟩ := h s hmem
    have htop : ∀ u ∈ ts, u.value ≤ s.value := fun u hu => by
      obtain ⟨v, hv, huv⟩ := h' u hu
      exact Nat.le_trans huv (hmax v hv)
    obtain rfl : s = t := eq_of_value_eq (Nat.le_antisymm hst (htop t ht))
    exact (worst?_eq_some_iff.mpr ⟨ht, htop⟩).symm

end Severity

namespace TrustLevel

def ofWorst : Option Severity → TrustLevel
  | none => secure
  | some .critical => criticalUnsafe
  | some .high => highRisk
  | some .medium => mediumRisk
  | some .low => lowRisk
  | some .info => lowRisk

theorem ofCounts_ofSeverities (severities : List Severity) :
    ofCounts (.ofSeverities severities) = ofWorst (Severity.worst? severities) := by
  have hpos (s : Severity) : (0 : Int) < severities.count s ↔ s ∈ severities := by
    rw [Int.natCast_pos, List.count_pos_iff]
  cases hs : Severity.worst? severities with
  | none =>
    rw [Severity.worst?_eq_none_iff.mp hs]
    rfl
  | some s =>
    obtain ⟨hmem, hmax⟩ := Severity.worst?_eq_some_iff.mp hs
    have habsent (t : Severity) (ht : s.value < t.value) : t ∉ severities := fun h =>
      absurd (hmax t h) (by omega)
    simp only [ofCounts, SeverityCounts.ofSeverities, gt_iff_lt, hpos, Bool.or_eq_true,
      decide_eq_true_eq]
    cases s with
    | critical => simp [hmem, ofWorst]
    | high => simp [hmem, habsent .critical (by decide), ofWorst]
    | medium => simp [hmem, habsent .critical (by decide), habsent .high (by decide), ofWorst]
    | low =>
      simp [hmem, habsent .critical (by decide), habsent .high (by decide),
        habsent .medium (by decide), ofWorst]
    | info =>
      simp [hmem, habsent .critical (by decide), habsent .high (by decide),
        habsent .medium (by decide), ofWorst]

end TrustLevel

namespace Compliance

theorem evaluateControl_passed_eq_false_iff {findings : List Finding}
    {control : Registry.Control} :
    (evaluateControl findings control).passed = false ↔
      ∃ f ∈ findings, control.id ∈ f.controls := by
  simp [evaluateControl, violations]

theorem evaluateControl_passed_iff {findings : List Finding} {control : Registry.Control} :
    (evaluateControl findings control).passed = true ↔
      ∀ f ∈ findings, control.id ∉ f.controls := by
  rw [← Bool.not_eq_false, evaluateControl_passed_eq_false_iff]
  simp

theorem exists_failedControls_iff {findings : List Finding}
    {controls : List Registry.Control} {id : String} :
    (∃ r ∈ (evaluate findings controls).failedControls, r.controlId = id) ↔
      (∃ control ∈ controls, control.id = id) ∧ ∃ f ∈ findings, id ∈ f.controls := by
  simp only [failedControls, evaluate, ofChecklist, List.mem_filter, List.mem_map,
    Bool.not_eq_true']
  constructor
  · rintro ⟨r, ⟨⟨control, hcontrol, rfl⟩, hfailed⟩, rfl⟩
    exact ⟨⟨control, hcontrol, rfl⟩, evaluateControl_passed_eq_false_iff.mp hfailed⟩
  · rintro ⟨⟨control, hcontrol, rfl⟩, hviolated⟩
    exact ⟨_, ⟨⟨control, hcontrol, rfl⟩, evaluateControl_passed_eq_false_iff.mpr hviolated⟩, rfl⟩

end Compliance

end ContractAudit
