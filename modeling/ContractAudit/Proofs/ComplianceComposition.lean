import ContractAudit.Proofs.Verdict

/-!
# Compliance of parts

Findings may be gathered in parts and controls may be listed in parts. The verdict on a control for
two parts of the findings comes from the verdicts for each: the first part that fails the control
decides the severity. Together with the verdict for a single finding this determines every
checklist, and the counts add up over the controls.
-/
namespace ContractAudit

open Registry (Control)

namespace ControlResult

def join (first second : ControlResult) : ControlResult where
  controlId := first.controlId
  category := first.category
  title := first.title
  passed := first.passed && second.passed
  findings := first.findings ++ second.findings
  severity := if first.passed then second.severity else first.severity

end ControlResult

namespace Compliance

theorem violations_append (xs ys : List Finding) (control : Control) :
    violations (xs ++ ys) control = violations xs control ++ violations ys control :=
  List.filter_append _ _

theorem evaluateControl_append (xs ys : List Finding) (control : Control) :
    evaluateControl (xs ++ ys) control =
      (evaluateControl xs control).join (evaluateControl ys control) := by
  cases hxs : violations xs control with
  | nil => simp [evaluateControl, ControlResult.join, violations_append, hxs]
  | cons f rest => simp [evaluateControl, ControlResult.join, violations_append, hxs]

theorem evaluateControl_singleton (f : Finding) (control : Control) :
    evaluateControl [f] control =
      if control.id ∈ f.controls then
        ⟨control.id, control.category, control.title, false, [f.name], f.severity⟩
      else ⟨control.id, control.category, control.title, true, [], .info⟩ := by
  by_cases h : control.id ∈ f.controls
  · simp [evaluateControl, violations, h]
  · simp [evaluateControl, violations, h]

theorem getElem?_checklist (findings : List Finding) (controls : List Control) (place : Nat) :
    (evaluate findings controls).checklist[place]? =
      controls[place]?.map (evaluateControl findings) :=
  List.getElem?_map

theorem checklist_evaluate_append (findings : List Finding) (cs ds : List Control) :
    (evaluate findings (cs ++ ds)).checklist =
      (evaluate findings cs).checklist ++ (evaluate findings ds).checklist :=
  List.map_append

theorem passed_evaluate_append (findings : List Finding) (cs ds : List Control) :
    (evaluate findings (cs ++ ds)).passed =
      (evaluate findings cs).passed + (evaluate findings ds).passed := by
  simp only [evaluate, ofChecklist, List.map_append, List.countP_append]

theorem passed_add_length_failedControls (findings : List Finding) (controls : List Control) :
    (evaluate findings controls).passed + (evaluate findings controls).failedControls.length =
      controls.length := by
  have hsplit := (controls.map (evaluateControl findings)).length_eq_countP_add_countP (·.passed)
  rw [List.length_map] at hsplit
  rw [hsplit, failedControls, ← List.countP_eq_length_filter]
  simp [evaluate, ofChecklist]

theorem counts_evaluate (findings : List Finding) (controls : List Control) :
    (evaluate findings controls).passed + (evaluate findings controls).failed =
        (evaluate findings controls).total ∧
      (evaluate findings controls).total = (evaluate findings controls).checklist.length ∧
      (evaluate findings controls).failedControls.length = (evaluate findings controls).failed := by
  have hsum := passed_add_length_failedControls findings controls
  have htotal : (evaluate findings controls).total = controls.length := List.length_map _
  have hfailed : (evaluate findings controls).failed =
      (evaluate findings controls).total - (evaluate findings controls).passed := rfl
  refine ⟨by omega, rfl, by omega⟩

/-- Evaluation takes findings and controls apart. -/
theorem evaluate_append (xs ys : List Finding) (cs ds : List Control) :
    let whole := evaluate (xs ++ ys) (cs ++ ds)
    whole.checklist = (evaluate (xs ++ ys) cs).checklist ++ (evaluate (xs ++ ys) ds).checklist ∧
    whole.checklist.map (·.controlId) = (cs ++ ds).map (·.id) ∧
    (∀ (place : Nat) (control : Control), (cs ++ ds)[place]? = some control →
      ∃ r r₁ r₂ : ControlResult,
      whole.checklist[place]? = some r ∧
      (evaluate xs (cs ++ ds)).checklist[place]? = some r₁ ∧
      (evaluate ys (cs ++ ds)).checklist[place]? = some r₂ ∧
      (r.passed = true ↔ r₁.passed = true ∧ r₂.passed = true) ∧
      r.findings = r₁.findings ++ r₂.findings ∧
      (r₁.passed = false → r.severity = r₁.severity) ∧
      (r₁.passed = true → r.severity = r₂.severity)) ∧
    (∀ (f : Finding) (control : Control), (evaluate [f] [control]).checklist =
      [if control.id ∈ f.controls then
        ⟨control.id, control.category, control.title, false, [f.name], f.severity⟩
      else ⟨control.id, control.category, control.title, true, [], .info⟩]) ∧
    whole.passed + whole.failed = whole.total ∧ whole.total = whole.checklist.length ∧
    whole.failedControls.length = whole.failed ∧
    whole.passed = (evaluate (xs ++ ys) cs).passed + (evaluate (xs ++ ys) ds).passed := by
  intro whole
  obtain ⟨hsum, htotal, hfailed⟩ := counts_evaluate (xs ++ ys) (cs ++ ds)
  refine ⟨checklist_evaluate_append _ cs ds, List.map_map, ?_, ?_, hsum, htotal, hfailed,
    passed_evaluate_append _ cs ds⟩
  · intro place control hcontrol
    have hplace (findings : List Finding) : (evaluate findings (cs ++ ds)).checklist[place]? =
        some (evaluateControl findings control) := by
      rw [getElem?_checklist, hcontrol, Option.map_some]
    refine ⟨_, _, _, (hplace _).trans (congrArg some (evaluateControl_append xs ys control)),
      hplace xs, hplace ys, Bool.and_eq_true_iff, rfl, ?_, ?_⟩
    · intro hpassed
      simp [ControlResult.join, hpassed]
    · intro hpassed
      simp [ControlResult.join, hpassed]
  · intro f control
    exact congrArg (fun r => [r]) (evaluateControl_singleton f control)

/-- A control that is listed twice fails twice, with the severity of the finding that comes first
though a later one is worse; a finding about an unknown control fails nothing. -/
theorem evaluate_append_repeated :
    let control : Control := ⟨"V6.1", "External Calls", "Calls", 1, "", ""⟩
    let low : Finding := { name := "a", type := "T", severity := .low, controls := ["V6.1", "X"] }
    let worse : Finding := { name := "b", type := "T", severity := .critical, controls := ["V6.1"] }
    let whole := evaluate ([low] ++ [worse]) ([control] ++ [control])
    (∃ r, whole.checklist[1]? = some r ∧ r.passed = false ∧ r.findings = ["a", "b"] ∧
      r.severity = .low) ∧
    whole.passed = 0 ∧ whole.failed = 2 := by
  intro control low worse whole
  obtain ⟨-, -, hplaces, -, hsum, htotal, -, hpassed⟩ :=
    evaluate_append [low] [worse] [control] [control]
  obtain ⟨r, r₁, r₂, hr, hr₁, hr₂, hverdict, hnames, hseverity, -⟩ := hplaces 1 control rfl
  have hlow : r₁ = ⟨"V6.1", "External Calls", "Calls", false, ["a"], .low⟩ :=
    (Option.some.inj hr₁).symm
  have hworse : r₂ = ⟨"V6.1", "External Calls", "Calls", false, ["b"], .critical⟩ :=
    (Option.some.inj hr₂).symm
  subst hlow hworse
  have hfailed : r.passed = false := by simpa using hverdict
  have hnone : whole.passed = 0 := hpassed
  refine ⟨⟨r, hr, hfailed, hnames, hseverity rfl⟩, hnone, ?_⟩
  have hlength : whole.total = 2 := htotal
  have hboth : whole.passed + whole.failed = whole.total := hsum
  omega

end Compliance

end ContractAudit
