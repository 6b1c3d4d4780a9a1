import ContractAudit.Audit.Run
import ContractAudit.Proofs.Deduplication
import ContractAudit.Proofs.Enhancement

/-!
# Collaborators do not interfere with verdicts

The filter, the counts, the checklist and the recommendations read only the fixed part of a finding,
and enhancement keeps it. So whatever a collaborator answers, and whether there is one at all, two
audits of one request give reports that agree outside the texts. Each text that differs belongs to
one of the first serious findings of the discovery order, and a finding is marked as enhanced
exactly when the call about it was answered.
-/
namespace ContractAudit

/-! ## Verdicts read the fixed part only -/

theorem SeverityCounts.ofFindings_map_fixedPart (findings : List Finding) :
    SeverityCounts.ofFindings (findings.map Finding.fixedPart) =
      SeverityCounts.ofFindings findings := by
  simp [SeverityCounts.ofFindings, Function.comp_def]

theorem Filter.apply_map_fixedPart (threshold : Option Severity) (findings : List Finding) :
    Filter.apply threshold (findings.map Finding.fixedPart) =
      (Filter.apply threshold findings).map Finding.fixedPart := by
  cases threshold with
  | none => rfl
  | some least => simp [Filter.apply, List.filter_map, Function.comp_def]

theorem Compliance.evaluateControl_map_fixedPart (findings : List Finding)
    (control : Registry.Control) :
    evaluateControl (findings.map Finding.fixedPart) control =
      evaluateControl findings control := by
  have hv : violations (findings.map Finding.fixedPart) control =
      (violations findings control).map Finding.fixedPart := by
    unfold violations
    rw [List.filter_map]
    rfl
  simp [evaluateControl, hv, Function.comp_def]

theorem Compliance.evaluate_map_fixedPart (findings : List Finding)
    (controls : List Registry.Control) :
    evaluate (findings.map Finding.fixedPart) controls = evaluate findings controls := by
  unfold evaluate
  congr 1
  exact List.map_congr_left fun control _ => evaluateControl_map_fixedPart findings control

structure Report.Agrees (r s : Report) : Prop where
  code : r.code = s.code
  fileName : r.fileName = s.fileName
  dialect : r.dialect = s.dialect
  score : r.score = s.score
  risk : r.risk = s.risk
  level : r.level = s.level
  statistics : r.statistics = s.statistics
  compliance : r.compliance = s.compliance
  recommendations : r.recommendations = s.recommendations
  findings : r.findings.map Finding.fixedPart = s.findings.map Finding.fixedPart

namespace Auditor

theorem assemble_agrees (t : Task) (wanted : Number.Quantity) {fs gs : List Finding}
    (h : fs.map Finding.fixedPart = gs.map Finding.fixedPart) :
    (assemble t wanted fs).Agrees (assemble t wanted gs) := by
  have hcounts : SeverityCounts.ofFindings fs = SeverityCounts.ofFindings gs := by
    rw [← SeverityCounts.ofFindings_map_fixedPart fs, h, SeverityCounts.ofFindings_map_fixedPart]
  have hcompliance : Compliance.evaluate fs Registry.controls =
      Compliance.evaluate gs Registry.controls := by
    rw [← Compliance.evaluate_map_fixedPart fs, h, Compliance.evaluate_map_fixedPart]
  constructor <;> simp only [assemble, hcounts, hcompliance, h]

end Auditor

/-! ## Static findings are unmarked -/

theorem Analysis.method_of_mem_rawFindings {catalog : List Detector} {dialect : Dialect}
    {extracted : Bool} {code : Text} {f : Finding}
    (hf : f ∈ rawFindings catalog dialect extracted code) : f.method = .static := by
  obtain ⟨d, -, hd⟩ := List.mem_flatMap.mp hf
  unfold findingsOf at hd
  split at hd
  · obtain ⟨place, -, rfl⟩ := List.mem_map.mp hd
    rfl
  · simp at hd

namespace Auditor

theorem method_of_mem_staticFindings {a : Auditor} {t : Task} {f : Finding}
    (hf : f ∈ a.staticFindings t) : f.method = .static := by
  unfold staticFindings at hf
  split at hf
  · exact Analysis.method_of_mem_rawFindings (Finding.mem_of_mem_deduplicate hf)
  · simp at hf

/-! ## One audit -/

open Enhancement (Chosen improve rank)

def answerAt (a : Auditor) (t : Task) (call limit place : Nat) (f : Finding) :
    Option EnhancementResponse :=
  (a.activeEnhancer t).bind fun enhancer =>
    Enhancement.answerAt enhancer call limit (a.staticFindings t) place f

theorem answerAt_isSome_iff (a : Auditor) (t : Task) (call limit place : Nat) (f : Finding)
    (hf : (a.staticFindings t)[place]? = some f) :
    (a.answerAt t call limit place f).isSome ↔
      Chosen limit (a.staticFindings t) place ∧ ∃ enhancer, a.activeEnhancer t = some enhancer ∧
        (enhancer (call + rank (a.staticFindings t) place) (.ofFinding f)).isSome := by
  unfold answerAt
  cases a.activeEnhancer t with
  | none => simp
  | some enhancer => simpa using Enhancement.answerAt_isSome_iff enhancer call limit _ place f hf

theorem budget_eq (a : Auditor) (limit : Nat) (wanted : Option Number.Quantity)
    (ha : a.options = ⟨.first limit, wanted⟩) (t : Task) (findings : List Finding) :
    a.budget t findings =
      .ok (if (a.activeEnhancer t).isSome then min (findings.countP Enhancement.isSerious) limit
        else 0) := by
  have hlimit : ¬ (limit : Int) < 0 := by omega
  unfold budget
  cases a.activeEnhancer t <;> simp [ha, Enhancement.Limit.budget?, hlimit]

theorem enhanced_eq_mapIdx (a : Auditor) (t : Task) (call limit : Nat) :
    a.enhanced t call
        (if (a.activeEnhancer t).isSome then
          min ((a.staticFindings t).countP Enhancement.isSerious) limit else 0)
        (a.staticFindings t) =
      (a.staticFindings t).mapIdx fun place f => improve f (a.answerAt t call limit place f) := by
  unfold enhanced answerAt
  cases a.activeEnhancer t with
  | none =>
    apply List.ext_getElem?
    intro place
    simp only [Option.bind_none, Enhancement.improve_none]
    rw [List.getElem?_mapIdx, Option.map_id']
  | some enhancer =>
    simp only [Option.isSome_some, if_true, Option.bind_some]
    rw [Enhancement.run_min_countP, Enhancement.run_eq_mapIdx]

theorem perform_eq (a : Auditor) (limit : Nat) (wanted : Number.Quantity)
    (ha : a.options = ⟨.first limit, some wanted⟩) (call : Nat) (t : Task) :
    a.perform call t =
      ⟨if (a.activeEnhancer t).isSome then Enhancement.calls limit (a.staticFindings t) else [],
        .ok (assemble t wanted (Filter.apply t.threshold
          ((a.staticFindings t).mapIdx fun place f =>
            improve f (a.answerAt t call limit place f))))⟩ := by
  have hcalls : Enhancement.calls (if (a.activeEnhancer t).isSome then
        min ((a.staticFindings t).countP Enhancement.isSerious) limit else 0)
      (a.staticFindings t) =
      if (a.activeEnhancer t).isSome then Enhancement.calls limit (a.staticFindings t) else [] := by
    split
    · exact Enhancement.calls_min_countP limit _
    · simp [Enhancement.calls]
  simp only [perform, budget_eq a limit (some wanted) ha, enhanced_eq_mapIdx, hcalls, ha]

theorem map_fixedPart_mapIdx_improve (findings : List Finding)
    (answer : Nat → Finding → Option EnhancementResponse) :
    (findings.mapIdx fun place f => improve f (answer place f)).map Finding.fixedPart =
      findings.map Finding.fixedPart := by
  apply List.ext_getElem?
  intro place
  simp [Function.comp_def]

/-- Where the findings of a report come from: the static findings, each with the answer to its own
call, go through the filter. Nothing but a chosen finding can change, the ones marked are the chosen
ones whose call was answered, and the calls are made in the order of the findings. -/
structure Traced (a : Auditor) (t : Task) (call limit : Nat) (s : Session) (r : Report) : Prop where
  report : s.report = .ok r
  findings : r.findings = Filter.apply t.threshold
    ((a.staticFindings t).mapIdx fun place f => improve f (a.answerAt t call limit place f))
  chosen_of_ne : ∀ place f, (a.staticFindings t)[place]? = some f →
    improve f (a.answerAt t call limit place f) ≠ f → Chosen limit (a.staticFindings t) place
  method_eq_ai_iff : ∀ place f, (a.staticFindings t)[place]? = some f →
    ((improve f (a.answerAt t call limit place f)).method = .ai ↔
      Chosen limit (a.staticFindings t) place ∧ ∃ enhancer, a.activeEnhancer t = some enhancer ∧
        (enhancer (call + rank (a.staticFindings t) place) (.ofFinding f)).isSome)
  call_of_chosen : (a.activeEnhancer t).isSome → ∀ place f,
    (a.staticFindings t)[place]? = some f → Chosen limit (a.staticFindings t) place →
      s.calls[rank (a.staticFindings t) place]? = some (.ofFinding f)

theorem perform_traced (a : Auditor) (limit : Nat) (wanted : Number.Quantity)
    (ha : a.options = ⟨.first limit, some wanted⟩) (call : Nat) (t : Task) :
    a.Traced t call limit (a.perform call t) (assemble t wanted (Filter.apply t.threshold
      ((a.staticFindings t).mapIdx fun place f =>
        improve f (a.answerAt t call limit place f)))) := by
  rw [perform_eq a limit wanted ha]
  refine ⟨rfl, rfl, ?_, ?_, ?_⟩
  · intro place f hf hne
    have hsome : (a.answerAt t call limit place f).isSome := by
      cases hanswer : a.answerAt t call limit place f with
      | none => simp [hanswer] at hne
      | some response => rfl
    exact ((a.answerAt_isSome_iff t call limit place f hf).mp hsome).1
  · intro place f hf
    rw [Enhancement.improve_method_eq_ai_iff _ _
      (method_of_mem_staticFindings (List.mem_of_getElem? hf))]
    exact a.answerAt_isSome_iff t call limit place f hf
  · intro hactive place f hf hchosen
    rw [if_pos hactive]
    exact Enhancement.getElem?_calls_rank limit _ place f hf hchosen

/-! ## Two audits -/

def withEnhancer (a : Auditor) (e : Option Enhancer) : Auditor :=
  { a with enhancer := e }

@[simp] theorem withEnhancer_options (a : Auditor) (e : Option Enhancer) :
    (a.withEnhancer e).options = a.options := rfl

@[simp] theorem staticFindings_withEnhancer (a : Auditor) (e : Option Enhancer) (t : Task) :
    (a.withEnhancer e).staticFindings t = a.staticFindings t := rfl

theorem activeEnhancer_withEnhancer (a : Auditor) (e : Option Enhancer) (t : Task)
    (ht : t.facets.contains .ai) : (a.withEnhancer e).activeEnhancer t = e := by
  rw [activeEnhancer, if_pos ht]
  rfl

/-- Two audits of one request, with any two collaborators or none, give reports that agree outside
the texts. In both, only the first `limit` serious findings can have other texts than the static
ones, and two collaborators that are asked at all are asked the same questions in one order. -/
theorem audit_noninterference (a : Auditor) (limit : Nat) (wanted : Number.Quantity)
    (ha : a.options = ⟨.first limit, some wanted⟩) (r : Request) (t : Task)
    (hr : r.accept = .ok t) (e₁ e₂ : Option Enhancer) (call₁ call₂ : Nat) :
    ∃ R₁ R₂ : Report,
      (a.withEnhancer e₁).Traced t call₁ limit ((a.withEnhancer e₁).audit call₁ r) R₁ ∧
      (a.withEnhancer e₂).Traced t call₂ limit ((a.withEnhancer e₂).audit call₂ r) R₂ ∧
      R₁.Agrees R₂ ∧
      (t.facets.contains .ai → e₁.isSome → e₂.isSome →
        ((a.withEnhancer e₁).audit call₁ r).calls = ((a.withEnhancer e₂).audit call₂ r).calls) := by
  have haudit (e : Option Enhancer) (call : Nat) :
      (a.withEnhancer e).audit call r = (a.withEnhancer e).perform call t := by
    simp only [audit, hr]
  have htraced (e : Option Enhancer) (call : Nat) :=
    perform_traced (a.withEnhancer e) limit wanted ha call t
  simp only [haudit]
  refine ⟨_, _, htraced e₁ call₁, htraced e₂ call₂, ?_, ?_⟩
  · apply assemble_agrees
    simp only [← Filter.apply_map_fixedPart, map_fixedPart_mapIdx_improve,
      staticFindings_withEnhancer]
  · intro hai h₁ h₂
    have hcalls (e : Option Enhancer) (he : e.isSome) (call : Nat) :
        ((a.withEnhancer e).perform call t).calls =
          Enhancement.calls limit (a.staticFindings t) := by
      rw [perform_eq (a.withEnhancer e) limit wanted ha, activeEnhancer_withEnhancer a e t hai]
      exact if_pos he
    rw [hcalls e₁ h₁, hcalls e₂ h₂]

/-- No collaborator, against one whose first call fails and whose other calls are answered. -/
theorem audit_noninterference_failing_first_call :
    let a : Auditor := { extractor := Structure.extractorOf fun _ => .error "no parser" }
    let r : Request := { code := .str "require(tx.origin == owner);", language := some .solidity }
    let e : Enhancer := fun call _ => if call = 0 then none else some { description := some "why" }
    ∃ (t : Task) (R₁ R₂ : Report), r.accept = .ok t ∧
      (a.withEnhancer none).Traced t 0 3 ((a.withEnhancer none).audit 0 r) R₁ ∧
      (a.withEnhancer (some e)).Traced t 0 3 ((a.withEnhancer (some e)).audit 0 r) R₂ ∧
      R₁.Agrees R₂ := by
  intro a r e
  have hr : r.accept = .ok ⟨"require(tx.origin == owner);", .str "contract.sol", .solidity,
      [.static, .ai, .standards], none⟩ := rfl
  obtain ⟨R₁, R₂, h₁, h₂, hagrees, -⟩ :=
    audit_noninterference a 3 (.whole 80) rfl r _ hr none (some e) 0 0
  exact ⟨_, R₁, R₂, hr, h₁, h₂, hagrees⟩

end Auditor

end ContractAudit
