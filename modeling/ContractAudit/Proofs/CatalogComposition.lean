import ContractAudit.Proofs.LocatedLines
import ContractAudit.Proofs.Masking

/-!
# Catalogs compose

The findings of two catalogs one after the other are those of the first and, of those of the second,
the ones with a weakness and a line that are new. Nothing else passes from one detector to the next:
a detector that raises or does not fire leaves no trace, wherever it stands.
-/
namespace ContractAudit.Analysis

variable {dialect : Dialect} {code : Text} {d : Detector}

inductive Silent (dialect : Dialect) (code : Text) (d : Detector) : Prop where
  | triggerRaises {fault : Fault} (h : d.trigger code = .error fault)
  | unfired (h : d.trigger code = .ok false)
  | locatorRaises {locator : Locator} {fault : Fault} (hlocate : d.locate = some locator)
      (h : locator code = .error fault)
  | matcherRaises {line : Text} {fault : Fault} (hlocate : d.locate = none)
      (hline : line ∈ code.lines)
      (hcode : Source.isCommentLine (hashComments dialect) line = false)
      (h : d.matcher.fault? line = some fault)

theorem exists_matcherFault?_iff {hashes : Bool} {matcher : LineMatcher} {lines : List Text} :
    (∃ fault, matcherFault? hashes matcher lines = some fault) ↔
      ∃ line ∈ lines, Source.isCommentLine hashes line = false ∧
        ∃ fault, matcher.fault? line = some fault := by
  simp only [← Option.isSome_iff_exists, matcherFault?, List.findSome?_isSome_iff,
    List.mem_filter, Bool.not_eq_true', and_assoc]

theorem fires_iff : fires dialect code d = true ↔
    d.trigger code = .ok true ∧ ∃ located, locate dialect d code = .ok located := by
  have hsome : fires dialect code d = true ↔
      ∃ located, evaluate dialect d code = .ok (some located) := by
    unfold fires
    rcases evaluate dialect d code with fault | none | located <;> simp
  rw [hsome]
  simp only [evaluate_eq_some_iff]
  constructor
  · rintro ⟨located, htrigger, hlocate⟩
    exact ⟨htrigger, located, hlocate⟩
  · rintro ⟨htrigger, located, hlocate⟩
    exact ⟨located, htrigger, hlocate⟩

/-- No matcher and no locator of the catalogs fails, so only the trigger decides. -/
theorem fires_iff_trigger (hd : d ∈ Catalog.of dialect) :
    fires dialect code d = true ↔ d.trigger code = .ok true := by
  have hlocated : ∃ located, locate dialect d code = .ok located := by
    unfold locate
    rcases Catalog.locate_cases dialect d hd with hlocate | hlocate | hlocate
    · rw [hlocate]
      simp only [matcherFault?_eq_none (Catalog.matcher_inked dialect d hd)]
      exact ⟨_, rfl⟩
    · rw [hlocate]
      exact ⟨_, rfl⟩
    · rw [hlocate]
      exact ⟨_, rfl⟩
  rw [fires_iff, and_iff_left hlocated]

theorem trigger_of_id {id : String} {trigger : Trigger}
    (hone : ((Catalog.of dialect).filter fun d => d.id == id).map (·.trigger) = [trigger])
    (hd : d ∈ Catalog.of dialect) (hid : d.id = id) : d.trigger = trigger := by
  have hmem : d.trigger ∈ ((Catalog.of dialect).filter fun d => d.id == id).map (·.trigger) :=
    List.mem_map_of_mem (List.mem_filter.mpr ⟨hd, by simp [hid]⟩)
  rw [hone] at hmem
  exact List.mem_singleton.mp hmem

theorem not_fires_of_silent (h : Silent dialect code d) : fires dialect code d = false := by
  rw [Bool.eq_false_iff, ne_eq, fires_iff]
  rintro ⟨htrigger, located, hlocated⟩
  cases h with
  | triggerRaises h => simp [h] at htrigger
  | unfired h => simp [h] at htrigger
  | locatorRaises hlocate h => simp [locate, hlocate, h] at hlocated
  | matcherRaises hlocate hline hcode h =>
    obtain ⟨fault, hfault⟩ := exists_matcherFault?_iff.mpr ⟨_, hline, hcode, _, h⟩
    simp [locate, hlocate, hfault] at hlocated

theorem silent_of_not_fires (h : fires dialect code d = false) : Silent dialect code d := by
  rw [Bool.eq_false_iff, ne_eq, fires_iff, not_and] at h
  cases htrigger : d.trigger code with
  | error fault => exact .triggerRaises htrigger
  | ok fired =>
    cases fired with
    | false => exact .unfired htrigger
    | true =>
      have hunlocated := h htrigger
      cases hlocate : d.locate with
      | some locator =>
        cases hlocator : locator code with
        | error fault => exact .locatorRaises hlocate hlocator
        | ok located => exact absurd ⟨located, by simp [locate, hlocate, hlocator]⟩ hunlocated
      | none =>
        cases hfault : matcherFault? (hashComments dialect) d.matcher code.lines with
        | some fault =>
          obtain ⟨line, hline, hcode, fault, h⟩ := exists_matcherFault?_iff.mp ⟨fault, hfault⟩
          exact .matcherRaises hlocate hline hcode h
        | none => exact absurd ⟨_, by simp [locate, hlocate, hfault]; rfl⟩ hunlocated

/-- Silence has no other causes: a detector that is not silent has findings. -/
theorem silent_iff_findingsOf_eq_nil (extracted : Bool) :
    Silent dialect code d ↔ findingsOf dialect extracted code d = [] := by
  have hnil : findingsOf dialect extracted code d = [] ↔ fires dialect code d = false := by
    rw [← not_iff_not, ← ne_eq, findingsOf_ne_nil_iff, Bool.not_eq_false]
  rw [hnil]
  exact ⟨not_fires_of_silent, silent_of_not_fires⟩

theorem rawFindings_append (A B : List Detector) (dialect : Dialect) (extracted : Bool)
    (code : Text) :
    rawFindings (A ++ B) dialect extracted code =
      rawFindings A dialect extracted code ++ rawFindings B dialect extracted code :=
  List.flatMap_append

theorem rawFindings_remove (h : Silent dialect code d) (before after : List Detector)
    (extracted : Bool) :
    rawFindings (before ++ d :: after) dialect extracted code =
      rawFindings (before ++ after) dialect extracted code := by
  have hnil := (silent_iff_findingsOf_eq_nil extracted).mp h
  rw [rawFindings_append, rawFindings_append]
  simp only [rawFindings, List.flatMap_cons, hnil, List.nil_append]

/-- Two catalogs, whatever their detectors do, give the findings of the first and then those of the
second whose weakness and line the first did not report. A silent detector may stand anywhere. -/
theorem run_append (A B : List Detector) (shape : Structure) (dialect : Dialect) (code : Text) :
    (run (A ++ B) shape dialect code).findings =
        (run A shape dialect code).findings ++
          (run B shape dialect code).findings.filter (fun f =>
            (f.weaknessId, f.lineNumber) ∉
              (run A shape dialect code).findings.map fun g => (g.weaknessId, g.lineNumber)) ∧
      ∀ (before after : List Detector) (d : Detector), Silent dialect code d →
        run (before ++ d :: after) shape dialect code =
          run (before ++ after) shape dialect code := by
  constructor
  · simp only [run, rawFindings_append]
    exact Finding.deduplicate_append _ _
  · intro before after d hd
    simp only [run, rawFindings_remove hd]

/-- Two catalogs that report one weakness at a common line, with a detector between them whose
matcher raises on a line of code. -/
theorem run_append_shared_line :
    let first : Detector :=
      { id := "first", name := "First", severity := .high, description := ""
        trigger := .when fun _ => true, matcher := .literal []
        locate := some fun _ => .ok [2, 1], swcId := some "SWC-107" }
    let second : Detector := { first with id := "second", locate := some fun _ => .ok [3, 2] }
    let raising : Detector :=
      { first with
        id := "raising", locate := none, matcher := .custom fun _ => .error (.raised "") }
    let code := "a\nb\nc".toList
    let shape : Structure := ⟨.solidity, {}, none⟩
    Silent .solidity code raising ∧
      (run [first, raising, second] shape .solidity code).findings.map
          (fun f => (f.detectorId, f.lineNumber)) =
        [("first", 2), ("first", 1), ("second", 3)] := by
  intro first second raising code shape
  have hline : "a".toList ∈ Text.lines code := by decide
  have hsilent : Silent .solidity code raising := .matcherRaises rfl hline (by decide) rfl
  have hcompose := run_append [first] [second] shape .solidity code
  refine ⟨hsilent, ?_⟩
  have hremove := hcompose.2 [first] [second] raising hsilent
  rw [List.cons_append, List.nil_append] at hremove
  rw [hremove]
  change (run ([first] ++ [second]) shape .solidity code).findings.map _ = _
  rw [hcompose.1]
  decide +kernel

end ContractAudit.Analysis
