import ContractAudit.Enhancement.Basic

/-!
# What a collaborator can change

`Finding.fixedPart` forgets the three texts and the method of a finding, which is all that an answer
can replace. `Enhancement.run` keeps the fixed part of every finding, and at each place it does
nothing but apply the answer to the finding's own call: `rank` counts the serious findings before a
place, so it is also the number of the call, and `Chosen` says that this number is below the limit.
-/
namespace ContractAudit

namespace Finding

/-- The finding without what an answer may replace. -/
def fixedPart (f : Finding) : Finding :=
  { f with description := "", exploitation := "", recommendation := "", method := .static }

@[simp] theorem fixedPart_severity (f : Finding) : f.fixedPart.severity = f.severity := rfl

@[simp] theorem fixedPart_controls (f : Finding) : f.fixedPart.controls = f.controls := rfl

@[simp] theorem fixedPart_name (f : Finding) : f.fixedPart.name = f.name := rfl

@[simp] theorem fixedPart_enhance (f : Finding) (d e r : Option String) :
    (f.enhance d e r).fixedPart = f.fixedPart := rfl

@[simp] theorem enhance_method (f : Finding) (d e r : Option String) :
    (f.enhance d e r).method = .ai := rfl

end Finding

namespace Enhancement

@[simp] theorem improve_none (f : Finding) : improve f none = f := rfl

@[simp] theorem fixedPart_improve (f : Finding) (answer : Option EnhancementResponse) :
    (improve f answer).fixedPart = f.fixedPart := by
  cases answer with
  | none => rfl
  | some response => exact f.fixedPart_enhance _ _ _

theorem improve_method_eq_ai_iff (f : Finding) (answer : Option EnhancementResponse)
    (hf : f.method = .static) : (improve f answer).method = .ai ↔ answer.isSome := by
  cases answer with
  | none => simp [hf]
  | some response => simp [improve, EnhancementResponse.applyTo]

def rank (findings : List Finding) (place : Nat) : Nat :=
  (findings.take place).countP isSerious

@[simp] theorem rank_zero (findings : List Finding) : rank findings 0 = 0 := by simp [rank]

theorem rank_cons_succ (f : Finding) (rest : List Finding) (place : Nat) :
    rank (f :: rest) (place + 1) = rank rest place + if isSerious f then 1 else 0 := by
  simp [rank, List.countP_cons]

/-- The finding at a place is one of the first `limit` serious ones. -/
def Chosen (limit : Nat) (findings : List Finding) (place : Nat) : Prop :=
  ∃ f, findings[place]? = some f ∧ isSerious f ∧ rank findings place < limit

def answerAt (enhancer : Enhancer) (call limit : Nat) (findings : List Finding) (place : Nat)
    (f : Finding) : Option EnhancementResponse :=
  if isSerious f && decide (rank findings place < limit) then
    enhancer (call + rank findings place) (.ofFinding f)
  else none

theorem answerAt_isSome_iff (enhancer : Enhancer) (call limit : Nat) (findings : List Finding)
    (place : Nat) (f : Finding) (hf : findings[place]? = some f) :
    (answerAt enhancer call limit findings place f).isSome ↔
      Chosen limit findings place ∧
        (enhancer (call + rank findings place) (.ofFinding f)).isSome := by
  have hchosen : Chosen limit findings place ↔ isSerious f ∧ rank findings place < limit := by
    simp [Chosen, hf]
  rw [hchosen, answerAt]
  simp only [Bool.and_eq_true, decide_eq_true_eq]
  by_cases h : isSerious f ∧ rank findings place < limit
  · rw [if_pos h]
    exact (and_iff_right h).symm
  · rw [if_neg h]
    simp [h]

theorem answerAt_cons_succ_of_serious (enhancer : Enhancer) (call limit : Nat) (f : Finding)
    (rest : List Finding) (hf : isSerious f) (place : Nat) :
    answerAt enhancer call (limit + 1) (f :: rest) (place + 1) =
      answerAt enhancer (call + 1) limit rest place := by
  funext g
  have hcall : call + (rank rest place + 1) = call + 1 + rank rest place := by omega
  simp [answerAt, rank_cons_succ, hf, hcall]

theorem answerAt_cons_succ_of_not_serious (enhancer : Enhancer) (call limit : Nat) (f : Finding)
    (rest : List Finding) (hf : isSerious f = false) (place : Nat) :
    answerAt enhancer call limit (f :: rest) (place + 1) =
      answerAt enhancer call limit rest place := by
  funext g
  simp [answerAt, rank_cons_succ, hf]

/-- One pass over the findings is the same as asking about each place on its own. -/
theorem run_eq_mapIdx (enhancer : Enhancer) (call limit : Nat) (findings : List Finding) :
    run enhancer call limit findings =
      findings.mapIdx fun place f => improve f (answerAt enhancer call limit findings place f) := by
  induction findings generalizing call limit with
  | nil => simp [run]
  | cons f rest ih =>
    cases limit with
    | zero =>
      have hnone : ∀ place g, answerAt enhancer call 0 (f :: rest) place g = none := by
        intro place g
        simp [answerAt]
      simp only [run, hnone, improve_none]
      apply List.ext_getElem?
      intro place
      rw [List.getElem?_mapIdx, Option.map_id']
    | succ limit =>
      rw [List.mapIdx_cons]
      by_cases hf : isSerious f
      · simp only [run, if_pos hf, answerAt_cons_succ_of_serious _ _ _ _ _ hf, ih]
        simp [answerAt, hf]
      · have hf' : isSerious f = false := by simpa using hf
        simp only [run, if_neg hf, answerAt_cons_succ_of_not_serious _ _ _ _ _ hf', ih]
        simp [answerAt, hf']

theorem rank_lt_countP {findings : List Finding} {place : Nat} {f : Finding}
    (hf : findings[place]? = some f) (hserious : isSerious f) :
    rank findings place < findings.countP isSerious := by
  induction findings generalizing place with
  | nil => simp at hf
  | cons first rest ih =>
    rw [List.countP_cons]
    cases place with
    | zero =>
      obtain rfl : first = f := by simpa using hf
      simp [hserious]
    | succ place =>
      rw [rank_cons_succ]
      exact Nat.add_lt_add_right (ih (by simpa using hf)) _

theorem run_min_countP (enhancer : Enhancer) (call limit : Nat) (findings : List Finding) :
    run enhancer call (min (findings.countP isSerious) limit) findings =
      run enhancer call limit findings := by
  simp only [run_eq_mapIdx]
  apply List.ext_getElem?
  intro place
  rw [List.getElem?_mapIdx, List.getElem?_mapIdx]
  cases hf : findings[place]? with
  | none => rfl
  | some f =>
    have hanswer : answerAt enhancer call (min (findings.countP isSerious) limit) findings place f =
        answerAt enhancer call limit findings place f := by
      by_cases hserious : isSerious f
      · have hrank := rank_lt_countP hf hserious
        have hlimit : rank findings place < min (findings.countP isSerious) limit ↔
            rank findings place < limit := by omega
        simp only [answerAt, hlimit]
      · simp [answerAt, hserious]
    simp only [Option.map_some, hanswer]

theorem calls_min_countP (limit : Nat) (findings : List Finding) :
    calls (min (findings.countP isSerious) limit) findings = calls limit findings := by
  unfold calls
  rw [List.countP_eq_length_filter, ← List.take_take, List.take_of_length_le]
  exact List.length_take_le' _ _

theorem getElem?_calls_rank (limit : Nat) (findings : List Finding) (place : Nat) (f : Finding)
    (hf : findings[place]? = some f) (hchosen : Chosen limit findings place) :
    (calls limit findings)[rank findings place]? = some (.ofFinding f) := by
  obtain ⟨g, hg, hserious, hrank⟩ := hchosen
  obtain rfl : f = g := by simpa [hf] using hg
  have hfilter : (findings.filter isSerious)[rank findings place]? = some f := by
    clear hg hrank
    induction findings generalizing place with
    | nil => simp at hf
    | cons h rest ih =>
      cases place with
      | zero =>
        obtain rfl : h = f := by simpa using hf
        simp [hserious]
      | succ place =>
        have hrest := ih place (by simpa using hf)
        by_cases hh : isSerious h <;> simp [rank_cons_succ, hh, hrest]
  simp [calls, hrank, hfilter]

end Enhancement

end ContractAudit
