import ContractAudit.Language
import ContractAudit.Proofs.PatternShift

/-!
# More lines are no less evidence

A pattern of the evidence asks at most for the edge of a word or the start of a line where its text
begins or ends, and at the border of a text it sees what it would see if a newline stood there. So a
match in some lines of a text is a match in the text, with whatever lines above and below. The score
of a dialect can then only rise when lines are added, and so can the confidence of the guess, which
is the highest of the scores.
-/
namespace ContractAudit

namespace Pattern

/-! ## Matches in some lines of a text -/

def lineBound : Pattern → Bool
  | nothing | exactly _ | one _ | many _ | lineStart | wordEdge => true
  | seq first second => first.lineBound && second.lineBound
  | alt first second => first.lineBound && second.lineBound
  | capture _ body => body.lineBound
  | _ => false

/-- The place `u` is the place `s` with lines added: `below` follows, and a newline may stand where
nothing stood before. -/
structure Place.Widened (below : Text) (s u : Place) : Prop where
  before : u.before.getD '\n' = s.before.getD '\n'
  rest : u.rest = s.rest ++ below

section Widened

variable {below : Text} {s s' u : Place}

theorem isWordAt_getD (c : Option Char) : isWordAt (some (c.getD '\n')) = isWordAt c := by
  cases c with
  | none => decide
  | some c => rfl

theorem Place.Widened.after (h : Place.Widened below s u) (taken rest : Text) :
    Place.Widened below (s.after taken rest) (u.after taken (rest ++ below)) := by
  refine ⟨?_, rfl⟩
  cases hlast : taken.getLast? with
  | none => simpa [Place.after, hlast] using h.before
  | some c => simp [Place.after, hlast]

theorem Place.Widened.isLineStart_eq (h : Place.Widened below s u) :
    u.isLineStart = s.isLineStart := by
  rw [← u.isLineStart_normal, ← s.isLineStart_normal]
  simp only [Place.normal, Place.isLineStart, h.before]

theorem Place.Widened.isWordEdge_eq (hbelow : below.head?.getD '\n' = '\n')
    (h : Place.Widened below s u) : u.isWordEdge = s.isWordEdge := by
  have hbefore : isWordAt u.before = isWordAt s.before := by
    rw [← isWordAt_getD u.before, h.before, isWordAt_getD]
  have hhead : u.rest.head?.getD '\n' = s.rest.head?.getD '\n' := by
    rw [h.rest]
    cases s.rest with
    | nil => exact hbelow
    | cons c rest => rfl
  have hafter : isWordAt u.rest.head? = isWordAt s.rest.head? := by
    rw [← isWordAt_getD u.rest.head?, hhead, isWordAt_getD]
  rw [Place.isWordEdge, hbefore, hafter, Place.isWordEdge]

theorem reaches_of_widened {p : Pattern} (hp : p.lineBound = true)
    (hbelow : below.head?.getD '\n' = '\n') (h : p.Reaches s s') (hu : Place.Widened below s u) :
    ∃ u', p.Reaches u u' ∧ Place.Widened below s' u' := by
  induction p generalizing s s' u with
  | nothing =>
    obtain rfl : s' = s := h
    exact ⟨u, rfl, hu⟩
  | exactly text =>
    obtain ⟨rest, hrest, rfl⟩ := h
    refine ⟨_, ⟨rest ++ below, ?_, rfl⟩, hu.after text rest⟩
    rw [hu.rest, hrest, List.append_assoc]
  | one accepts =>
    obtain ⟨c, rest, hrest, hc, rfl⟩ := h
    refine ⟨_, ⟨c, rest ++ below, ?_, hc, rfl⟩, hu.after [c] rest⟩
    rw [hu.rest, hrest, List.cons_append]
  | many accepts =>
    obtain ⟨taken, rest, hrest, htaken, rfl⟩ := h
    refine ⟨_, ⟨taken, rest ++ below, ?_, htaken, rfl⟩, hu.after taken rest⟩
    rw [hu.rest, hrest, List.append_assoc]
  | seq first second ihf ihs =>
    obtain ⟨hf, hs⟩ := Bool.and_eq_true_iff.mp hp
    obtain ⟨m, hm, hs'⟩ := h
    obtain ⟨m', hm', hwide⟩ := ihf hf hm hu
    obtain ⟨u', hu', hwide'⟩ := ihs hs hs' hwide
    exact ⟨u', ⟨m', hm', hu'⟩, hwide'⟩
  | alt first second ihf ihs =>
    obtain ⟨hf, hs⟩ := Bool.and_eq_true_iff.mp hp
    rcases h with h | h
    · obtain ⟨u', hu', hwide⟩ := ihf hf h hu
      exact ⟨u', .inl hu', hwide⟩
    · obtain ⟨u', hu', hwide⟩ := ihs hs h hu
      exact ⟨u', .inr hu', hwide⟩
  | capture group body ih =>
    obtain ⟨m, hm, rfl⟩ := h
    obtain ⟨m', hm', hwide⟩ := ih hp hm hu
    exact ⟨_, ⟨m', hm', rfl⟩, hwide.before, hwide.rest⟩
  | lineStart =>
    obtain ⟨hstart, rfl⟩ := h
    exact ⟨u, ⟨hu.isLineStart_eq.trans hstart, rfl⟩, hu⟩
  | wordEdge =>
    obtain ⟨hedge, rfl⟩ := h
    exact ⟨u, ⟨(hu.isWordEdge_eq hbelow).trans hedge, rfl⟩, hu⟩
  | _ => simp [lineBound] at hp

end Widened

theorem occursIn_of_lines {p : Pattern} (hp : p.lineBound = true) {above t below : Text}
    (habove : above.getLast?.getD '\n' = '\n') (hbelow : below.head?.getD '\n' = '\n')
    (h : p.occursIn t = true) : p.occursIn (above ++ t ++ below) = true := by
  obtain ⟨left, right, s, rfl, hs⟩ := occursIn_iff.mp h
  have hwide : Place.Widened below ⟨left.getLast?, right, []⟩
      ⟨(above ++ left).getLast?, right ++ below, []⟩ := by
    refine ⟨?_, rfl⟩
    rw [List.getLast?_append]
    cases left.getLast? with
    | none => exact habove
    | some c => rfl
  obtain ⟨u, hu, -⟩ := reaches_of_widened hp hbelow hs hwide
  exact occursIn_iff.mpr ⟨above ++ left, right ++ below, u, by simp, hu⟩

end Pattern

namespace Language

/-! ## Scores -/

theorem lineBound_of_mem_evidence (d : Dialect) :
    ∀ e ∈ evidence d, e.shape.lineBound = true := by
  cases d <;> decide

theorem score_le_of_occursIn {d : Dialect} {a b : Text}
    (h : ∀ e ∈ evidence d, e.shape.occursIn a = true → e.shape.occursIn b = true) :
    score d a ≤ score d b := by
  unfold score
  generalize evidence d = es at h
  induction es with
  | nil => exact Nat.le_refl 0
  | cons e rest ih =>
    obtain ⟨he, hrest⟩ := List.forall_mem_cons.mp h
    simp only [List.map_cons, List.foldr_cons]
    refine Nat.add_le_add ?_ (ih hrest)
    by_cases ha : e.shape.occursIn a = true
    · simp [ha, he ha]
    · simp [ha]

theorem score_le_of_lines (d : Dialect) {above : Text} (habove : above.getLast?.getD '\n' = '\n')
    (t : Text) {below : Text} (hbelow : below.head?.getD '\n' = '\n') :
    score d t ≤ score d (above ++ t ++ below) := by
  apply score_le_of_occursIn
  intro e he hfound
  exact Pattern.occursIn_of_lines (lineBound_of_mem_evidence d e he) habove hbelow hfound

theorem score_le_append_left (d : Dialect) (a b : Text) :
    score d a ≤ score d (a ++ '\n' :: b) := by
  have habove : ([] : Text).getLast?.getD '\n' = '\n' := rfl
  have hbelow : ('\n' :: b).head?.getD '\n' = '\n' := rfl
  exact score_le_of_lines d habove a hbelow

theorem score_le_append_right (d : Dialect) (a b : Text) :
    score d b ≤ score d (a ++ '\n' :: b) := by
  have habove : (a ++ ['\n']).getLast?.getD '\n' = '\n' := by simp
  have hbelow : ([] : Text).head?.getD '\n' = '\n' := rfl
  simpa using score_le_of_lines d habove b hbelow

/-! ## Guesses -/

theorem confidence_best (first : LanguageGuess) (rest : List LanguageGuess) :
    (best first rest).confidence = (rest.map (·.confidence)).foldl max first.confidence := by
  unfold best
  induction rest generalizing first with
  | nil => rfl
  | cons guess rest ih =>
    rw [List.foldl_cons, ih, List.map_cons, List.foldl_cons]
    congr 1
    split <;> omega

theorem best_mem (first : LanguageGuess) (rest : List LanguageGuess) :
    best first rest ∈ first :: rest := by
  unfold best
  induction rest generalizing first with
  | nil => exact List.mem_singleton_self first
  | cons guess rest ih =>
    rw [List.foldl_cons]
    split
    · exact List.mem_cons_of_mem first (ih guess)
    · rcases List.mem_cons.mp (ih first) with heq | hmem
      · rw [heq]
        exact List.mem_cons_self
      · exact List.mem_cons_of_mem first (List.mem_cons_of_mem guess hmem)

theorem confidence_guessFromText (code : Text) :
    (guessFromText code).confidence =
      max (max (score .solidity code) (score .vyper code)) (score .cairo code) :=
  confidence_best _ _

theorem dialect_guessFromText_eq_none_iff (code : Text) :
    (guessFromText code).dialect = none ↔ (guessFromText code).confidence ≤ threshold := by
  have hguess (d : Dialect) :
      (guessAs d code).dialect = none ↔ (guessAs d code).confidence ≤ threshold := by
    simp [guessAs]
  have hmem : guessFromText code ∈
      [guessAs .solidity code, guessAs .vyper code, guessAs .cairo code] := best_mem _ _
  simp only [List.mem_cons, List.not_mem_nil, or_false] at hmem
  rcases hmem with heq | heq | heq
  · rw [heq, hguess]
  · rw [heq, hguess]
  · rw [heq, hguess]

theorem confidence_guessFromText_le {a b : Text} (h : ∀ d, score d a ≤ score d b) :
    (guessFromText a).confidence ≤ (guessFromText b).confidence := by
  rw [confidence_guessFromText, confidence_guessFromText]
  have hsolidity := h .solidity
  have hvyper := h .vyper
  have hcairo := h .cairo
  omega

theorem guess_empty_name (code : Text) : guess code "" = guessFromText code := by
  have hname : ofFileName? "" = none := by decide
  rw [guess, hname]

/-- Two texts one below the other score at least what each of them scores, for every dialect. So the
guess without a file name is at least as sure as for each of them, and where it is that nothing is
known, nothing is known of either. -/
theorem evidence_monotone (a b : Text) :
    (∀ d, score d a ≤ score d (a ++ '\n' :: b) ∧ score d b ≤ score d (a ++ '\n' :: b)) ∧
    (guess a "").confidence ≤ (guess (a ++ '\n' :: b) "").confidence ∧
    (guess b "").confidence ≤ (guess (a ++ '\n' :: b) "").confidence ∧
    ((guess (a ++ '\n' :: b) "").dialect = none →
      (guess a "").dialect = none ∧ (guess b "").dialect = none) := by
  have ha := confidence_guessFromText_le fun d => score_le_append_left d a b
  have hb := confidence_guessFromText_le fun d => score_le_append_right d a b
  simp only [guess_empty_name, dialect_guessFromText_eq_none_iff]
  refine ⟨fun d => ⟨score_le_append_left d a b, score_le_append_right d a b⟩, ha, hb, ?_⟩
  intro hunknown
  exact ⟨Nat.le_trans ha hunknown, Nat.le_trans hb hunknown⟩

/-- Evidence up to the threshold, put together from both texts. -/
theorem evidence_monotone_threshold :
    let a := "contract C".toList
    let b := "mapping (".toList
    (guess (a ++ '\n' :: b) "").dialect = none ∧
      (guess (a ++ '\n' :: b) "").confidence = threshold ∧
      (guess a "").dialect = none ∧ (guess b "").dialect = none := by
  intro a b
  have hunknown : (guess (a ++ '\n' :: b) "").dialect = none := by decide +kernel
  refine ⟨hunknown, by decide +kernel, ?_⟩
  exact (evidence_monotone a b).2.2.2 hunknown

end Language

end ContractAudit
