import ContractAudit.Proofs.PatternMeaning
import Mathlib.Data.Option.Basic

/-!
# How far a repeated class goes

A repeated class tries to take one character more before it goes on with what follows. It takes all
the characters of the class in two cases: when what follows succeeds behind them, and when it can
succeed nowhere before. In the second case a pattern has only one way on, and what it reads is a
function of the text.
-/
namespace ContractAudit.Pattern

theorem run_seq (p q : Pattern) (s : Place) (next : Place → Option Place) :
    (seq p q).run s next = p.run s fun s' => q.run s' next := rfl

theorem run_alt_eq_or (p q : Pattern) (s : Place) (next : Place → Option Place) :
    (alt p q).run s next = (p.run s next).or (q.run s next) := by
  simp only [run]
  cases p.run s next <;> rfl

theorem run_exactly_append (opening rest : Text) (before : Option Char) (captures : List Capture)
    (next : Place → Option Place) :
    (exactly opening).run ⟨before, opening ++ rest, captures⟩ next =
      next ⟨opening.getLast?.or before, rest, captures⟩ := by
  simp only [run, dropOpening?_eq_some_iff.mpr rfl]

theorem takeWhile_append_cons_of_neg {α : Type} {p : α → Bool} {a : α} (ha : p a = false)
    (l more : List α) : (l ++ a :: more).takeWhile p = l.takeWhile p := by
  induction l with
  | nil => simp [ha]
  | cons b l ih => simp only [List.cons_append, List.takeWhile_cons, ih]

/-! ## One character more, or none -/

theorem run_many_nil (accepts : Char → Bool) (before : Option Char) (captures : List Capture)
    (next : Place → Option Place) :
    (many accepts).run ⟨before, [], captures⟩ next = next ⟨before, [], captures⟩ := by
  simp [run, stops]

theorem findSome?_stops (accepts : Char → Bool) (captures : List Capture) (before : Option Char)
    (t : Text) (nearer : List Place) (next : Place → Option Place) :
    (stops accepts captures before t nearer).findSome? next =
      ((stops accepts captures before t []).findSome? next).or (nearer.findSome? next) := by
  induction t generalizing before nearer with
  | nil => cases h : next ⟨before, [], captures⟩ <;> simp [stops, h]
  | cons c t ih =>
    rw [stops, stops]
    split
    · rw [ih, ih (some c) [_], Option.or_assoc]
      congr 1
      cases h : next ⟨before, c :: t, captures⟩ <;> simp [h]
    · cases h : next ⟨before, c :: t, captures⟩ <;> simp [h]

theorem run_many_cons (accepts : Char → Bool) (before : Option Char) (c : Char) (t : Text)
    (captures : List Capture) (next : Place → Option Place) :
    (many accepts).run ⟨before, c :: t, captures⟩ next =
      if accepts c then
        ((many accepts).run ⟨some c, t, captures⟩ next).or (next ⟨before, c :: t, captures⟩)
      else next ⟨before, c :: t, captures⟩ := by
  simp only [run, stops]
  split
  · rw [findSome?_stops]
    cases h : next ⟨before, c :: t, captures⟩ <;> simp [h]
  · cases h : next ⟨before, c :: t, captures⟩ <;> simp [h]

theorem run_many_eq_or (accepts : Char → Bool) (s : Place) (next : Place → Option Place) :
    (many accepts).run s next = ((many1 accepts).run s next).or (next s) := by
  obtain ⟨before, _ | ⟨c, t⟩, captures⟩ := s
  · rw [run_many_nil]
    rfl
  · rw [run_many_cons]
    cases hc : accepts c <;> simp [many1, run, hc]

/-! ## All characters of the class -/

def Place.past (s : Place) (accepts : Char → Bool) : Place :=
  s.after (s.rest.takeWhile accepts) (s.rest.dropWhile accepts)

/-- Nothing succeeds where a character of the class stands next. -/
def Stuck (accepts : Char → Bool) (next : Place → Option Place) : Prop :=
  ∀ (before : Option Char) (c : Char) (rest : Text) (captures : List Capture),
    accepts c = true → next ⟨before, c :: rest, captures⟩ = none

section Class

variable {accepts : Char → Bool} {next : Place → Option Place}

theorem past_cons_of_pos {c : Char} (hc : accepts c = true) (before : Option Char) (t : Text)
    (captures : List Capture) :
    Place.past ⟨before, c :: t, captures⟩ accepts = Place.past ⟨some c, t, captures⟩ accepts := by
  simp only [Place.past, Place.after, List.takeWhile_cons_of_pos hc, List.dropWhile_cons_of_pos hc,
    getLast?_cons_or]

theorem past_cons_of_neg {c : Char} (hc : accepts c = false) (before : Option Char) (t : Text)
    (captures : List Capture) :
    Place.past ⟨before, c :: t, captures⟩ accepts = ⟨before, c :: t, captures⟩ := by
  simp [Place.past, Place.after, hc]

theorem run_many_of_stuck (h : Stuck accepts next) (s : Place) :
    (many accepts).run s next = next (s.past accepts) := by
  obtain ⟨before, t, captures⟩ := s
  induction t generalizing before with
  | nil => exact run_many_nil ..
  | cons c t ih =>
    rw [run_many_cons]
    by_cases hc : accepts c = true
    · rw [if_pos hc, h before c t captures hc, Option.or_none, ih, past_cons_of_pos hc]
    · rw [if_neg hc, past_cons_of_neg (by simpa using hc)]

theorem run_many_of_isSome (s : Place) (h : (next (s.past accepts)).isSome = true) :
    (many accepts).run s next = next (s.past accepts) := by
  obtain ⟨before, t, captures⟩ := s
  induction t generalizing before with
  | nil => exact run_many_nil ..
  | cons c t ih =>
    rw [run_many_cons]
    by_cases hc : accepts c = true
    · rw [past_cons_of_pos hc] at h ⊢
      rw [if_pos hc, ih (some c) h, Option.or_of_isSome h]
    · rw [if_neg hc, past_cons_of_neg (by simpa using hc)]

/-- One character at least: what follows goes on behind all of them, if there is one. -/
theorem run_many1_of_eq {s : Place}
    (h : ∀ c t, s.rest = c :: t → (many accepts).run ⟨some c, t, s.captures⟩ next =
      next (Place.past ⟨some c, t, s.captures⟩ accepts)) :
    (many1 accepts).run s next =
      if s.rest.head?.any accepts then next (s.past accepts) else none := by
  obtain ⟨before, _ | ⟨c, t⟩, captures⟩ := s
  · rfl
  · by_cases hc : accepts c = true
    · simp [many1, run, hc, past_cons_of_pos hc, ← h c t rfl]
    · simp [many1, run, hc]

theorem run_many1_of_stuck (h : Stuck accepts next) (s : Place) :
    (many1 accepts).run s next =
      if s.rest.head?.any accepts then next (s.past accepts) else none :=
  run_many1_of_eq fun _ _ _ => run_many_of_stuck h _

theorem run_many1_of_isSome {s : Place} (h : ∀ s', (next s').isSome = true) :
    (many1 accepts).run s next =
      if s.rest.head?.any accepts then next (s.past accepts) else none :=
  run_many1_of_eq fun _ _ _ => run_many_of_isSome _ (h _)

section Row

variable {taken rest : Text}

theorem past_append (htaken : ∀ c ∈ taken, accepts c = true)
    (hrest : ∀ c ∈ rest.head?, accepts c = false) (before : Option Char)
    (captures : List Capture) :
    Place.past ⟨before, taken ++ rest, captures⟩ accepts =
      ⟨taken.getLast?.or before, rest, captures⟩ := by
  have htake : rest.takeWhile accepts = [] ∧ rest.dropWhile accepts = rest := by
    cases rest with
    | nil => exact ⟨rfl, rfl⟩
    | cons c rest => simp [hrest c rfl]
  rw [Place.past, Place.after, List.takeWhile_append_of_pos htaken,
    List.dropWhile_append_of_pos htaken, htake.1, htake.2, List.append_nil]

theorem head?_any_of_ne_nil (hne : taken ≠ []) (htaken : ∀ c ∈ taken, accepts c = true) :
    (taken ++ rest).head?.any accepts = true := by
  obtain ⟨c, taken, rfl⟩ := List.exists_cons_of_ne_nil hne
  exact htaken c List.mem_cons_self

theorem run_many1_append (hne : taken ≠ []) (htaken : ∀ c ∈ taken, accepts c = true)
    (hrest : ∀ c ∈ rest.head?, accepts c = false) {before : Option Char} {captures : List Capture}
    (hnext : Stuck accepts next ∨ (next ⟨taken.getLast?.or before, rest, captures⟩).isSome = true) :
    (many1 accepts).run ⟨before, taken ++ rest, captures⟩ next =
      next ⟨taken.getLast?.or before, rest, captures⟩ := by
  have hhead : (taken ++ rest).head?.any accepts = true := head?_any_of_ne_nil hne htaken
  have hpast := past_append htaken hrest before captures
  rcases hnext with hstuck | hsome
  · rw [run_many1_of_stuck hstuck, if_pos hhead, hpast]
  · rw [run_many1_of_eq, if_pos hhead, hpast]
    intro c t hsplit
    have hc : accepts c = true := by simpa [show taken ++ rest = c :: t from hsplit] using hhead
    apply run_many_of_isSome
    rwa [← past_cons_of_pos hc before, ← show taken ++ rest = c :: t from hsplit, hpast]

theorem run_capture_append (group : Nat) (hne : taken ≠ [])
    (htaken : ∀ c ∈ taken, accepts c = true) (hrest : ∀ c ∈ rest.head?, accepts c = false)
    (hnext : Stuck accepts next ∨ ∀ s, (next s).isSome = true) (before : Option Char)
    (captures : List Capture) :
    (capture group (many1 accepts)).run ⟨before, taken ++ rest, captures⟩ next =
      next ⟨taken.getLast?.or before, rest, ⟨group, taken ++ rest, rest⟩ :: captures⟩ := by
  refine run_many1_append hne htaken hrest ?_
  rcases hnext with hstuck | hsome
  · exact .inl fun before c t captures hc => hstuck before c t _ hc
  · exact .inr (hsome _)

end Row

theorem stuck_exactly {a : Char} (ha : accepts a = false) (opening : Text) :
    Stuck accepts ((exactly (a :: opening)).run · next) := by
  intro before c rest captures hc
  have hne : a ≠ c := by
    rintro rfl
    simp [hc] at ha
  simp [run, Text.dropOpening?, hne]

theorem stuck_alt {first second : Pattern} (hfirst : Stuck accepts (first.run · next))
    (hsecond : Stuck accepts (second.run · next)) :
    Stuck accepts ((alt first second).run · next) := by
  intro before c rest captures hc
  simp only [run, hfirst before c rest captures hc, hsecond before c rest captures hc]

end Class

end ContractAudit.Pattern
