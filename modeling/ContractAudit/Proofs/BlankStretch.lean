import ContractAudit.Proofs.GreedyRuns
import Mathlib.Data.List.Basic
import Mathlib.Data.Option.Basic

/-!
# White space that is not counted

A pattern skips white space with a class that takes all of it, and asks for something to see next.
Such a pattern cannot tell how much white space there is at a place, so a text with more of it put
in where there is some already, or at the end, has the same matches.

Places of the two texts go in pairs, `Seam.Twin`. The places amid the new white space have no
partner, and from none of them is there a way on: `haltsBefore` is a test for this, and `elastic` a
test that lets a pattern stop there only when what follows halts.
-/
namespace ContractAudit.Pattern

/-! ## Places amid white space -/

def takesBlanks (accepts : Char → Bool) : Bool :=
  blankChars.all accepts

def refusesBlanks (accepts : Char → Bool) : Bool :=
  blankChars.all fun c => !accepts c

theorem accepts_of_takesBlanks {accepts : Char → Bool} (h : takesBlanks accepts = true) {c : Char}
    (hc : Text.isBlank c = true) : accepts c = true :=
  List.all_eq_true.mp h c (mem_blankChars hc)

theorem accepts_of_refusesBlanks {accepts : Char → Bool} (h : refusesBlanks accepts = true)
    {c : Char} (hc : Text.isBlank c = true) : accepts c = false := by
  simpa using List.all_eq_true.mp h c (mem_blankChars hc)

theorem isWord_of_isBlank {c : Char} (hc : Text.isBlank c = true) : Text.isWord c = false :=
  accepts_of_refusesBlanks (by decide +kernel) hc

/-- White space stands before the place, and white space or nothing behind it. -/
def Place.AmidBlanks (s : Place) : Prop :=
  (∃ c, s.before = some c ∧ Text.isBlank c = true) ∧ ∀ c ∈ s.rest.head?, Text.isBlank c = true

def Halts (next : Place → Option Place) : Prop :=
  ∀ s : Place, s.AmidBlanks → next s = none

/-- Amid white space there is no way through the pattern, given whether this is so of what follows
it. -/
def haltsBefore : Pattern → Bool → Bool
  | nothing, halting => halting
  | exactly text, _ => text.head?.any fun c => !Text.isBlank c
  | one accepts, _ => refusesBlanks accepts
  | many accepts, halting => refusesBlanks accepts && halting
  | seq first second, halting => first.haltsBefore (second.haltsBefore halting)
  | alt first second, halting => first.haltsBefore halting && second.haltsBefore halting
  | lineStart, halting => halting
  | wordEdge, _ => true
  | _, _ => false

theorem halts_run {p : Pattern} {halting : Bool} (hp : p.haltsBefore halting = true)
    {next : Place → Option Place} (hnext : halting = true → Halts next) :
    Halts (p.run · next) := by
  induction p generalizing halting next with
  | nothing => exact hnext hp
  | exactly text =>
    rintro ⟨before, rest, captures⟩ ⟨-, hrest⟩
    cases text with
    | nil => simp [haltsBefore] at hp
    | cons a text =>
      have ha : Text.isBlank a = false := by simpa [haltsBefore] using hp
      cases rest with
      | nil => rfl
      | cons c rest =>
        have hne : a ≠ c := by
          rintro rfl
          simp [hrest a rfl] at ha
        simp [run, Text.dropOpening?, hne]
  | one accepts =>
    rintro ⟨before, rest, captures⟩ ⟨-, hrest⟩
    cases rest with
    | nil => rfl
    | cons c rest => simp [run, accepts_of_refusesBlanks hp (hrest c rfl)]
  | many accepts =>
    obtain ⟨hrefuses, hhalting⟩ := Bool.and_eq_true_iff.mp hp
    rintro ⟨before, rest, captures⟩ hs
    cases rest with
    | nil => exact (run_many_nil ..).trans (hnext hhalting _ hs)
    | cons c rest =>
      have hc : accepts c = false := accepts_of_refusesBlanks hrefuses (hs.2 c rfl)
      simp only [run_many_cons, hc, Bool.false_eq_true, if_false, hnext hhalting _ hs]
  | seq first second ihf ihs => exact ihf hp fun hsecond => ihs hsecond hnext
  | alt first second ihf ihs =>
    obtain ⟨hf, hs⟩ := Bool.and_eq_true_iff.mp hp
    intro s hamid
    simp only [run, ihf hf hnext s hamid, ihs hs hnext s hamid]
  | lineStart =>
    intro s hamid
    simp only [run, hnext hp s hamid, ite_self]
  | wordEdge =>
    rintro ⟨before, rest, captures⟩ ⟨⟨c, rfl, hc⟩, hrest⟩
    have hbefore : isWordAt (some c) = false := isWord_of_isBlank hc
    have hbehind : isWordAt rest.head? = false := by
      cases rest with
      | nil => rfl
      | cons d rest => exact isWord_of_isBlank (hrest d rfl)
    simp [run, Place.isWordEdge, hbefore, hbehind]
  | _ => simp [haltsBefore] at hp

/-! ## Pairs of places -/

/-- White space that is put into a text, and the text behind it, which is nothing or begins with
white space of its own. -/
structure Seam where
  gap : Text
  tail : Text
  gap_blank : ∀ c ∈ gap, Text.isBlank c = true
  tail_blank : ∀ c ∈ tail.head?, Text.isBlank c = true

namespace Seam

variable (seam : Seam)

def lower : Text :=
  seam.gap ++ seam.tail

inductive Twin : Place → Place → Prop
  | above (before : Option Char) (left : Text) (captures : List Capture) :
    Twin ⟨before, left ++ seam.tail, captures⟩ ⟨before, left ++ seam.lower, captures⟩
  | below (s : Place) (h : s.rest.length < seam.tail.length) : Twin s s

/-- Two continuations that lead from a pair of places to a pair of places, or both to none. -/
def Corresponds (next next' : Place → Option Place) : Prop :=
  ∀ s s', seam.Twin s s' → Option.Rel seam.Twin (next s) (next' s')

end Seam

/-- The pattern skips white space only with classes that take all of it, and only when what follows
cannot go on amid white space, given whether this is so of what follows the pattern. -/
def elastic : Pattern → Bool → Bool
  | nothing, _ => true
  | exactly text, _ => text.all fun c => !Text.isBlank c
  | one accepts, _ => refusesBlanks accepts
  | many accepts, halting => refusesBlanks accepts || takesBlanks accepts && halting
  | seq (one first) (many later), halting =>
    refusesBlanks first && (refusesBlanks later || takesBlanks later && halting) ||
      takesBlanks first && takesBlanks later && halting
  | seq first second, halting =>
    first.elastic (second.haltsBefore halting) && second.elastic halting
  | alt first second, halting => first.elastic halting && second.elastic halting
  | lineStart, _ => true
  | wordEdge, _ => true
  | _, _ => false

namespace Seam

variable {seam : Seam} {next next' : Place → Option Place}

theorem rel_or {o₁ o₂ o₁' o₂' : Option Place} (h₁ : Option.Rel seam.Twin o₁ o₁')
    (h₂ : Option.Rel seam.Twin o₂ o₂') : Option.Rel seam.Twin (o₁.or o₂) (o₁'.or o₂') := by
  cases h₁ with
  | none => exact h₂
  | some h => exact .some h

theorem rel_ite {b : Bool} {o o' : Option Place} (h : Option.Rel seam.Twin o o') :
    Option.Rel seam.Twin (if b = true then o else none) (if b = true then o' else none) := by
  split
  · exact h
  · exact .none

/-- Amid the new white space a class that takes it has but one way on: past it and past the white
space that was there before. -/
theorem run_many_gap (seam : Seam) {accepts : Char → Bool} (haccepts : takesBlanks accepts = true)
    (hnext : Halts next) {gap : Text} (hgap : ∀ c ∈ gap, Text.isBlank c = true) {b : Char}
    (hb : Text.isBlank b = true) (captures : List Capture) :
    (many accepts).run ⟨some b, gap ++ seam.tail, captures⟩ next =
      match seam.tail with
      | [] => none
      | c :: rest => (many accepts).run ⟨some c, rest, captures⟩ next := by
  induction gap generalizing b with
  | nil =>
    have htail := seam.tail_blank
    cases h : seam.tail with
    | nil =>
      rw [List.append_nil, run_many_nil]
      exact hnext _ ⟨⟨b, rfl, hb⟩, by simp⟩
    | cons c rest =>
      have hc : Text.isBlank c = true := htail c (by rw [h]; rfl)
      have hhere : next ⟨some b, c :: rest, captures⟩ = none :=
        hnext _ ⟨⟨b, rfl, hb⟩, by simpa using hc⟩
      rw [List.nil_append, run_many_cons, if_pos (accepts_of_takesBlanks haccepts hc), hhere,
        Option.or_none]
  | cons g gap ih =>
    obtain ⟨hg, hgap⟩ := List.forall_mem_cons.mp hgap
    have hhere : next ⟨some b, g :: (gap ++ seam.tail), captures⟩ = none :=
      hnext _ ⟨⟨b, rfl, hb⟩, by simpa using hg⟩
    rw [List.cons_append, run_many_cons, if_pos (accepts_of_takesBlanks haccepts hg), hhere,
      Option.or_none, ih hgap hg]

theorem lower_blank (seam : Seam) : ∀ c ∈ seam.lower.head?, Text.isBlank c = true := by
  unfold lower
  cases hgap : seam.gap with
  | nil => exact seam.tail_blank
  | cons g gap =>
    intro c hc
    obtain rfl : g = c := by simpa using hc
    exact seam.gap_blank g (by simp [hgap])

theorem Twin.isLineStart_eq {s s' : Place} (h : seam.Twin s s') :
    s.isLineStart = s'.isLineStart := by
  cases h <;> rfl

theorem isWordAt_head?_of_blank {t : Text} (h : ∀ c ∈ t.head?, Text.isBlank c = true) :
    isWordAt t.head? = false := by
  cases t with
  | nil => rfl
  | cons c t => exact isWord_of_isBlank (h c rfl)

theorem Twin.isWordEdge_eq {s s' : Place} (h : seam.Twin s s') : s.isWordEdge = s'.isWordEdge := by
  cases h with
  | below => rfl
  | above before left captures =>
    cases left with
    | cons c left => rfl
    | nil =>
      simp only [Place.isWordEdge, List.nil_append, isWordAt_head?_of_blank seam.tail_blank,
        isWordAt_head?_of_blank seam.lower_blank]

/-! ## Ways through a pattern -/

theorem dropOpening?_append {text more : Text} (htext : ∀ c ∈ text, Text.isBlank c = false)
    (hmore : ∀ c ∈ more.head?, Text.isBlank c = true) (left : Text) :
    Text.dropOpening? text (left ++ more) = (Text.dropOpening? text left).map (· ++ more) := by
  induction text generalizing left with
  | nil => simp [Text.dropOpening?]
  | cons a text ih =>
    obtain ⟨ha, htext⟩ := List.forall_mem_cons.mp htext
    cases left with
    | nil =>
      cases more with
      | nil => rfl
      | cons c more =>
        have hne : a ≠ c := by
          rintro rfl
          simp [hmore a rfl] at ha
        simp [Text.dropOpening?, hne]
    | cons c left =>
      rw [List.cons_append, Text.dropOpening?, Text.dropOpening?, ih htext]
      split <;> rfl

theorem corresponds_exactly {text : Text} (htext : ∀ c ∈ text, Text.isBlank c = false)
    (h : seam.Corresponds next next') :
    seam.Corresponds ((exactly text).run · next) ((exactly text).run · next') := by
  intro s s' hs
  cases hs with
  | above before left captures =>
    simp only [run, dropOpening?_append htext seam.tail_blank,
      dropOpening?_append htext seam.lower_blank]
    cases Text.dropOpening? text left with
    | none => exact .none
    | some rest => exact h _ _ (.above ..)
  | below _ hs =>
    simp only [run]
    cases hrest : Text.dropOpening? text s.rest with
    | none => exact .none
    | some rest =>
      have hlength := congrArg List.length (dropOpening?_eq_some_iff.mp hrest)
      rw [List.length_append] at hlength
      have hshorter : rest.length < seam.tail.length := by omega
      exact h _ _ (.below _ hshorter)

theorem run_one_of_blank {accepts : Char → Bool} (haccepts : refusesBlanks accepts = true)
    {before : Option Char} {more : Text} {captures : List Capture}
    (hmore : ∀ c ∈ more.head?, Text.isBlank c = true) (next : Place → Option Place) :
    (one accepts).run ⟨before, more, captures⟩ next = none := by
  cases more with
  | nil => rfl
  | cons c more => simp [run, accepts_of_refusesBlanks haccepts (hmore c rfl)]

theorem corresponds_one {accepts : Char → Bool} (haccepts : refusesBlanks accepts = true)
    (h : seam.Corresponds next next') :
    seam.Corresponds ((one accepts).run · next) ((one accepts).run · next') := by
  intro s s' hs
  cases hs with
  | above before left captures =>
    cases left with
    | nil =>
      simp only [List.nil_append, run_one_of_blank haccepts seam.tail_blank,
        run_one_of_blank haccepts seam.lower_blank]
      exact .none
    | cons c left => exact rel_ite (h _ _ (.above ..))
  | below _ hs =>
    obtain ⟨before, rest, captures⟩ := s
    cases rest with
    | nil => exact .none
    | cons c rest => exact rel_ite (h _ _ (.below _ (Nat.lt_of_succ_lt hs)))

theorem rel_run_many_below {accepts : Char → Bool} (h : seam.Corresponds next next')
    {before : Option Char} {t : Text} (ht : t.length < seam.tail.length) (captures : List Capture) :
    Option.Rel seam.Twin ((many accepts).run ⟨before, t, captures⟩ next)
      ((many accepts).run ⟨before, t, captures⟩ next') := by
  induction t generalizing before with
  | nil =>
    rw [run_many_nil, run_many_nil]
    exact h _ _ (.below _ ht)
  | cons c t ih =>
    have hhere := h _ _ (.below ⟨before, c :: t, captures⟩ ht)
    rw [run_many_cons, run_many_cons]
    split
    · exact rel_or (ih (Nat.lt_of_succ_lt ht)) hhere
    · exact hhere

theorem rel_run_many1_seam {first later : Char → Bool} {halting : Bool}
    (haccepts : (seq (one first) (many later)).elastic halting = true)
    (h : seam.Corresponds next next') (hnext : halting = true → Halts next')
    (before : Option Char) (captures : List Capture) :
    Option.Rel seam.Twin ((seq (one first) (many later)).run ⟨before, seam.tail, captures⟩ next)
      ((seq (one first) (many later)).run ⟨before, seam.lower, captures⟩ next') := by
  rcases Bool.or_eq_true_iff.mp haccepts with hrefuses | htakes
  · have hfirst := (Bool.and_eq_true_iff.mp hrefuses).1
    rw [run_seq, run_one_of_blank hfirst seam.tail_blank, run_seq,
      run_one_of_blank hfirst seam.lower_blank]
    exact .none
  · obtain ⟨htakes, hhalting⟩ := Bool.and_eq_true_iff.mp htakes
    obtain ⟨hfirst, hlater⟩ := Bool.and_eq_true_iff.mp htakes
    have htail {c : Char} {rest : Text} (heq : seam.tail = c :: rest) :
        Option.Rel seam.Twin ((many later).run ⟨some c, rest, captures⟩ next)
          ((many later).run ⟨some c, rest, captures⟩ next') :=
      rel_run_many_below h (by rw [heq, List.length_cons]; omega) captures
    unfold lower
    cases hgap : seam.gap with
    | nil =>
      cases heq : seam.tail with
      | nil => exact .none
      | cons c rest => exact rel_ite (htail heq)
    | cons g gap =>
      obtain ⟨hg, hblank⟩ := List.forall_mem_cons.mp (hgap ▸ seam.gap_blank)
      have hskip := run_many_gap seam hlater (hnext hhalting) hblank hg captures
      simp only [run, List.cons_append, accepts_of_takesBlanks hfirst hg, if_true] at hskip ⊢
      rw [hskip]
      cases heq : seam.tail with
      | nil => exact .none
      | cons c rest =>
        have hc : Text.isBlank c = true := seam.tail_blank c (by simp [heq])
        simp only [accepts_of_takesBlanks hfirst hc, if_true]
        exact htail heq

theorem corresponds_many {accepts : Char → Bool} {halting : Bool}
    (haccepts : (many accepts).elastic halting = true)
    (h : seam.Corresponds next next') (hnext : halting = true → Halts next') :
    seam.Corresponds ((many accepts).run · next) ((many accepts).run · next') := by
  intro s s' hs
  cases hs with
  | below _ hs => exact rel_run_many_below h hs s.captures
  | above before left captures =>
    induction left generalizing before with
    | cons c left ih =>
      have hhere := h _ _ (.above before (c :: left) captures)
      simp only [List.cons_append, run_many_cons] at hhere ih ⊢
      split
      · exact rel_or (ih (some c)) hhere
      · exact hhere
    | nil =>
      have hone : (many1 accepts).elastic halting = true := by
        simp only [many1, elastic, Bool.or_eq_true, Bool.and_eq_true] at haccepts ⊢
        rcases haccepts with hrefuses | ⟨htakes, hhalting⟩
        · exact .inl ⟨hrefuses, .inl hrefuses⟩
        · exact .inr ⟨⟨htakes, htakes⟩, hhalting⟩
      simp only [run_many_eq_or accepts]
      exact rel_or (rel_run_many1_seam hone h hnext before captures)
        (h _ _ (.above before [] captures))

theorem corresponds_many1 {first later : Char → Bool} {halting : Bool}
    (haccepts : (seq (one first) (many later)).elastic halting = true)
    (h : seam.Corresponds next next') (hnext : halting = true → Halts next') :
    seam.Corresponds ((seq (one first) (many later)).run · next)
      ((seq (one first) (many later)).run · next') := by
  have hlater : (many later).elastic halting = true := by
    simp only [elastic, Bool.or_eq_true, Bool.and_eq_true] at haccepts ⊢
    rcases haccepts with ⟨-, hlater⟩ | ⟨⟨-, htakes⟩, hhalting⟩
    · exact hlater
    · exact .inr ⟨htakes, hhalting⟩
  have hmany := corresponds_many hlater h hnext
  intro s s' hs
  cases hs with
  | below _ hs =>
    obtain ⟨before, rest, captures⟩ := s
    cases rest with
    | nil => exact .none
    | cons c rest => exact rel_ite (hmany _ _ (.below _ (Nat.lt_of_succ_lt hs)))
  | above before left captures =>
    cases left with
    | nil => exact rel_run_many1_seam haccepts h hnext before captures
    | cons c left => exact rel_ite (hmany _ _ (.above ..))

/-- A run in the text with more white space does what the run in the text does. -/
theorem corresponds_run {p : Pattern} {halting : Bool} (hp : p.elastic halting = true)
    (h : seam.Corresponds next next') (hnext : halting = true → Halts next') :
    seam.Corresponds (p.run · next) (p.run · next') := by
  fun_induction elastic p halting generalizing next next' with
  | case1 => exact h
  | case2 text => exact corresponds_exactly (by simpa using hp) h
  | case3 accepts => exact corresponds_one hp h
  | case4 accepts halting => exact corresponds_many hp h hnext
  | case5 halting first later => exact corresponds_many1 hp h hnext
  | case6 halting first second _ ihf ihs =>
    obtain ⟨hf, hs⟩ := Bool.and_eq_true_iff.mp hp
    exact ihf hf (ihs hs h hnext) fun hsecond => halts_run hsecond hnext
  | case7 halting first second ihf ihs =>
    obtain ⟨hf, hs⟩ := Bool.and_eq_true_iff.mp hp
    intro s s' hss
    simp only [run_alt_eq_or]
    exact rel_or (ihf hf h hnext s s' hss) (ihs hs h hnext s s' hss)
  | case8 =>
    intro s s' hss
    simp only [run, hss.isLineStart_eq]
    exact rel_ite (h s s' hss)
  | case9 =>
    intro s s' hss
    simp only [run, hss.isWordEdge_eq]
    exact rel_ite (h s s' hss)
  | case10 => exact absurd hp Bool.false_ne_true

/-! ## Searches -/

theorem corresponds_some : seam.Corresponds some some :=
  fun _ _ h => .some h

end Seam

theorem occursIn_iff_run {p : Pattern} {t : Text} :
    p.occursIn t ↔
      ∃ left right, t = left ++ right ∧ (p.run ⟨left.getLast?, right, []⟩ some).isSome := by
  simp only [occursIn_iff, (finds_run p _ some).isSome_iff, Option.isSome_some, and_true]
  constructor
  · rintro ⟨left, right, s, ht, hs⟩
    exact ⟨left, right, ht, s, hs⟩
  · rintro ⟨left, right, ht, s, hs⟩
    exact ⟨left, right, s, ht, hs⟩

namespace Seam

variable {seam : Seam}

theorem twin_below {left left' more right : Text} (hmore : more ≠ [])
    (htail : seam.tail = more ++ right) :
    seam.Twin ⟨(left ++ more).getLast?, right, []⟩ ⟨(left' ++ more).getLast?, right, []⟩ := by
  have hlast : (left ++ more).getLast? = (left' ++ more).getLast? := by
    rw [List.getLast?_append_of_ne_nil _ hmore, List.getLast?_append_of_ne_nil _ hmore]
  have hshorter : right.length < seam.tail.length := by
    have hpos := List.length_pos_of_ne_nil hmore
    rw [htail, List.length_append]
    omega
  rw [hlast]
  exact .below _ hshorter

theorem exists_twin {above left right : Text} (h : above ++ seam.tail = left ++ right) :
    ∃ left' right', above ++ seam.lower = left' ++ right' ∧
      seam.Twin ⟨left.getLast?, right, []⟩ ⟨left'.getLast?, right', []⟩ := by
  rcases List.append_eq_append_iff.mp h with ⟨more, rfl, htail⟩ | ⟨more, rfl, rfl⟩
  · by_cases hmore : more = []
    · subst hmore
      obtain rfl : seam.tail = right := htail
      rw [List.append_nil]
      exact ⟨above, seam.lower, rfl, .above above.getLast? [] []⟩
    · refine ⟨above ++ seam.gap ++ more, right, ?_, twin_below hmore htail⟩
      rw [lower, htail]
      simp
  · exact ⟨left, more ++ seam.lower, by simp, .above ..⟩

/-- A place in the text with more white space is one of the text, or stands amid white space with
some of the new behind it. -/
theorem exists_twin_or_amid {above left' right' : Text}
    (h : above ++ seam.lower = left' ++ right') :
    (∃ left right, above ++ seam.tail = left ++ right ∧
        seam.Twin ⟨left.getLast?, right, []⟩ ⟨left'.getLast?, right', []⟩) ∨
      ∃ gap b, right' = gap ++ seam.tail ∧ (∀ c ∈ gap, Text.isBlank c = true) ∧
        left'.getLast? = some b ∧ Text.isBlank b = true := by
  have hblank {more : Text} (hmore : more ≠ []) (hsub : ∀ c ∈ more, c ∈ seam.gap) :
      ∃ b, (above ++ more).getLast? = some b ∧ Text.isBlank b = true := by
    refine ⟨more.getLast hmore, ?_, seam.gap_blank _ (hsub _ (List.getLast_mem hmore))⟩
    rw [List.getLast?_append_of_ne_nil _ hmore, List.getLast?_eq_some_getLast hmore]
  rcases List.append_eq_append_iff.mp h with ⟨more, rfl, hlower⟩ | ⟨more, rfl, rfl⟩
  · by_cases hmore : more = []
    · subst hmore
      obtain rfl : seam.lower = right' := hlower
      rw [List.append_nil]
      exact .inl ⟨above, seam.tail, rfl, .above above.getLast? [] []⟩
    · rcases List.append_eq_append_iff.mp hlower with ⟨rest, rfl, htail⟩ | ⟨rest, hgap, rfl⟩
      · by_cases hrest : rest = []
        · subst hrest
          obtain ⟨b, hb, hbblank⟩ := hblank hmore (by simp)
          exact .inr ⟨[], b, htail.symm, by simp, hb, hbblank⟩
        · refine .inl ⟨above ++ rest, right', by rw [htail, List.append_assoc], ?_⟩
          rw [← List.append_assoc]
          exact twin_below hrest htail
      · obtain ⟨b, hb, hbblank⟩ := hblank hmore fun c hc => hgap ▸ List.mem_append_left rest hc
        refine .inr ⟨rest, b, rfl, fun c hc => ?_, hb, hbblank⟩
        exact seam.gap_blank c (hgap ▸ List.mem_append_right more hc)
  · exact .inl ⟨left', more ++ seam.tail, by simp, .above ..⟩

theorem amidBlanks_of_gap {gap : Text} (hgap : ∀ c ∈ gap, Text.isBlank c = true) {b : Char}
    (hb : Text.isBlank b = true) (captures : List Capture) :
    Place.AmidBlanks ⟨some b, gap ++ seam.tail, captures⟩ := by
  refine ⟨⟨b, rfl, hb⟩, ?_⟩
  cases gap with
  | nil => exact seam.tail_blank
  | cons g gap => simpa using hgap g List.mem_cons_self

theorem isSome_eq_of_rel {o o' : Option Place} (h : Option.Rel seam.Twin o o') :
    o.isSome = o'.isSome := by
  cases h <;> rfl

theorem occursIn_eq_of_elastic {p : Pattern} (hp : p.elastic false = true) {above : Text}
    (hamid : ∀ (gap : Text) (b : Char), (∀ c ∈ gap, Text.isBlank c = true) →
      Text.isBlank b = true → (p.run ⟨some b, gap ++ seam.tail, []⟩ some).isSome = true →
        p.occursIn (above ++ seam.tail) = true) :
    p.occursIn (above ++ seam.lower) = p.occursIn (above ++ seam.tail) := by
  have hrun {s s' : Place} (h : seam.Twin s s') : (p.run s some).isSome = (p.run s' some).isSome :=
    isSome_eq_of_rel (corresponds_run hp corresponds_some (by simp) s s' h)
  rw [Bool.eq_iff_iff]
  constructor
  · intro h
    obtain ⟨left', right', ht, hsome⟩ := occursIn_iff_run.mp h
    rcases exists_twin_or_amid ht with ⟨left, right, ht, htwin⟩ | ⟨gap, b, rfl, hgap, hb, hblank⟩
    · exact occursIn_iff_run.mpr ⟨left, right, ht, by rwa [hrun htwin]⟩
    · rw [hb] at hsome
      exact hamid gap b hgap hblank hsome
  · intro h
    obtain ⟨left, right, ht, hsome⟩ := occursIn_iff_run.mp h
    obtain ⟨left', right', ht', htwin⟩ := exists_twin ht
    exact occursIn_iff_run.mpr ⟨left', right', ht', by rwa [← hrun htwin]⟩

theorem occursIn_eq {p : Pattern} (hp : p.elastic false = true)
    (hhalts : p.haltsBefore false = true) (above : Text) :
    p.occursIn (above ++ seam.lower) = p.occursIn (above ++ seam.tail) := by
  refine occursIn_eq_of_elastic hp fun gap b hgap hb hsome => ?_
  have hnone : p.run ⟨some b, gap ++ seam.tail, []⟩ some = none :=
    halts_run hhalts (by simp) _ (amidBlanks_of_gap hgap hb [])
  rw [hnone] at hsome
  exact absurd hsome (by simp)

/-- A pattern that skips white space from the start of a line may have a match that begins with the
new white space, but then it has one on the line that the text goes on with. -/
theorem occursIn_lineStart_eq {accepts : Char → Bool} (haccepts : takesBlanks accepts = true)
    {body : Pattern} (hbody : body.elastic false = true) (hhalts : body.haltsBefore false = true)
    {rest : Text} (htail : seam.tail = '\n' :: rest) (above : Text) :
    (seq lineStart (seq (many accepts) body)).occursIn (above ++ seam.lower) =
      (seq lineStart (seq (many accepts) body)).occursIn (above ++ seam.tail) := by
  have hp : (seq lineStart (seq (many accepts) body)).elastic false = true := by
    simp [elastic, haccepts, hbody, hhalts]
  refine occursIn_eq_of_elastic hp fun gap b hgap hb hsome => ?_
  have hhalting : Halts fun s => body.run s some := halts_run hhalts (by simp)
  have hskip : (many accepts).run ⟨some b, gap ++ seam.tail, []⟩ (fun s => body.run s some) =
      (many accepts).run ⟨some '\n', rest, []⟩ fun s => body.run s some := by
    rw [run_many_gap seam haccepts hhalting hgap hb, htail]
  have hsome :
      ((many accepts).run ⟨some '\n', rest, []⟩ fun s => body.run s some).isSome = true := by
    rw [run_seq, run] at hsome
    split at hsome
    · rwa [run_seq, hskip] at hsome
    · exact absurd hsome (by simp)
  refine occursIn_iff_run.mpr ⟨above ++ ['\n'], rest, by simp [htail], ?_⟩
  rw [List.getLast?_concat]
  exact hsome

end Seam

end ContractAudit.Pattern
