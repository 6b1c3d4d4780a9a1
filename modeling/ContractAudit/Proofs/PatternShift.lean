import ContractAudit.Proofs.PatternMeaning

/-!
# Searching below an empty line

A search in a text with a newline put in front of it finds what the search in the text finds, one
character further on. Two things make this so. Nothing but `textStart` tells the start of the text
from the start of a line, so a match in the text stays one. And a pattern that cannot begin with a
newline has no match that the new character starts; one that skips white space from the start of a
line may have one, but then it has a match without that character as well.
-/
namespace ContractAudit.Pattern

/-! ## The start of the text as the start of a line -/

def Place.normal (s : Place) : Place :=
  { s with before := some (s.before.getD '\n') }

theorem Place.normal_eq_iff {s s' : Place} :
    s.normal = s'.normal ↔
      s.before.getD '\n' = s'.before.getD '\n' ∧ s.rest = s'.rest ∧ s.captures = s'.captures := by
  simp [normal]

theorem Place.isWordEdge_normal (s : Place) : s.normal.isWordEdge = s.isWordEdge := by
  obtain ⟨_ | c, rest, captures⟩ := s
  · have hnewline : isWordAt (some '\n') = isWordAt none := by decide
    simp only [normal, isWordEdge, Option.getD_none, hnewline]
  · rfl

theorem Place.isLineStart_normal (s : Place) : s.normal.isLineStart = s.isLineStart := by
  obtain ⟨_ | c, rest, captures⟩ := s
  · rfl
  · simp [normal, isLineStart]

def floating : Pattern → Bool
  | textStart => false
  | seq first second => first.floating && second.floating
  | alt first second => first.floating && second.floating
  | star body => body.floating
  | ahead body => body.floating
  | notAhead body => body.floating
  | capture _ body => body.floating
  | _ => true

def Agree (next next' : Place → Option Place) : Prop :=
  ∀ s s', s.normal = s'.normal → (next s).map Place.normal = (next' s').map Place.normal

theorem agree_some : Agree some some := by
  intro s s' hs
  simp [hs]

theorem agree_none : Agree (fun _ => none) (fun _ => none) :=
  fun _ _ _ => rfl

theorem Agree.isSome_eq {next next' : Place → Option Place} (h : Agree next next') {s s' : Place}
    (hs : s.normal = s'.normal) : (next s).isSome = (next' s').isSome := by
  simpa only [Option.isSome_map] using congrArg Option.isSome (h s s' hs)

theorem Agree.ite {f f' g g' : Place → Option Place} (hf : Agree f f') {test : Place → Bool}
    (htest : ∀ s s', s.normal = s'.normal → test s = test s') (hg : Agree g g') :
    Agree (fun s => if test s = true then f s else g s)
      (fun s => if test s = true then f' s else g' s) := by
  intro s s' hs
  simp only [htest s s' hs]
  split
  · exact hf s s' hs
  · exact hg s s' hs

theorem Agree.findSome? {next next' : Place → Option Place} (h : Agree next next')
    {places places' : List Place} (hp : places.map Place.normal = places'.map Place.normal) :
    (places.findSome? next).map Place.normal = (places'.findSome? next').map Place.normal := by
  induction places generalizing places' with
  | nil =>
    obtain rfl : places' = [] := by simpa using hp.symm
    rfl
  | cons s places ih =>
    obtain ⟨s', places', rfl, hs, hp⟩ := List.map_eq_cons_iff.mp hp.symm
    have hfirst := h s s' hs.symm
    have hlater := ih hp.symm
    rw [List.findSome?_cons, List.findSome?_cons]
    cases hn : next s <;> cases hn' : next' s' <;> simp_all

theorem map_normal_stops {accepts : Char → Bool} {captures : List Capture}
    {before before' : Option Char} {t : Text} {nearer nearer' : List Place}
    (hb : before.getD '\n' = before'.getD '\n')
    (hn : nearer.map Place.normal = nearer'.map Place.normal) :
    (stops accepts captures before t nearer).map Place.normal =
      (stops accepts captures before' t nearer').map Place.normal := by
  induction t generalizing before before' nearer nearer' with
  | nil => simp [stops, Place.normal, hb, hn]
  | cons c t ih =>
    rw [stops, stops]
    split
    · exact ih rfl (by simp [Place.normal, hb, hn])
    · simp [Place.normal, hb, hn]

theorem Agree.repeatFrom {body : Place → (Place → Option Place) → Option Place}
    (hbody : ∀ next next', Agree next next' → Agree (body · next) (body · next'))
    {next next' : Place → Option Place} (h : Agree next next') (bound : Text) :
    Agree (Pattern.repeatFrom body bound · next) (Pattern.repeatFrom body bound · next') := by
  induction bound with
  | nil => exact h
  | cons c bound ih =>
    intro s s' hs
    have hfirst := hbody _ _ ih s s' hs
    have hrest := h s s' hs
    simp only [Pattern.repeatFrom]
    split <;> split <;> simp_all

/-- A run of a pattern cannot tell the start of the text from the start of a line. -/
theorem Agree.run {p : Pattern} (hp : p.floating = true) {next next' : Place → Option Place}
    (h : Agree next next') : Agree (p.run · next) (p.run · next') := by
  induction p generalizing next next' with
  | textStart => simp [floating] at hp
  | nothing => exact h
  | exactly text =>
    intro s s' hs
    obtain ⟨hbefore, hrest, hcaptures⟩ := Place.normal_eq_iff.mp hs
    simp only [Pattern.run, hrest]
    split
    · refine h _ _ (Place.normal_eq_iff.mpr ⟨?_, rfl, hcaptures⟩)
      simp [Option.getD_or, hbefore]
    · rfl
  | one accepts =>
    intro s s' hs
    obtain ⟨-, hrest, hcaptures⟩ := Place.normal_eq_iff.mp hs
    simp only [Pattern.run, hrest]
    split
    · rfl
    · split
      · exact h _ _ (by rw [hcaptures])
      · rfl
  | many accepts =>
    intro s s' hs
    obtain ⟨hbefore, hrest, hcaptures⟩ := Place.normal_eq_iff.mp hs
    simp only [Pattern.run, hrest, hcaptures]
    exact h.findSome? (map_normal_stops hbefore rfl)
  | seq first second ihf ihs =>
    obtain ⟨hf, hs⟩ := Bool.and_eq_true_iff.mp hp
    exact ihf hf (ihs hs h)
  | alt first second ihf ihs =>
    obtain ⟨hf, hs⟩ := Bool.and_eq_true_iff.mp hp
    intro s s' hss
    have hfirst := ihf hf h s s' hss
    have hsecond := ihs hs h s s' hss
    simp only [Pattern.run]
    split <;> split <;> simp_all
  | star body ih =>
    intro s s' hs
    obtain ⟨-, hrest, -⟩ := Place.normal_eq_iff.mp hs
    simp only [Pattern.run, hrest]
    exact Agree.repeatFrom (fun _ _ hn => ih hp hn) h s'.rest s s' hs
  | lineStart =>
    refine h.ite (fun s s' hs => ?_) agree_none
    rw [← s.isLineStart_normal, hs, s'.isLineStart_normal]
  | textEnd =>
    refine h.ite (fun s s' hs => ?_) agree_none
    rw [Place.isTextEnd, Place.isTextEnd, (Place.normal_eq_iff.mp hs).2.1]
  | wordEdge =>
    refine h.ite (fun s s' hs => ?_) agree_none
    rw [← s.isWordEdge_normal, hs, s'.isWordEdge_normal]
  | ahead body ih => exact h.ite (fun s s' hs => (ih hp agree_some).isSome_eq hs) agree_none
  | notAhead body ih => exact agree_none.ite (fun s s' hs => (ih hp agree_some).isSome_eq hs) h
  | capture group body ih =>
    intro s s' hs
    obtain ⟨-, hrest, -⟩ := Place.normal_eq_iff.mp hs
    refine ih hp (fun m m' hm => h _ _ ?_) s s' hs
    obtain ⟨hbefore, hmrest, hcaptures⟩ := Place.normal_eq_iff.mp hm
    exact Place.normal_eq_iff.mpr ⟨hbefore, hmrest, by rw [hrest, hmrest, hcaptures]⟩

/-! ## Patterns that a newline does not start -/

def idle : Pattern → Bool
  | ahead _ => true
  | notAhead _ => true
  | _ => false

/-- On every way through the pattern something is asked for that a newline is not: a text, a class,
or the edge of a word. -/
def refuses : Pattern → Bool
  | exactly text => text.head?.any (· != '\n')
  | one accepts => !accepts '\n'
  | wordEdge => true
  | seq first second => first.refuses || first.idle && second.refuses
  | alt first second => first.refuses && second.refuses
  | capture _ body => body.refuses
  | _ => false

theorem run_eq_none_of_idle {p : Pattern} (hp : p.idle = true) {s : Place}
    {next : Place → Option Place} (h : next s = none) : p.run s next = none := by
  cases p with
  | ahead body => simp [run, h]
  | notAhead body => simp [run, h]
  | _ => simp [idle] at hp

theorem run_eq_none_of_refuses {p : Pattern} (hp : p.refuses = true) {s : Place} {t : Text}
    (hrest : s.rest = '\n' :: t) (hbefore : isWordAt s.before = false)
    (next : Place → Option Place) : p.run s next = none := by
  induction p generalizing next with
  | exactly text =>
    cases text with
    | nil => simp [refuses] at hp
    | cons c text =>
      have hc : c ≠ '\n' := by simpa [refuses] using hp
      simp [run, hrest, Text.dropOpening?, hc]
  | one accepts =>
    have hrefused : accepts '\n' = false := by simpa [refuses] using hp
    simp [run, hrest, hrefused]
  | wordEdge =>
    have hnewline : isWordAt (some '\n') = false := by decide
    simp [run, Place.isWordEdge, hrest, hbefore, hnewline]
  | seq first second ihf ihs =>
    rcases Bool.or_eq_true_iff.mp hp with hf | hf
    · exact ihf hf _
    · obtain ⟨hidle, hs⟩ := Bool.and_eq_true_iff.mp hf
      exact run_eq_none_of_idle hidle (ihs hs next)
  | alt first second ihf ihs =>
    obtain ⟨hf, hs⟩ := Bool.and_eq_true_iff.mp hp
    simp only [run, ihf hf next, ihs hs next]
  | capture group body ih => exact ih hp _
  | _ => simp [refuses] at hp

/-! ## Matches one character further on -/

def Match.later (m : Match) : Match :=
  { m with offset := m.offset + 1 }

@[simp] theorem Match.text_later (m : Match) : m.later.text = m.text := rfl

theorem matchHere?_later (p : Pattern) (before : Option Char) (t : Text) (offset : Nat) :
    p.matchHere? before t (offset + 1) = (p.matchHere? before t offset).map Match.later := by
  simp only [matchHere?, Option.map_map]
  rfl

theorem findFrom?_later (p : Pattern) (before : Option Char) (t : Text) (offset : Nat) :
    p.findFrom? before t (offset + 1) = (p.findFrom? before t offset).map Match.later := by
  induction t generalizing before offset with
  | nil => exact matchHere?_later p before [] offset
  | cons c t ih =>
    rw [findFrom?, findFrom?, matchHere?_later]
    cases p.matchHere? before (c :: t) offset with
    | none => exact ih (some c) (offset + 1)
    | some m => rfl

theorem findAllFrom_later (p : Pattern) (before : Option Char) (t : Text) (offset skip : Nat) :
    p.findAllFrom before t (offset + 1) skip =
      (p.findAllFrom before t offset skip).map Match.later := by
  induction t generalizing before offset skip with
  | nil =>
    cases skip with
    | zero =>
      rw [findAllFrom, findAllFrom, matchHere?_later]
      cases p.matchHere? before [] offset <;> rfl
    | succ skip => rfl
  | cons c t ih =>
    cases skip with
    | succ skip => exact ih (some c) (offset + 1) skip
    | zero =>
      rw [findAllFrom, findAllFrom, matchHere?_later]
      cases p.matchHere? before (c :: t) offset with
      | none => exact ih (some c) (offset + 1) 0
      | some m => exact congrArg (m.later :: ·) (ih (some c) (offset + 1) (m.length - 1))

section Floating

variable {p : Pattern} (hp : p.floating = true)

include hp

theorem matchHere?_newline (t : Text) (offset : Nat) :
    p.matchHere? (some '\n') t offset = p.matchHere? none t offset := by
  have hrun : (p.run ⟨some '\n', t, []⟩ some).map Place.normal =
      (p.run ⟨none, t, []⟩ some).map Place.normal := agree_some.run hp _ _ rfl
  have hread := congrArg (Option.map fun s : Place => Match.mk offset t s.rest s.captures) hrun
  rwa [Option.map_map, Option.map_map] at hread

theorem findFrom?_newline (t : Text) (offset : Nat) :
    p.findFrom? (some '\n') t offset = p.findFrom? none t offset := by
  cases t with
  | nil => exact matchHere?_newline hp [] offset
  | cons c t => rw [findFrom?, findFrom?, matchHere?_newline hp]

theorem findAllFrom_newline (t : Text) (offset : Nat) :
    p.findAllFrom (some '\n') t offset 0 = p.findAllFrom none t offset 0 := by
  cases t with
  | nil => rw [findAllFrom, findAllFrom, matchHere?_newline hp]
  | cons c t => rw [findAllFrom, findAllFrom, matchHere?_newline hp]

theorem exists_reaches_congr {s s' : Place} (hs : s.normal = s'.normal) :
    (∃ e, p.Reaches s e) ↔ ∃ e, p.Reaches s' e := by
  have hrun := (agree_some.run hp).isSome_eq hs
  have hs := (finds_run p s some).isSome_iff
  have hs' := (finds_run p s' some).isSome_iff
  simp only [Option.isSome_some, and_true] at hs hs'
  rw [← hs, ← hs', hrun]

end Floating

theorem matchHere?_newline_cons {p : Pattern} (hp : p.refuses = true) (t : Text) (offset : Nat) :
    p.matchHere? none ('\n' :: t) offset = none := by
  rw [matchHere?, run_eq_none_of_refuses hp rfl rfl, Option.map_none]

theorem find?_newline_cons {p : Pattern} (hp : p.refuses = true) (hfloat : p.floating = true)
    (t : Text) : p.find? ('\n' :: t) = (p.find? t).map Match.later := by
  rw [find?, findFrom?, matchHere?_newline_cons hp]
  exact (findFrom?_newline hfloat t 1).trans (findFrom?_later p none t 0)

theorem findAll_newline_cons {p : Pattern} (hp : p.refuses = true) (hfloat : p.floating = true)
    (t : Text) : p.findAll ('\n' :: t) = (p.findAll t).map Match.later := by
  rw [findAll, findAllFrom, matchHere?_newline_cons hp]
  exact (findAllFrom_newline hfloat t 1).trans (findAllFrom_later p none t 0 0)

/-! ## Occurrences -/

/-- The pattern occurs below an empty line just when it occurs: no branch of it can start with a
newline, except by skipping characters from the start of a line. -/
def staysBelow : Pattern → Bool
  | alt first second => first.staysBelow && second.staysBelow
  | seq lineStart (seq (many _) body) => body.refuses && body.floating
  | p => p.refuses && p.floating

theorem occursIn_alt (p q : Pattern) (t : Text) :
    (alt p q).occursIn t = (p.occursIn t || q.occursIn t) := by
  rw [Bool.eq_iff_iff, Bool.or_eq_true, occursIn_iff, occursIn_iff, occursIn_iff]
  constructor
  · rintro ⟨left, right, s, ht, hs | hs⟩
    · exact .inl ⟨left, right, s, ht, hs⟩
    · exact .inr ⟨left, right, s, ht, hs⟩
  · rintro (⟨left, right, s, ht, hs⟩ | ⟨left, right, s, ht, hs⟩)
    · exact ⟨left, right, s, ht, .inl hs⟩
    · exact ⟨left, right, s, ht, .inr hs⟩

theorem occursIn_newline_cons_of_refuses {p : Pattern} (hp : p.refuses = true)
    (hfloat : p.floating = true) (t : Text) : p.occursIn ('\n' :: t) = p.occursIn t := by
  rw [occursIn, find?_newline_cons hp hfloat, Option.isSome_map]
  rfl

/-- A match that skips the newline has its start one line further down. -/
theorem reaches_lineStart_many {accepts : Char → Bool} {body : Pattern}
    (hbody : body.refuses = true) (hfloat : body.floating = true) {t : Text} {s : Place}
    (h : (seq lineStart (seq (many accepts) body)).Reaches ⟨none, '\n' :: t, []⟩ s) :
    ∃ s', (seq lineStart (seq (many accepts) body)).Reaches ⟨none, t, []⟩ s' := by
  obtain ⟨_, ⟨-, rfl⟩, m, ⟨taken, rest, ht, htaken, rfl⟩, hs⟩ := h
  cases taken with
  | nil =>
    obtain rfl : '\n' :: t = rest := ht
    have hnone := run_eq_none_of_refuses (s := ⟨none, '\n' :: t, []⟩) hbody rfl rfl some
    have hsome := (finds_run body ⟨none, '\n' :: t, []⟩ some).complete s hs rfl
    rw [hnone] at hsome
    simp at hsome
  | cons c taken =>
    obtain ⟨rfl, rfl⟩ := List.cons.inj ht
    have hlook : (Place.after ⟨none, '\n' :: (taken ++ rest), []⟩ ('\n' :: taken) rest).normal =
        (Place.after ⟨none, taken ++ rest, []⟩ taken rest).normal := by
      rw [Place.normal_eq_iff]
      simp only [Place.after, getLast?_cons_or, Option.getD_or, and_self, and_true]
      rfl
    obtain ⟨s', hs'⟩ := (exists_reaches_congr hfloat hlook).mp ⟨s, hs⟩
    exact ⟨s', _, ⟨rfl, rfl⟩, _, ⟨taken, rest, rfl, (List.forall_mem_cons.mp htaken).2, rfl⟩, hs'⟩

theorem occursIn_newline_cons_of_lineStart {accepts : Char → Bool} {body : Pattern}
    (hbody : body.refuses = true) (hfloat : body.floating = true) (t : Text) :
    (seq lineStart (seq (many accepts) body)).occursIn ('\n' :: t) =
      (seq lineStart (seq (many accepts) body)).occursIn t := by
  have hp : (seq lineStart (seq (many accepts) body)).floating = true := by
    simp [floating, hfloat]
  have hlater : (findFrom? (seq lineStart (seq (many accepts) body)) (some '\n') t 1).isSome =
      (seq lineStart (seq (many accepts) body)).occursIn t := by
    rw [findFrom?_newline hp, findFrom?_later, Option.isSome_map]
    rfl
  rw [occursIn, find?, findFrom?]
  split
  · rename_i m hm
    have hsome := matchHere?_isSome_iff.mp (Option.isSome_of_eq_some hm)
    obtain ⟨s, hs⟩ := hsome
    obtain ⟨s', hs'⟩ := reaches_lineStart_many hbody hfloat hs
    exact (occursIn_iff.mpr ⟨[], t, s', rfl, hs'⟩).symm
  · exact hlater

theorem occursIn_newline_cons {p : Pattern} (hp : p.staysBelow = true) (t : Text) :
    p.occursIn ('\n' :: t) = p.occursIn t := by
  fun_induction staysBelow p with
  | case1 first second ihf ihs =>
    obtain ⟨hf, hs⟩ := Bool.and_eq_true_iff.mp hp
    rw [occursIn_alt, occursIn_alt, ihf hf, ihs hs]
  | case2 accepts body =>
    obtain ⟨hbody, hfloat⟩ := Bool.and_eq_true_iff.mp hp
    exact occursIn_newline_cons_of_lineStart hbody hfloat t
  | case3 p =>
    obtain ⟨hrefuses, hfloat⟩ := Bool.and_eq_true_iff.mp hp
    exact occursIn_newline_cons_of_refuses hrefuses hfloat t

end ContractAudit.Pattern
