import ContractAudit.Pattern.Search

/-!
# What a pattern matches

`Reaches p s s'` says that the pattern can lead from one place to another, whatever is tried first.
A run finds such a place that lets the rest succeed whenever there is one, so a search succeeds
exactly when some position of the text has a way on. What is true of every way on is therefore true
of every match: here, that it takes a piece of the text, and for most patterns one that is not all
white space.
-/
namespace ContractAudit.Pattern

/-! ## Ways through a pattern -/

def Within (step : Place → Place → Prop) : Nat → Place → Place → Prop
  | 0, s, s' => s' = s
  | n + 1, s, s' => s' = s ∨ ∃ m, step s m ∧ Within step n m s'

def Place.after (s : Place) (taken rest : Text) : Place :=
  ⟨taken.getLast?.or s.before, rest, s.captures⟩

/-- The pattern can match from `s` up to `s'`. -/
def Reaches : Pattern → Place → Place → Prop
  | nothing, s, s' => s' = s
  | exactly text, s, s' => ∃ rest, s.rest = text ++ rest ∧ s' = s.after text rest
  | one accepts, s, s' => ∃ c rest, s.rest = c :: rest ∧ accepts c = true ∧ s' = s.after [c] rest
  | many accepts, s, s' =>
    ∃ taken rest, s.rest = taken ++ rest ∧ (∀ c ∈ taken, accepts c = true) ∧ s' = s.after taken rest
  | seq first second, s, s' => ∃ m, first.Reaches s m ∧ second.Reaches m s'
  | alt first second, s, s' => first.Reaches s s' ∨ second.Reaches s s'
  | star body, s, s' => Within body.Reaches s.rest.length s s'
  | textStart, s, s' => s.before = none ∧ s' = s
  | lineStart, s, s' => s.isLineStart = true ∧ s' = s
  | textEnd, s, s' => s.isTextEnd = true ∧ s' = s
  | wordEdge, s, s' => s.isWordEdge = true ∧ s' = s
  | ahead body, s, s' => (∃ e, body.Reaches s e) ∧ s' = s
  | notAhead body, s, s' => (¬ ∃ e, body.Reaches s e) ∧ s' = s
  | capture group body, s, s' =>
    ∃ m, body.Reaches s m ∧ s' = { m with captures := ⟨group, s.rest, m.rest⟩ :: m.captures }

theorem dropOpening?_eq_some_iff {opening t rest : Text} :
    Text.dropOpening? opening t = some rest ↔ t = opening ++ rest := by
  induction opening generalizing t with
  | nil => simp [Text.dropOpening?]
  | cons a opening ih =>
    cases t with
    | nil => simp [Text.dropOpening?]
    | cons c t =>
      by_cases hac : a = c
      · simp [Text.dropOpening?, hac, ih]
      · simp [Text.dropOpening?, hac, Ne.symm hac]

theorem mem_stops_iff {accepts : Char → Bool} {captures : List Capture} {before : Option Char}
    {t : Text} {nearer : List Place} {s : Place} :
    s ∈ stops accepts captures before t nearer ↔
      s ∈ nearer ∨ ∃ taken rest, t = taken ++ rest ∧ (∀ c ∈ taken, accepts c = true) ∧
        s = ⟨taken.getLast?.or before, rest, captures⟩ := by
  induction t generalizing before nearer with
  | nil =>
    simp only [stops, List.mem_cons, List.nil_eq_append_iff]
    constructor
    · rintro (rfl | hs)
      · exact .inr ⟨[], [], by simp⟩
      · exact .inl hs
    · rintro (hs | ⟨taken, rest, ⟨rfl, rfl⟩, -, rfl⟩)
      · exact .inr hs
      · exact .inl rfl
  | cons c t ih =>
    have hsplit : (∃ taken rest, c :: t = taken ++ rest ∧ (∀ d ∈ taken, accepts d = true) ∧
          s = ⟨taken.getLast?.or before, rest, captures⟩) ↔
        s = ⟨before, c :: t, captures⟩ ∨ accepts c = true ∧
          ∃ taken rest, t = taken ++ rest ∧ (∀ d ∈ taken, accepts d = true) ∧
            s = ⟨taken.getLast?.or (some c), rest, captures⟩ := by
      constructor
      · rintro ⟨taken, rest, ht, htaken, rfl⟩
        cases taken with
        | nil => exact .inl (by simp [show rest = c :: t from ht.symm])
        | cons d taken =>
          obtain ⟨rfl, rfl⟩ := List.cons.inj ht
          obtain ⟨hc, htaken⟩ := List.forall_mem_cons.mp htaken
          refine .inr ⟨hc, taken, rest, rfl, htaken, ?_⟩
          cases taken <;> simp [List.getLast?_cons]
      · rintro (rfl | ⟨hc, taken, rest, rfl, htaken, rfl⟩)
        · exact ⟨[], c :: t, by simp⟩
        · refine ⟨c :: taken, rest, rfl, List.forall_mem_cons.mpr ⟨hc, htaken⟩, ?_⟩
          cases taken <;> simp [List.getLast?_cons]
    rw [hsplit, stops]
    by_cases hc : accepts c = true
    · rw [if_pos hc, ih]
      simp only [List.mem_cons, hc, true_and]
      rw [or_assoc, or_left_comm]
    · rw [if_neg hc]
      simp only [List.mem_cons, hc, false_and, or_false, Bool.false_eq_true]
      exact or_comm

/-! ## A run finds a way if there is one -/

/-- `attempt` succeeds just when one of the places in reach lets `next` succeed, and with the result
that `next` has there. -/
structure Finds (attempt : Option Place) (inReach : Place → Prop)
    (next : Place → Option Place) : Prop where
  sound : ∀ r, attempt = some r → ∃ s, inReach s ∧ next s = some r
  complete : ∀ s, inReach s → (next s).isSome → attempt.isSome

theorem Finds.isSome_iff {attempt : Option Place} {inReach : Place → Prop}
    {next : Place → Option Place} (h : Finds attempt inReach next) :
    attempt.isSome ↔ ∃ s, inReach s ∧ (next s).isSome := by
  constructor
  · intro hsome
    obtain ⟨r, hr⟩ := Option.isSome_iff_exists.mp hsome
    obtain ⟨s, hs, hn⟩ := h.sound r hr
    exact ⟨s, hs, by simp [hn]⟩
  · rintro ⟨s, hs, hn⟩
    exact h.complete s hs hn

theorem finds_of_eq {next : Place → Option Place} {inReach : Place → Prop} {s : Place}
    (h : ∀ s', inReach s' ↔ s' = s) : Finds (next s) inReach next :=
  ⟨fun _ hr => ⟨s, (h s).mpr rfl, hr⟩, fun s' hs' hn => (h s').mp hs' ▸ hn⟩

theorem finds_none {next : Place → Option Place} {inReach : Place → Prop}
    (h : ∀ s, ¬ inReach s) : Finds none inReach next :=
  ⟨by simp, fun s hs => absurd hs (h s)⟩

theorem finds_ite {next : Place → Option Place} {inReach : Place → Prop} {s : Place} {b : Bool}
    (h : ∀ s', inReach s' ↔ b = true ∧ s' = s) :
    Finds (if b = true then next s else none) inReach next := by
  cases b with
  | true => exact finds_of_eq (by simpa using h)
  | false => exact finds_none (by simp [h])

theorem finds_findSome? (places : List Place) (next : Place → Option Place) :
    Finds (places.findSome? next) (· ∈ places) next := by
  constructor
  · intro r hr
    exact List.exists_of_findSome?_eq_some hr
  · intro s hs hn
    exact List.findSome?_isSome_iff.mpr ⟨s, hs, hn⟩

theorem finds_repeatFrom {body : Place → (Place → Option Place) → Option Place}
    {step : Place → Place → Prop} (hbody : ∀ s next, Finds (body s next) (step s) next)
    (bound : Text) (s : Place) (next : Place → Option Place) :
    Finds (repeatFrom body bound s next) (Within step bound.length s) next := by
  induction bound generalizing s with
  | nil => exact finds_of_eq fun s' => Iff.rfl
  | cons c bound ih =>
    have hfirst := hbody s fun s' => repeatFrom body bound s' next
    simp only [repeatFrom, List.length_cons]
    constructor
    · intro r hr
      split at hr
      · rename_i r' hrun
        obtain rfl : r' = r := by simpa using hr
        obtain ⟨m, hm, hrest⟩ := hfirst.sound _ hrun
        obtain ⟨s', hs', hn⟩ := (ih m).sound _ hrest
        exact ⟨s', .inr ⟨m, hm, hs'⟩, hn⟩
      · exact ⟨s, .inl rfl, hr⟩
    · rintro s' (rfl | ⟨m, hm, hs'⟩) hn
      · split <;> simp [hn]
      · have hrun := hfirst.complete m hm ((ih m).complete s' hs' hn)
        obtain ⟨r, hr⟩ := Option.isSome_iff_exists.mp hrun
        simp [hr]

theorem finds_run (p : Pattern) (s : Place) (next : Place → Option Place) :
    Finds (p.run s next) (p.Reaches s) next := by
  induction p generalizing s next with
  | nothing => exact finds_of_eq fun s' => Iff.rfl
  | exactly text =>
    simp only [run]
    split
    · rename_i rest hrest
      rw [dropOpening?_eq_some_iff] at hrest
      refine finds_of_eq fun s' => ?_
      simp only [Reaches, hrest, List.append_cancel_left_eq]
      exact ⟨fun ⟨_, hr, hs'⟩ => hr ▸ hs', fun hs' => ⟨rest, rfl, hs'⟩⟩
    · rename_i hnone
      refine finds_none ?_
      rintro s' ⟨rest, hrest, -⟩
      rw [dropOpening?_eq_some_iff.mpr hrest] at hnone
      simp at hnone
  | one accepts =>
    simp only [run]
    split
    · rename_i hrest
      exact finds_none (by simp [Reaches, hrest])
    · rename_i c rest hrest
      refine finds_ite fun s' => ?_
      simp only [Reaches, hrest, List.cons.injEq]
      constructor
      · rintro ⟨d, rest', ⟨rfl, rfl⟩, hc, rfl⟩
        exact ⟨hc, rfl⟩
      · rintro ⟨hc, rfl⟩
        exact ⟨c, rest, ⟨rfl, rfl⟩, hc, rfl⟩
  | many accepts =>
    have hstops := finds_findSome? (stops accepts s.captures s.before s.rest []) next
    have hmem : (· ∈ stops accepts s.captures s.before s.rest []) = (many accepts).Reaches s := by
      funext s'
      simp [mem_stops_iff, Reaches, Place.after]
    rwa [hmem] at hstops
  | seq first second ihf ihs =>
    have hfirst := ihf s fun s' => second.run s' next
    constructor
    · intro r hr
      obtain ⟨m, hm, hsecond⟩ := hfirst.sound r hr
      obtain ⟨s', hs', hn⟩ := (ihs m next).sound r hsecond
      exact ⟨s', ⟨m, hm, hs'⟩, hn⟩
    · rintro s' ⟨m, hm, hs'⟩ hn
      exact hfirst.complete m hm ((ihs m next).complete s' hs' hn)
  | alt first second ihf ihs =>
    simp only [run]
    constructor
    · intro r hr
      split at hr
      · rename_i r' hrun
        obtain rfl : r' = r := by simpa using hr
        obtain ⟨s', hs', hn⟩ := (ihf s next).sound _ hrun
        exact ⟨s', .inl hs', hn⟩
      · obtain ⟨s', hs', hn⟩ := (ihs s next).sound r hr
        exact ⟨s', .inr hs', hn⟩
    · rintro s' (hs' | hs') hn
      · obtain ⟨r, hr⟩ := Option.isSome_iff_exists.mp ((ihf s next).complete s' hs' hn)
        simp [hr]
      · split
        · simp
        · exact (ihs s next).complete s' hs' hn
  | star body ih => exact finds_repeatFrom ih s.rest s next
  | textStart => exact finds_ite fun s' => by simp [Reaches]
  | lineStart => exact finds_ite fun s' => Iff.rfl
  | textEnd => exact finds_ite fun s' => Iff.rfl
  | wordEdge => exact finds_ite fun s' => Iff.rfl
  | ahead body ih => exact finds_ite fun s' => by simp [Reaches, (ih s some).isSome_iff]
  | notAhead body ih =>
    simp only [run]
    split
    · rename_i hsome
      exact finds_none (by simpa [Reaches, (ih s some).isSome_iff] using hsome)
    · rename_i hnone
      exact finds_of_eq (by simpa [Reaches, (ih s some).isSome_iff] using hnone)
  | capture group body ih =>
    have hbody := ih s fun s' =>
      next { s' with captures := ⟨group, s.rest, s'.rest⟩ :: s'.captures }
    constructor
    · intro r hr
      obtain ⟨m, hm, hn⟩ := hbody.sound r hr
      exact ⟨_, ⟨m, hm, rfl⟩, hn⟩
    · rintro s' ⟨m, hm, rfl⟩ hn
      exact hbody.complete m hm hn

/-! ## Searches -/

theorem matchHere?_eq_some {p : Pattern} {before : Option Char} {t : Text} {offset : Nat}
    {m : Match} (h : p.matchHere? before t offset = some m) :
    ∃ s, p.Reaches ⟨before, t, []⟩ s ∧ m = ⟨offset, t, s.rest, s.captures⟩ := by
  obtain ⟨r, hr, rfl⟩ := Option.map_eq_some_iff.mp h
  obtain ⟨s, hs, hsr⟩ := (finds_run p ⟨before, t, []⟩ some).sound r hr
  obtain rfl : s = r := by simpa using hsr
  exact ⟨s, hs, rfl⟩

theorem matchHere?_isSome_iff {p : Pattern} {before : Option Char} {t : Text} {offset : Nat} :
    (p.matchHere? before t offset).isSome ↔ ∃ s, p.Reaches ⟨before, t, []⟩ s := by
  simp [matchHere?, (finds_run p ⟨before, t, []⟩ some).isSome_iff]

theorem getLast?_cons_or (c : Char) (t : Text) (before : Option Char) :
    (c :: t).getLast?.or before = t.getLast?.or (some c) := by
  cases t <;> simp [List.getLast?_cons]

theorem findFrom?_isSome_iff {p : Pattern} {before : Option Char} {t : Text} {offset : Nat} :
    (p.findFrom? before t offset).isSome ↔
      ∃ left right s, t = left ++ right ∧ p.Reaches ⟨left.getLast?.or before, right, []⟩ s := by
  induction t generalizing before offset with
  | nil =>
    rw [findFrom?, matchHere?_isSome_iff]
    constructor
    · rintro ⟨s, hs⟩
      exact ⟨[], [], s, rfl, hs⟩
    · rintro ⟨left, right, s, ht, hs⟩
      obtain ⟨rfl, rfl⟩ := List.nil_eq_append_iff.mp ht
      exact ⟨s, hs⟩
  | cons c t ih =>
    have hsplit : (p.findFrom? before (c :: t) offset).isSome ↔
        (p.matchHere? before (c :: t) offset).isSome ∨
          (p.findFrom? (some c) t (offset + 1)).isSome := by
      rw [findFrom?]
      cases p.matchHere? before (c :: t) offset <;> simp
    rw [hsplit, matchHere?_isSome_iff, ih]
    constructor
    · rintro (⟨s, hs⟩ | ⟨left, right, s, rfl, hs⟩)
      · exact ⟨[], c :: t, s, rfl, hs⟩
      · exact ⟨c :: left, right, s, rfl, by rwa [getLast?_cons_or]⟩
    · rintro ⟨left, right, s, ht, hs⟩
      cases left with
      | nil => exact .inl ⟨s, by rwa [show right = c :: t from ht.symm] at hs⟩
      | cons d left =>
        obtain ⟨rfl, rfl⟩ := List.cons.inj ht
        exact .inr ⟨left, right, s, rfl, by rwa [getLast?_cons_or] at hs⟩

theorem occursIn_iff {p : Pattern} {t : Text} :
    p.occursIn t ↔ ∃ left right s, t = left ++ right ∧ p.Reaches ⟨left.getLast?, right, []⟩ s := by
  simp only [occursIn, find?, findFrom?_isSome_iff, Option.or_none]

theorem matchHere?_of_mem_findAllFrom {p : Pattern} {before : Option Char} {t : Text}
    {offset skip : Nat} {m : Match} (h : m ∈ p.findAllFrom before t offset skip) :
    ∃ left, t = left ++ m.opening ∧ m.offset = offset + left.length ∧
      p.matchHere? (left.getLast?.or before) m.opening m.offset = some m := by
  have hhere (before : Option Char) (t : Text) (offset : Nat)
      (h : p.matchHere? before t offset = some m) :
      ∃ left, t = left ++ m.opening ∧ m.offset = offset + left.length ∧
        p.matchHere? (left.getLast?.or before) m.opening m.offset = some m := by
    obtain ⟨s, -, rfl⟩ := matchHere?_eq_some h
    exact ⟨[], rfl, rfl, h⟩
  induction t generalizing before offset skip with
  | nil =>
    cases skip with
    | zero => exact hhere _ _ _ (Option.mem_toList.mp h)
    | succ skip => simp [findAllFrom] at h
  | cons c t ih =>
    have hlater {skip : Nat} (h : m ∈ p.findAllFrom (some c) t (offset + 1) skip) :
        ∃ left, c :: t = left ++ m.opening ∧ m.offset = offset + left.length ∧
          p.matchHere? (left.getLast?.or before) m.opening m.offset = some m := by
      obtain ⟨left, rfl, hoffset, hmatch⟩ := ih h
      refine ⟨c :: left, rfl, ?_, by rwa [getLast?_cons_or]⟩
      rw [hoffset, List.length_cons]
      omega
    cases skip with
    | succ skip => exact hlater h
    | zero =>
      rw [findAllFrom] at h
      split at h
      · rename_i m' hm'
        rcases List.mem_cons.mp h with rfl | h
        · exact hhere _ _ _ hm'
        · exact hlater h
      · exact hlater h

theorem exists_left_of_mem_findAll {p : Pattern} {t : Text} {m : Match} (h : m ∈ p.findAll t) :
    ∃ left s, t = left ++ m.opening ∧ m.offset = left.length ∧
      p.Reaches ⟨left.getLast?, m.opening, []⟩ s := by
  obtain ⟨left, hsplit, hoffset, hmatch⟩ := matchHere?_of_mem_findAllFrom h
  rw [Option.or_none] at hmatch
  obtain ⟨s, hs, -⟩ := matchHere?_eq_some hmatch
  exact ⟨left, s, hsplit, by simpa using hoffset, hs⟩

/-! ## Ink

Most patterns cannot match in a text that is all white space, and for most of them this shows in how
they are built: on every way there is a fixed text or a class that has something to see in it. -/

def blankChars : List Char :=
  ([32, 9, 10, 11, 12, 13, 28, 29, 30, 31] ++ Text.wideBlanks).map Char.ofNat

theorem mem_blankChars {c : Char} (h : Text.isBlank c = true) : c ∈ blankChars := by
  have hcode : c.toNat ∈ [32, 9, 10, 11, 12, 13, 28, 29, 30, 31] ++ Text.wideBlanks := by
    unfold Text.isBlank at h
    split at h
    · simp only [Text.isAsciiBlank, Bool.or_eq_true, beq_iff_eq, Bool.and_eq_true,
        decide_eq_true_eq] at h
      apply List.mem_append_left
      simp only [List.mem_cons, List.not_mem_nil]
      omega
    · exact List.mem_append_right _ (List.contains_iff_mem.mp h)
  have := List.mem_map_of_mem (f := Char.ofNat) hcode
  rwa [Char.ofNat_toNat] at this

/-- Every way through the pattern needs a character that is not white space. -/
def inked : Pattern → Bool
  | exactly text => text.any fun c => !Text.isBlank c
  | one accepts => blankChars.all fun c => !accepts c
  | seq first second => first.inked || second.inked
  | alt first second => first.inked && second.inked
  | capture _ body => body.inked
  | _ => false

theorem rest_suffix_of_within {step : Place → Place → Prop}
    (hstep : ∀ s s', step s s' → s'.rest <:+ s.rest) {n : Nat} {s s' : Place}
    (h : Within step n s s') : s'.rest <:+ s.rest := by
  induction n generalizing s with
  | zero =>
    obtain rfl : s' = s := h
    exact List.suffix_refl _
  | succ n ih =>
    rcases h with rfl | ⟨m, hm, h⟩
    · exact List.suffix_refl _
    · exact (ih h).trans (hstep s m hm)

theorem rest_suffix_of_reaches (p : Pattern) {s s' : Place} (h : p.Reaches s s') :
    s'.rest <:+ s.rest := by
  have hstay {s s' : Place} (hs : s' = s) : s'.rest <:+ s.rest := hs ▸ List.suffix_refl _
  induction p generalizing s s' with
  | exactly text =>
    obtain ⟨rest, hrest, rfl⟩ := h
    exact ⟨text, hrest.symm⟩
  | one accepts =>
    obtain ⟨c, rest, hrest, -, rfl⟩ := h
    exact ⟨[c], hrest.symm⟩
  | many accepts =>
    obtain ⟨taken, rest, hrest, -, rfl⟩ := h
    exact ⟨taken, hrest.symm⟩
  | seq first second ihf ihs =>
    obtain ⟨m, hm, hs'⟩ := h
    exact (ihs hs').trans (ihf hm)
  | alt first second ihf ihs => exact h.elim (ihf ·) (ihs ·)
  | star body ih => exact rest_suffix_of_within (fun s s' => ih) h
  | capture group body ih =>
    obtain ⟨m, hm, rfl⟩ := h
    exact (ih hm :)
  | nothing => exact hstay h
  | textStart => exact hstay h.2
  | lineStart => exact hstay h.2
  | textEnd => exact hstay h.2
  | wordEdge => exact hstay h.2
  | ahead body => exact hstay h.2
  | notAhead body => exact hstay h.2

def captureless : Pattern → Bool
  | seq first second => first.captureless && second.captureless
  | alt first second => first.captureless && second.captureless
  | star body => body.captureless
  | capture _ _ => false
  | _ => true

theorem captures_of_reaches {p : Pattern} (hp : p.captureless = true) {s s' : Place}
    (h : p.Reaches s s') : s'.captures = s.captures := by
  have hstay {s s' : Place} (hs : s' = s) : s'.captures = s.captures := hs ▸ rfl
  induction p generalizing s s' with
  | exactly text =>
    obtain ⟨rest, -, rfl⟩ := h
    rfl
  | one accepts =>
    obtain ⟨c, rest, -, -, rfl⟩ := h
    rfl
  | many accepts =>
    obtain ⟨taken, rest, -, -, rfl⟩ := h
    rfl
  | seq first second ihf ihs =>
    obtain ⟨hf, hs⟩ := Bool.and_eq_true_iff.mp hp
    obtain ⟨m, hm, hs'⟩ := h
    exact (ihs hs hs').trans (ihf hf hm)
  | alt first second ihf ihs =>
    obtain ⟨hf, hs⟩ := Bool.and_eq_true_iff.mp hp
    exact h.elim (ihf hf ·) (ihs hs ·)
  | star body ih =>
    replace h : Within body.Reaches s.rest.length s s' := h
    generalize s.rest.length = n at h
    induction n generalizing s with
    | zero => exact hstay h
    | succ n ihn =>
      rcases h with rfl | ⟨m, hm, h⟩
      · rfl
      · exact (ihn h).trans (ih hp hm)
  | capture group body => simp [captureless] at hp
  | nothing => exact hstay h
  | textStart => exact hstay h.2
  | lineStart => exact hstay h.2
  | textEnd => exact hstay h.2
  | wordEdge => exact hstay h.2
  | ahead body => exact hstay h.2
  | notAhead body => exact hstay h.2

theorem Capture.text_of_append (group : Nat) (taken rest : Text) :
    Capture.text ⟨group, taken ++ rest, rest⟩ = taken := by
  rw [Capture.text, List.length_append, Nat.add_sub_cancel, List.take_left]

theorem exists_ink_of_reaches {p : Pattern} (hp : p.inked = true) {s s' : Place}
    (h : p.Reaches s s') : ∃ c ∈ s.rest, Text.isBlank c = false := by
  induction p generalizing s s' with
  | exactly text =>
    obtain ⟨rest, hrest, -⟩ := h
    obtain ⟨c, hc, hink⟩ := List.any_eq_true.mp hp
    exact ⟨c, hrest ▸ List.mem_append_left _ hc, by simpa using hink⟩
  | one accepts =>
    obtain ⟨c, rest, hrest, hc, -⟩ := h
    refine ⟨c, by simp [hrest], Bool.eq_false_iff.mpr fun hblank => ?_⟩
    have hrefused := List.all_eq_true.mp hp c (mem_blankChars hblank)
    simp [hc] at hrefused
  | seq first second ihf ihs =>
    obtain ⟨m, hm, hs'⟩ := h
    rcases Bool.or_eq_true_iff.mp hp with hp | hp
    · exact ihf hp hm
    · obtain ⟨c, hc, hink⟩ := ihs hp hs'
      exact ⟨c, (rest_suffix_of_reaches first hm).subset hc, hink⟩
  | alt first second ihf ihs =>
    obtain ⟨hf, hs⟩ := Bool.and_eq_true_iff.mp hp
    exact h.elim (ihf hf ·) (ihs hs ·)
  | capture group body ih =>
    obtain ⟨m, hm, -⟩ := h
    exact ih hp hm
  | _ => simp [inked] at hp

theorem exists_ink_of_occursIn {p : Pattern} (hp : p.inked = true) {t : Text}
    (h : p.occursIn t = true) : ∃ c ∈ t, Text.isBlank c = false := by
  obtain ⟨left, right, s, rfl, hs⟩ := occursIn_iff.mp h
  obtain ⟨c, hc, hink⟩ := exists_ink_of_reaches hp hs
  exact ⟨c, List.mem_append_right left hc, hink⟩

theorem isBlankText_eq_false_of_occursIn {p : Pattern} (hp : p.inked = true) {t : Text}
    (h : p.occursIn t = true) : Text.isBlankText t = false := by
  obtain ⟨c, hc, hink⟩ := exists_ink_of_occursIn hp h
  rw [Text.isBlankText, List.all_eq_false]
  exact ⟨c, hc, by simp [hink]⟩

/-! ## Surroundings

A pattern without edges and without looks ahead goes by the text that it takes and by nothing around
it, so it is found in a piece of a text only if it is found in the whole. -/

/-- The pattern looks at nothing but the text that it takes. -/
def selfContained : Pattern → Bool
  | nothing | exactly _ | one _ | many _ => true
  | seq first second => first.selfContained && second.selfContained
  | alt first second => first.selfContained && second.selfContained
  | capture _ body => body.selfContained
  | _ => false

theorem reaches_append {p : Pattern} (hp : p.selfContained = true) {more : Text} {s s' u : Place}
    (h : p.Reaches s s') (hu : u.rest = s.rest ++ more) :
    ∃ u', p.Reaches u u' ∧ u'.rest = s'.rest ++ more := by
  induction p generalizing s s' u with
  | nothing =>
    obtain rfl : s' = s := h
    exact ⟨u, rfl, hu⟩
  | exactly text =>
    obtain ⟨rest, hrest, rfl⟩ := h
    exact ⟨u.after text (rest ++ more),
      ⟨rest ++ more, by rw [hu, hrest, List.append_assoc], rfl⟩, rfl⟩
  | one accepts =>
    obtain ⟨c, rest, hrest, hc, rfl⟩ := h
    exact ⟨u.after [c] (rest ++ more),
      ⟨c, rest ++ more, by rw [hu, hrest, List.cons_append], hc, rfl⟩, rfl⟩
  | many accepts =>
    obtain ⟨taken, rest, hrest, htaken, rfl⟩ := h
    exact ⟨u.after taken (rest ++ more),
      ⟨taken, rest ++ more, by rw [hu, hrest, List.append_assoc], htaken, rfl⟩, rfl⟩
  | seq first second ihf ihs =>
    obtain ⟨hf, hs⟩ := Bool.and_eq_true_iff.mp hp
    obtain ⟨m, hm, hs'⟩ := h
    obtain ⟨m', hm', hrest⟩ := ihf hf hm hu
    obtain ⟨u', hu', hrest'⟩ := ihs hs hs' hrest
    exact ⟨u', ⟨m', hm', hu'⟩, hrest'⟩
  | alt first second ihf ihs =>
    obtain ⟨hf, hs⟩ := Bool.and_eq_true_iff.mp hp
    rcases h with h | h
    · obtain ⟨u', hu', hrest⟩ := ihf hf h hu
      exact ⟨u', .inl hu', hrest⟩
    · obtain ⟨u', hu', hrest⟩ := ihs hs h hu
      exact ⟨u', .inr hu', hrest⟩
  | capture group body ih =>
    obtain ⟨m, hm, rfl⟩ := h
    obtain ⟨m', hm', hrest⟩ := ih hp hm hu
    exact ⟨_, ⟨m', hm', rfl⟩, hrest⟩
  | _ => simp [selfContained] at hp

theorem occursIn_mono {p : Pattern} (hp : p.selfContained = true) {t t' : Text} (hpart : t <:+: t')
    (h : p.occursIn t = true) : p.occursIn t' = true := by
  obtain ⟨left, right, s, rfl, hs⟩ := occursIn_iff.mp h
  obtain ⟨before, after, rfl⟩ := hpart
  have hrest : Place.rest ⟨(before ++ left).getLast?, right ++ after, []⟩ = right ++ after := rfl
  obtain ⟨u, hu, -⟩ := reaches_append hp hs hrest
  exact occursIn_iff.mpr ⟨before ++ left, right ++ after, u, by simp, hu⟩

end ContractAudit.Pattern
