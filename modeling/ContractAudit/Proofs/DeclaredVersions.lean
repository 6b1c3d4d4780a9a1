import ContractAudit.Catalog.Vyper.Triggers
import ContractAudit.Proofs.BlankStretch
import Mathlib.Data.List.Infix
import Mathlib.Data.List.TakeWhile

/-!
# Reading version declarations

A version declaration leaves the search no choice: each stretch of white space is taken whole, and
the version number reaches to the next white space. So the declared version can be read off the
text, and the first hash at which this succeeds gives the version of the source.

White space includes newlines, so a declaration may be broken over several lines. Where it is not,
`Whole`, the lines below have no say in what is read.
-/
namespace ContractAudit.Catalog.Vyper

open Pattern Source
open Text (isBlank isBlankText dropOpening?)

def pastBlanks? (t : Text) : Option Text :=
  if t.head?.any isBlank then some t.trimStart else none

def number? (t : Text) : Option Text :=
  (pastBlanks? t).bind fun rest =>
    if rest.head?.any (!isBlank ·) then some (rest.takeWhile (!isBlank ·)) else none

def declared? (t : Text) : Option Text :=
  ((dropOpening? "@version".toList t).bind number?).or
    ((dropOpening? "pragma".toList t).bind fun rest =>
      (pastBlanks? rest).bind fun rest => (dropOpening? "version".toList rest).bind number?)

def versionAt? (t : Text) : Option Text :=
  (dropOpening? "#".toList t).bind fun rest => declared? rest.trimStart

/-! ## The search reads what is declared -/

def captured (s : Place) : Text :=
  ((s.captures.find? (·.group == 1)).map (·.text)).getD []

/-- Before anything is captured, going on captures what `read` gives for the text. -/
def Reads (next : Place → Option Place) (read : Text → Option Text) : Prop :=
  ∀ before rest, (next ⟨before, rest, []⟩).map captured = read rest

section Reads

variable {next : Place → Option Place} {read : Text → Option Text}

theorem captured_cons (before : Option Char) (rest taken closing : Text)
    (captures : List Capture) :
    captured ⟨before, rest, ⟨1, taken ++ closing, closing⟩ :: captures⟩ = taken := by
  simp [captured, Capture.text_of_append]

theorem run_number (s : Place) :
    (capture 1 (many1 (!isBlank ·))).run s some =
      if s.rest.head?.any (!isBlank ·) then
        some { s.past (!isBlank ·) with
          captures := ⟨1, s.rest, s.rest.dropWhile (!isBlank ·)⟩ :: s.captures }
      else none :=
  run_many1_of_isSome fun _ => rfl

theorem reads_number :
    Reads ((capture 1 (many1 (!isBlank ·))).run · some) fun rest =>
      if rest.head?.any (!isBlank ·) then some (rest.takeWhile (!isBlank ·)) else none := by
  intro before rest
  have hsplit := List.takeWhile_append_dropWhile (p := (!isBlank ·)) (l := rest)
  simp only [run_number]
  split
  · rw [Option.map_some, ← captured_cons none [] (rest.takeWhile _) (rest.dropWhile _) [], hsplit]
    rfl
  · rfl

theorem stuck_number : Stuck isBlank ((capture 1 (many1 (!isBlank ·))).run · some) := by
  intro before c rest captures hc
  simp [run_number, hc]

theorem reads_exactly (opening : Text) (h : Reads next read) :
    Reads ((exactly opening).run · next) fun t => (dropOpening? opening t).bind read := by
  intro before rest
  cases hrest : dropOpening? opening rest with
  | none => simp [run, hrest]
  | some rest => simp [run, hrest, h _ rest]

theorem reads_blanks (hstuck : Stuck isBlank next) (h : Reads next read) :
    Reads (blanks.run · next) fun t => read t.trimStart := by
  intro before rest
  have hrun := run_many_of_stuck hstuck ⟨before, rest, []⟩
  exact (congrArg _ hrun).trans (h ..)

theorem reads_blanks1 (hstuck : Stuck isBlank next) (h : Reads next read) :
    Reads (blanks1.run · next) fun t => (pastBlanks? t).bind read := by
  intro before rest
  have hrun := run_many1_of_stuck hstuck ⟨before, rest, []⟩
  refine (congrArg _ hrun).trans ?_
  simp only [pastBlanks?]
  split
  · exact h ..
  · rfl

theorem reads_alt {first second : Pattern} {read' : Text → Option Text}
    (hfirst : Reads (first.run · next) read) (hsecond : Reads (second.run · next) read') :
    Reads ((alt first second).run · next) fun t => (read t).or (read' t) := by
  intro before rest
  have hread := hfirst before rest
  have hread' := hsecond before rest
  cases hrun : first.run ⟨before, rest, []⟩ next <;>
    simp only [run, hrun, Option.map_none, Option.map_some] at hread ⊢ <;>
    simp [← hread, ← hread']

end Reads

def versionKeyword : Pattern :=
  alt (text "@version") (seq (text "pragma") (seq blanks1 (text "version")))

def versionNumber : Pattern :=
  seq blanks1 (capture 1 (many1 (!isBlank ·)))

theorem reads_versionNumber : Reads (versionNumber.run · some) number? :=
  reads_blanks1 stuck_number reads_number

theorem reads_versionKeyword :
    Reads (versionKeyword.run · (versionNumber.run · some)) declared? := by
  have hversion : Stuck isBlank ((text "version").run · (versionNumber.run · some)) :=
    stuck_exactly (by decide) _
  refine reads_alt (reads_exactly _ reads_versionNumber) ?_
  exact reads_exactly _ (reads_blanks1 hversion (reads_exactly _ reads_versionNumber))

theorem reads_versionPattern : Reads (versionPattern.run · some) versionAt? := by
  have hshort : Stuck isBlank ((text "@version").run · (versionNumber.run · some)) :=
    stuck_exactly (by decide) _
  have hlong : Stuck isBlank ((text "pragma").run ·
      ((seq blanks1 (text "version")).run · (versionNumber.run · some))) :=
    stuck_exactly (by decide) _
  have hkeyword : Stuck isBlank (versionKeyword.run · (versionNumber.run · some)) :=
    stuck_alt hshort hlong
  exact reads_exactly _ (reads_blanks hkeyword reads_versionKeyword)

theorem map_findFrom?_versionPattern (before : Option Char) (t : Text) (offset : Nat) :
    (versionPattern.findFrom? before t offset).map (·.group 1) = t.tails.findSome? versionAt? := by
  have hhere (before : Option Char) (t : Text) (offset : Nat) :
      (versionPattern.matchHere? before t offset).map (·.group 1) = versionAt? t := by
    rw [← reads_versionPattern before t, matchHere?, Option.map_map]
    rfl
  induction t generalizing before offset with
  | nil =>
    rw [findFrom?, hhere]
    cases h : versionAt? [] <;> simp [h]
  | cons c t ih =>
    rw [findFrom?, List.tails_cons, List.findSome?_cons, ← hhere before (c :: t) offset]
    cases versionPattern.matchHere? before (c :: t) offset with
    | none => exact ih ..
    | some m => rfl

theorem declaredVersion?_eq (code : Text) :
    declaredVersion? code = code.tails.findSome? versionAt? :=
  map_findFrom?_versionPattern none code 0

/-! ## The end of a line -/

section Newline

variable {t : Text} (lower : Text)

theorem isBlank_newline : isBlank '\n' = true := by
  decide

theorem dropOpening?_append_newline {opening : Text} (hopening : opening.all (!isBlank ·) = true)
    (t : Text) :
    dropOpening? opening (t ++ '\n' :: lower) =
      (dropOpening? opening t).map (· ++ '\n' :: lower) :=
  Seam.dropOpening?_append (by simpa using hopening) (by simp [isBlank_newline]) t

theorem trimStart_of_blank (h : isBlankText t = true) :
    Text.trimStart (t ++ '\n' :: lower) = Text.trimStart lower :=
  (List.dropWhile_append_of_pos (List.all_eq_true.mp h)).trans
    (List.dropWhile_cons_of_pos isBlank_newline)

theorem trimStart_eq_nil_iff : t.trimStart = [] ↔ isBlankText t = true := by
  rw [Text.trimStart, List.dropWhile_eq_nil_iff, isBlankText, List.all_eq_true]

theorem trimStart_ne_nil (h : isBlankText t = false) : t.trimStart ≠ [] := by
  rw [ne_eq, trimStart_eq_nil_iff, h]
  exact Bool.false_ne_true

theorem trimStart_of_ink (h : isBlankText t = false) :
    Text.trimStart (t ++ '\n' :: lower) = t.trimStart ++ '\n' :: lower := by
  have hne := trimStart_ne_nil h
  rw [Text.trimStart] at hne ⊢
  rw [List.dropWhile_append, if_neg (by simpa using hne), Text.trimStart]

theorem pastBlanks?_of_blank (h : isBlankText t = true) :
    pastBlanks? (t ++ '\n' :: lower) = some (Text.trimStart lower) := by
  have hhead : (t ++ '\n' :: lower).head?.any isBlank = true := by
    cases t with
    | nil => exact isBlank_newline
    | cons c t => simpa [isBlankText] using List.all_eq_true.mp h c List.mem_cons_self
  rw [pastBlanks?, if_pos hhead, trimStart_of_blank lower h]

theorem pastBlanks?_of_ink (h : isBlankText t = false) :
    pastBlanks? (t ++ '\n' :: lower) = (pastBlanks? t).map (· ++ '\n' :: lower) := by
  have hhead : (t ++ '\n' :: lower).head? = t.head? := by
    cases t with
    | nil => simp [isBlankText] at h
    | cons c t => rfl
  rw [pastBlanks?, pastBlanks?, trimStart_of_ink lower h, hhead]
  split <;> rfl

theorem number?_of_ink (h : isBlankText t = false) :
    number? (t ++ '\n' :: lower) = number? t := by
  have hword (rest : Text) : (rest ++ '\n' :: lower).takeWhile (!isBlank ·) =
      rest.takeWhile (!isBlank ·) :=
    takeWhile_append_cons_of_neg (by decide) rest lower
  rw [number?, number?, pastBlanks?_of_ink lower h, pastBlanks?]
  split
  · obtain ⟨c, rest, hrest⟩ := List.exists_cons_of_ne_nil (trimStart_ne_nil h)
    simp only [Option.map_some, Option.bind_some, hword, hrest]
    rfl
  · rfl

end Newline

/-! ## Declarations that are not broken -/

/-- The declaration that a hash begins, if it does, is not broken by the end of the line. `t` is the
text behind the hash up to there, `lower` the text from the next line on. -/
structure Whole (t lower : Text) : Prop where
  keyword : isBlankText t = true →
    dropOpening? "@version".toList lower.trimStart = none ∧
      dropOpening? "pragma".toList lower.trimStart = none
  short : ∀ rest, dropOpening? "@version".toList t.trimStart = some rest →
    isBlankText rest = false
  version : ∀ rest, dropOpening? "pragma".toList t.trimStart = some rest →
    isBlankText rest = true → (dropOpening? "version".toList lower.trimStart).bind number? = none
  long : ∀ rest rest' number, dropOpening? "pragma".toList t.trimStart = some rest →
    pastBlanks? rest = some rest' → dropOpening? "version".toList rest' = some number →
      isBlankText number = false

section Whole

variable {t lower : Text}

theorem versionAt?_hash (rest : Text) : versionAt? ('#' :: rest) = declared? rest.trimStart :=
  rfl

theorem declared?_eq_none {rest : Text} (hshort : dropOpening? "@version".toList rest = none)
    (hlong : dropOpening? "pragma".toList rest = none) : declared? rest = none := by
  simp only [declared?, hshort, hlong, Option.bind_none, Option.or_none]

theorem Whole.versionAt?_eq (h : Whole t lower) :
    versionAt? ('#' :: (t ++ '\n' :: lower)) = versionAt? ('#' :: t) := by
  rw [versionAt?_hash, versionAt?_hash]
  cases hblank : isBlankText t with
  | true =>
    have hnil : t.trimStart = [] := trimStart_eq_nil_iff.mpr hblank
    obtain ⟨hshort, hlong⟩ := h.keyword hblank
    rw [trimStart_of_blank lower hblank, declared?_eq_none hshort hlong, hnil]
    rfl
  | false =>
    rw [trimStart_of_ink lower hblank, declared?, declared?,
      dropOpening?_append_newline lower (by decide), dropOpening?_append_newline lower (by decide)]
    congr 1
    · cases hrest : dropOpening? "@version".toList t.trimStart with
      | none => rfl
      | some rest => exact number?_of_ink lower (h.short rest hrest)
    · cases hrest : dropOpening? "pragma".toList t.trimStart with
      | none => rfl
      | some rest =>
        simp only [Option.map_some, Option.bind_some]
        cases hgap : isBlankText rest with
        | true =>
          have hnil : rest.trimStart = [] := trimStart_eq_nil_iff.mpr hgap
          rw [pastBlanks?_of_blank lower hgap, pastBlanks?, hnil]
          refine (h.version rest hrest hgap).trans ?_
          split <;> rfl
        | false =>
          rw [pastBlanks?_of_ink lower hgap]
          cases hrest' : pastBlanks? rest with
          | none => rfl
          | some rest' =>
            simp only [Option.map_some, Option.bind_some]
            rw [dropOpening?_append_newline lower (by decide)]
            cases hnumber : dropOpening? "version".toList rest' with
            | none => rfl
            | some number =>
              exact number?_of_ink lower (h.long rest rest' number hrest hrest' hnumber)

theorem startsWith_eq_isSome (t opening : Text) :
    t.startsWith opening = (dropOpening? opening t).isSome := by
  rw [Text.startsWith, Bool.eq_iff_iff, List.isPrefixOf_iff_prefix, Option.isSome_iff_exists]
  simp only [dropOpening?_eq_some_iff]
  exact ⟨fun ⟨rest, hrest⟩ => ⟨rest, hrest.symm⟩, fun ⟨rest, hrest⟩ => ⟨rest, hrest.symm⟩⟩

theorem Whole.keepsHash_eq (h : Whole t lower) :
    keepsHash (t ++ '\n' :: lower) = keepsHash t := by
  simp only [keepsHash, startsWith_eq_isSome]
  rw [dropOpening?_append_newline lower (by decide), Option.isSome_map]
  cases hblank : isBlankText t with
  | true =>
    obtain ⟨hshort, hlong⟩ := h.keyword hblank
    rw [trimStart_of_blank lower hblank, hshort, hlong, trimStart_eq_nil_iff.mpr hblank]
    rfl
  | false =>
    rw [trimStart_of_ink lower hblank, dropOpening?_append_newline lower (by decide),
      dropOpening?_append_newline lower (by decide), Option.isSome_map, Option.isSome_map]

theorem versionAt?_eq_none_of_keepsHash (h : keepsHash t = false) :
    versionAt? ('#' :: t) = none := by
  simp only [keepsHash, startsWith_eq_isSome, Bool.or_eq_false_iff, Option.isSome_eq_false_iff,
    Option.isNone_iff_eq_none] at h
  exact declared?_eq_none h.1.2 h.2

theorem Whole.of_hash {rest lower' : Text} (h : Whole t lower)
    (hhash : lower'.trimStart = '#' :: rest) : Whole t lower' where
  keyword _ := by
    rw [hhash]
    exact ⟨rfl, rfl⟩
  short := h.short
  version _ _ _ := by
    rw [hhash]
    rfl
  long := h.long

end Whole

/-! ## Broken declarations, as matches -/

def Takes (p : Pattern) (taken rest : Text) : Prop :=
  ∀ before captures, ∃ s, p.Reaches ⟨before, taken ++ rest, captures⟩ s ∧ s.rest = rest

theorem takes_exactly (opening rest : Text) : Takes (exactly opening) opening rest :=
  fun _ _ => ⟨_, ⟨rest, rfl, rfl⟩, rfl⟩

theorem takes_blanks {taken : Text} (h : isBlankText taken = true) (rest : Text) :
    Takes blanks taken rest :=
  fun _ _ => ⟨_, ⟨taken, rest, rfl, List.all_eq_true.mp h, rfl⟩, rfl⟩

theorem takes_seq {p q : Pattern} {taken taken' rest : Text} (hp : Takes p taken (taken' ++ rest))
    (hq : Takes q taken' rest) : Takes (seq p q) (taken ++ taken') rest := by
  intro before captures
  obtain ⟨⟨before', _, captures'⟩, hm, rfl⟩ := hp before captures
  obtain ⟨s, hs, hrest⟩ := hq before' captures'
  exact ⟨s, ⟨_, by rwa [List.append_assoc], hs⟩, hrest⟩

theorem takes_blanks1 {c : Char} {taken : Text} (h : isBlankText (c :: taken) = true)
    (rest : Text) : Takes blanks1 (c :: taken) rest := by
  obtain ⟨hc, htaken⟩ := Bool.and_eq_true_iff.mp h
  have hone : Takes (one isBlank) [c] (taken ++ rest) :=
    fun _ _ => ⟨_, ⟨c, _, rfl, hc, rfl⟩, rfl⟩
  exact takes_seq hone (takes_blanks htaken rest)

theorem takes_alt_left {p : Pattern} {taken rest : Text} (q : Pattern) (h : Takes p taken rest) :
    Takes (alt p q) taken rest := by
  intro before captures
  obtain ⟨s, hs, hrest⟩ := h before captures
  exact ⟨s, .inl hs, hrest⟩

theorem takes_alt_right {q : Pattern} {taken rest : Text} (p : Pattern) (h : Takes q taken rest) :
    Takes (alt p q) taken rest := by
  intro before captures
  obtain ⟨s, hs, hrest⟩ := h before captures
  exact ⟨s, .inr hs, hrest⟩

/-- A match of the pattern begins in the first text and ends in the second, which stands on the
lines below it. -/
def crosses (p : Pattern) (upper lower : Text) : Bool :=
  upper.tails.any fun right =>
    (p.run ⟨none, right ++ '\n' :: lower, []⟩ fun s =>
      if s.rest.length ≤ lower.length then some s else none).isSome

theorem crosses_of_takes {p : Pattern} {upper lower right taken rest : Text}
    (hright : right <:+ upper) (htakes : Takes p taken rest)
    (hsplit : right ++ '\n' :: lower = taken ++ rest) (hlength : rest.length ≤ lower.length) :
    crosses p upper lower = true := by
  obtain ⟨s, hs, rfl⟩ := htakes none []
  refine List.any_eq_true.mpr ⟨right, (List.mem_tails ..).mpr hright, ?_⟩
  rw [hsplit]
  exact (finds_run p _ _).complete s hs (by simp [hlength])

def declarationPart : Pattern :=
  alt (inOrder [text "#", blanks, anyText ["@version", "pragma"]]) (seq versionDeclaration blanks1)

theorem takes_keyword {gap opening : Text} (hgap : isBlankText gap = true) {rest : Text}
    (hopening : Takes (anyText ["@version", "pragma"]) opening rest) :
    Takes declarationPart ('#' :: (gap ++ opening)) rest :=
  takes_alt_left _ (takes_seq (takes_exactly "#".toList _)
    (takes_seq (takes_blanks hgap _) hopening))

theorem takes_number {gap keyword : Text} (hgap : isBlankText gap = true) {c : Char} {gap' : Text}
    (hgap' : isBlankText (c :: gap') = true) {rest : Text}
    (hkeyword : Takes versionKeyword keyword (c :: gap' ++ rest)) :
    Takes declarationPart ('#' :: (gap ++ keyword) ++ c :: gap') rest :=
  takes_alt_right _ (takes_seq (takes_seq (takes_exactly "#".toList _)
    (takes_seq (takes_blanks hgap _) hkeyword)) (takes_blanks1 hgap' rest))

theorem takes_long {c : Char} {gap : Text} (hgap : isBlankText (c :: gap) = true) (rest : Text) :
    Takes versionKeyword ("pragma".toList ++ (c :: gap ++ "version".toList)) rest :=
  takes_alt_right _ (takes_seq (takes_exactly "pragma".toList _)
    (takes_seq (takes_blanks1 hgap _) (takes_exactly "version".toList rest)))

section Crossing

variable {upper lower t : Text}

theorem isBlankText_takeWhile (t : Text) : isBlankText (t.takeWhile isBlank) = true :=
  List.all_takeWhile

theorem takeWhile_append_trimStart (t : Text) : t.takeWhile isBlank ++ t.trimStart = t :=
  List.takeWhile_append_dropWhile

theorem exists_of_pastBlanks? {rest : Text} (h : pastBlanks? t = some rest) :
    ∃ c gap, isBlankText (c :: gap) = true ∧ t = c :: gap ++ rest := by
  rw [pastBlanks?, Option.ite_none_right_eq_some, Option.some_inj] at h
  obtain ⟨hhead, rfl⟩ := h
  cases t with
  | nil => simp at hhead
  | cons c t =>
    have hc : isBlank c = true := by simpa using hhead
    have htake : (c :: t).takeWhile isBlank = c :: t.takeWhile isBlank :=
      List.takeWhile_cons_of_pos hc
    refine ⟨c, t.takeWhile isBlank, ?_, ?_⟩
    · rw [← htake]
      exact isBlankText_takeWhile (c :: t)
    · rw [← htake, takeWhile_append_trimStart]

theorem exists_blank_stretch (h : isBlankText t = true) (lower : Text) :
    ∃ c gap, isBlankText (c :: gap) = true ∧ t ++ '\n' :: lower = c :: gap ++ lower.trimStart :=
  exists_of_pastBlanks? (pastBlanks?_of_blank lower h)

/-- No declaration is broken by the end of the line if no part of one begins above it and ends
below. -/
theorem whole_of_crosses (hcrosses : crosses declarationPart upper lower = false)
    (ht : '#' :: t <:+ upper) : Whole t lower := by
  have hnone {taken rest : Text} (htakes : Takes declarationPart taken rest)
      (hsplit : '#' :: (t ++ '\n' :: lower) = taken ++ rest)
      (hrest : rest <:+ lower.trimStart) : False := by
    have hlength := (hrest.trans (List.dropWhile_suffix isBlank)).length_le
    rw [crosses_of_takes ht htakes hsplit hlength] at hcrosses
    exact absurd hcrosses (by decide)
  obtain ⟨margin, hmargin, htrim⟩ :
      ∃ margin, isBlankText margin = true ∧ t = margin ++ t.trimStart :=
    ⟨_, isBlankText_takeWhile t, (takeWhile_append_trimStart t).symm⟩
  constructor
  case keyword =>
    intro hblank
    obtain ⟨c, gap, hgap, hstretch⟩ := exists_blank_stretch hblank lower
    have hopening {opening rest : Text}
        (htakes : Takes (anyText ["@version", "pragma"]) opening rest) :
        dropOpening? opening lower.trimStart ≠ some rest := by
      intro hrest
      rw [dropOpening?_eq_some_iff] at hrest
      refine hnone (takes_keyword hgap htakes) ?_ (hrest ▸ List.suffix_append ..)
      rw [hstretch, hrest]
      simp
    constructor
    · exact Option.eq_none_iff_forall_ne_some.mpr fun rest =>
        hopening (takes_alt_left _ (takes_exactly _ rest))
    · exact Option.eq_none_iff_forall_ne_some.mpr fun rest =>
        hopening (takes_alt_right _ (takes_exactly _ rest))
  case short =>
    intro rest hrest
    rw [dropOpening?_eq_some_iff.mp hrest] at htrim
    by_contra hblank
    obtain ⟨c, gap, hgap, hstretch⟩ := exists_blank_stretch (by simpa using hblank) lower
    have hkeyword : Takes versionKeyword "@version".toList (c :: gap ++ lower.trimStart) :=
      takes_alt_left _ (takes_exactly _ _)
    refine hnone (takes_number hmargin hgap hkeyword) ?_ List.suffix_rfl
    rw [htrim, List.append_assoc, List.append_assoc, hstretch]
    simp
  case version =>
    intro rest hrest hblank
    rw [dropOpening?_eq_some_iff.mp hrest] at htrim
    obtain ⟨c, gap, hgap, hstretch⟩ := exists_blank_stretch hblank lower
    cases hversion : dropOpening? "version".toList lower.trimStart with
    | none => rfl
    | some rest' =>
      rw [dropOpening?_eq_some_iff] at hversion
      cases hpast : pastBlanks? rest' with
      | none => simp [number?, hpast]
      | some number =>
        obtain ⟨d, gap', hgap', rfl⟩ := exists_of_pastBlanks? hpast
        have hlong := takes_long hgap (d :: gap' ++ number)
        refine (hnone (takes_number hmargin hgap' hlong) ?_ ?_).elim
        · rw [htrim, List.append_assoc, List.append_assoc, hstretch, hversion]
          simp
        · rw [hversion, ← List.append_assoc]
          exact List.suffix_append ..
  case long =>
    intro rest rest' number hrest hpast hnumber
    obtain ⟨d, gap', hgap', rfl⟩ := exists_of_pastBlanks? hpast
    rw [dropOpening?_eq_some_iff.mp hrest, dropOpening?_eq_some_iff.mp hnumber] at htrim
    by_contra hblank
    obtain ⟨c, gap, hgap, hstretch⟩ := exists_blank_stretch (by simpa using hblank) lower
    refine hnone (takes_number hmargin hgap (takes_long hgap' _)) ?_ List.suffix_rfl
    rw [htrim]
    simp only [List.append_assoc, hstretch]
    simp

end Crossing

end ContractAudit.Catalog.Vyper
