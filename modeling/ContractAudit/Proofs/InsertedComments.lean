import ContractAudit.Catalog.Vyper.Detectors
import ContractAudit.Proofs.BlankLines
import ContractAudit.Proofs.BlockLocality
import ContractAudit.Proofs.StretchedSearch

/-!
# Comment lines between the lines of a source

A line with nothing but a comment leaves a blank line when the hash comments are gone. The detectors
do not count white space, so they give the same answers with the line and without it. There are two
exceptions. A declaration of the version may be broken over lines, and then the comment comes
between its parts. And a function may lose its lock: the blank line ends the run of its decorators.
-/
namespace ContractAudit.Catalog.Vyper

open Pattern Source
open Text (isBlank isBlankText)

/-! ## Cutting a source at a newline -/

def Apart (upper lower : Text) : Prop :=
  ∀ t, '#' :: t <:+ upper → Whole t lower

section Apart

variable {upper lower : Text}

theorem apart_of_crosses (h : crosses declarationPart upper lower = false) : Apart upper lower :=
  fun _ ht => whole_of_crosses h ht

theorem Apart.of_hash {rest lower' : Text} (h : Apart upper lower)
    (hhash : lower'.trimStart = '#' :: rest) : Apart upper lower' :=
  fun t ht => (h t ht).of_hash hhash

theorem Apart.of_cons {c : Char} (h : Apart (c :: upper) lower) : Apart upper lower :=
  fun t ht => h t (ht.trans (List.suffix_cons c upper))

theorem Apart.dropHashComments_eq (h : Apart upper lower) (inside : Bool) :
    dropHashComments inside (upper ++ '\n' :: lower) =
      dropHashComments inside upper ++ '\n' :: hashless lower := by
  induction upper generalizing inside with
  | nil => rfl
  | cons c upper ih =>
    have hkeeps : (c == '#' && !keepsHash (upper ++ '\n' :: lower)) =
        (c == '#' && !keepsHash upper) := by
      by_cases hc : c = '#'
      · subst hc
        rw [(h upper List.suffix_rfl).keepsHash_eq]
      · rw [beq_eq_false_iff_ne.mpr hc, Bool.false_and, Bool.false_and]
    rw [List.cons_append, dropHashComments, dropHashComments, hkeeps, ih h.of_cons, ih h.of_cons]
    split
    · rfl
    · split <;> rfl

theorem Apart.hashless_eq (h : Apart upper lower) :
    hashless (upper ++ '\n' :: lower) = hashless upper ++ '\n' :: hashless lower :=
  h.dropHashComments_eq false

theorem versionAt?_of_ne {c : Char} (hc : c ≠ '#') (t : Text) : versionAt? (c :: t) = none := by
  simp [versionAt?, Text.dropOpening?, hc.symm]

theorem Apart.declaredVersion?_eq (h : Apart upper lower) :
    declaredVersion? (upper ++ '\n' :: lower) =
      (declaredVersion? upper).or (declaredVersion? lower) := by
  simp only [Vyper.declaredVersion?_eq]
  induction upper with
  | nil => rfl
  | cons c upper ih =>
    have hhere : versionAt? (c :: (upper ++ '\n' :: lower)) = versionAt? (c :: upper) := by
      by_cases hc : c = '#'
      · subst hc
        exact (h upper List.suffix_rfl).versionAt?_eq
      · rw [versionAt?_of_ne hc, versionAt?_of_ne hc]
    rw [List.cons_append, List.tails_cons, List.tails_cons, List.findSome?_cons,
      List.findSome?_cons, hhere, ih h.of_cons]
    cases versionAt? (c :: upper) <;> rfl

end Apart

/-! ## Comment lines -/

/-- A line with nothing but a comment: white space, a hash, and a text without another hash that
makes it neither an attribute nor a version declaration. -/
structure CommentLine where
  margin : Text
  text : Text
  margin_blank : isBlankText margin = true
  newline_not_mem_margin : '\n' ∉ margin
  newline_not_mem_text : '\n' ∉ text
  hash_not_mem_text : '#' ∉ text
  keepsHash_text : keepsHash text = false

namespace CommentLine

variable (c : CommentLine)

def line : Text :=
  c.margin ++ '#' :: c.text

def between (above below : Text) : Text :=
  above ++ '\n' :: (c.line ++ '\n' :: below)

theorem hash_not_mem_margin : '#' ∉ c.margin := by
  intro hmem
  exact absurd (List.all_eq_true.mp c.margin_blank '#' hmem) (by decide)

theorem trimStart_line_append (below : Text) :
    Text.trimStart (c.line ++ '\n' :: below) = '#' :: (c.text ++ '\n' :: below) := by
  rw [line, List.append_assoc, Text.trimStart,
    List.dropWhile_append_of_pos (List.all_eq_true.mp c.margin_blank)]
  exact List.dropWhile_cons_of_neg (by decide)

theorem hashless_line : hashless c.line = c.margin := by
  have hinside (t : Text) (ht : '\n' ∉ t) : dropHashComments true t = [] := by
    induction t with
    | nil => rfl
    | cons a t ih =>
      rw [List.mem_cons, not_or] at ht
      rw [dropHashComments, if_neg (Ne.symm ht.1), Bool.true_or, if_pos rfl, ih ht.2]
  have hmargin (margin : Text) (hnewline : '\n' ∉ margin) (hhash : '#' ∉ margin) :
      dropHashComments false (margin ++ '#' :: c.text) = margin := by
    induction margin with
    | nil =>
      simp [dropHashComments, c.keepsHash_text, hinside c.text c.newline_not_mem_text]
    | cons a margin ih =>
      rw [List.mem_cons, not_or] at hnewline hhash
      rw [List.cons_append, dropHashComments, if_neg (Ne.symm hnewline.1), Bool.false_or,
        if_neg (by simp [Ne.symm hhash.1]), ih hnewline.2 hhash.2]
  exact hmargin c.margin c.newline_not_mem_margin c.hash_not_mem_margin

theorem declaredVersion?_line : declaredVersion? c.line = none := by
  have honly {t : Text} (ht : '#' :: t <:+ c.line) : t = c.text := by
    obtain ⟨left, hleft⟩ := ht
    rcases List.append_eq_append_iff.mp hleft with ⟨more, hmargin, hrest⟩ | ⟨more, -, hrest⟩
    · cases more with
      | nil => exact List.cons.inj hrest |>.2
      | cons a more =>
        obtain ⟨rfl, -⟩ := List.cons.inj hrest
        exact absurd (by simp [hmargin]) c.hash_not_mem_margin
    · cases more with
      | nil => exact (List.cons.inj hrest).2.symm
      | cons a more =>
        obtain ⟨-, htext⟩ := List.cons.inj hrest
        exact absurd (by simp [htext]) c.hash_not_mem_text
  rw [declaredVersion?_eq, List.findSome?_eq_none_iff]
  intro t ht
  rw [List.mem_tails] at ht
  cases t with
  | nil => rfl
  | cons a t =>
    by_cases ha : a = '#'
    · subst ha
      rw [honly ht]
      exact versionAt?_eq_none_of_keepsHash c.keepsHash_text
    · exact versionAt?_of_ne ha t

def seam (below : Text) : Seam where
  gap := '\n' :: c.margin
  tail := '\n' :: hashless below
  gap_blank := List.forall_mem_cons.mpr ⟨isBlank_newline, List.all_eq_true.mp c.margin_blank⟩
  tail_blank := by simp [isBlank_newline]

end CommentLine

/-! ## The detectors -/

section Triggers

variable {c : CommentLine} {above below : Text}

theorem hashless_between (habove : Apart above below) (hline : Apart c.line below) :
    hashless (c.between above below) = hashless above ++ (c.seam below).lower := by
  have habove' : Apart above (c.line ++ '\n' :: below) :=
    habove.of_hash (c.trimStart_line_append below)
  rw [CommentLine.between, habove'.hashless_eq, hline.hashless_eq, c.hashless_line]
  rfl

theorem declaredVersion?_between (habove : Apart above below) (hline : Apart c.line below) :
    declaredVersion? (c.between above below) = declaredVersion? (above ++ '\n' :: below) := by
  have habove' : Apart above (c.line ++ '\n' :: below) :=
    habove.of_hash (c.trimStart_line_append below)
  rw [CommentLine.between, habove'.declaredVersion?_eq, hline.declaredVersion?_eq,
    c.declaredVersion?_line, habove.declaredVersion?_eq, Option.none_or]

theorem lines_hashless (habove : Apart above below) :
    (hashless (above ++ '\n' :: below)).lines =
      (hashless above).lines ++ (hashless below).lines := by
  rw [habove.hashless_eq, Text.lines_append_newline_cons]

theorem lines_hashless_between (habove : Apart above below) (hline : Apart c.line below) :
    (hashless (c.between above below)).lines =
      (hashless above).lines ++ c.margin :: (hashless below).lines := by
  have hlower : (c.margin ++ '\n' :: hashless below).lines = c.margin :: (hashless below).lines :=
    Text.lines_append_newline c.newline_not_mem_margin (hashless below)
  rw [hashless_between habove hline, ← hlower]
  exact Text.lines_append_newline_cons ..

theorem hasReentrancy_eq (code : Text) :
    hasReentrancy code = ((hashless code).lines.findIdxs defLine.opens).any
      fun i => (functionAt (hashless code).lines i).isReentrant := by
  rw [hasReentrancy, functions_eq, List.any_map]
  rfl

theorem hasUnprotectedSelfDestruct_eq (code : Text) :
    hasUnprotectedSelfDestruct code = ((hashless code).lines.findIdxs defLine.opens).any
      fun i => (functionAt (hashless code).lines i).isDestructible := by
  rw [hasUnprotectedSelfDestruct, functions_eq, List.any_map]
  rfl

theorem hasReentrancy_between (habove : Apart above below) (hline : Apart c.line below) :
    hasReentrancy (c.between above below) =
      (hasReentrancy (above ++ '\n' :: below) ||
        losesLock (hashless above).lines (hashless below).lines) := by
  rw [hasReentrancy_eq, hasReentrancy_eq, lines_hashless_between habove hline,
    lines_hashless habove, any_isReentrant_insert c.margin_blank]

theorem hasUnprotectedSelfDestruct_between (habove : Apart above below)
    (hline : Apart c.line below) :
    hasUnprotectedSelfDestruct (c.between above below) =
      hasUnprotectedSelfDestruct (above ++ '\n' :: below) := by
  rw [hasUnprotectedSelfDestruct_eq, hasUnprotectedSelfDestruct_eq,
    lines_hashless_between habove hline, lines_hashless habove,
    any_isDestructible_insert c.margin_blank]

theorem occursIn_between (habove : Apart above below) (hline : Apart c.line below) {p : Pattern}
    (hp : p.elastic false = true) (hhalts : p.haltsBefore false = true) :
    p.occursIn (hashless (c.between above below)) =
      p.occursIn (hashless (above ++ '\n' :: below)) := by
  rw [hashless_between habove hline, habove.hashless_eq]
  exact (c.seam below).occursIn_eq hp hhalts (hashless above)

theorem storageLoop_between (habove : Apart above below) (hline : Apart c.line below) :
    (storageLoop lineStart).occursIn (hashless (c.between above below)) =
      (storageLoop lineStart).occursIn (hashless (above ++ '\n' :: below)) := by
  rw [hashless_between habove hline, habove.hashless_eq]
  exact (c.seam below).occursIn_lineStart_eq (by decide) (by decide +kernel) (by decide) rfl
    (hashless above)

/-! ## Calls whose result is not tested -/

theorem exists_flag_of_callTarget {line : Text} {m : Match}
    (h : callTarget.matchStart? line = some m) :
    ∃ a flag, m.group 1 = a :: flag ∧ ∀ b ∈ a :: flag, Text.isWord b = true := by
  obtain ⟨s, hs, rfl⟩ := matchHere?_eq_some h
  obtain ⟨_, ⟨-, rfl⟩, s₁, -, _, ⟨_, ⟨_, ⟨a, _, hrest, ha, rfl⟩, flag, rest, rfl, hflag, rfl⟩, rfl⟩,
    htail⟩ := hs
  have hcaptures := captures_of_reaches (by decide) htail
  refine ⟨a, flag, ?_, List.forall_mem_cons.mpr ⟨ha, hflag⟩⟩
  rw [← Capture.text_of_append 1 (a :: flag) rest, List.cons_append, ← hrest]
  simp [Match.group, Match.group?, hcaptures, Place.after]

theorem elastic_flagTest {a : Char} {flag : Text} (h : ∀ b ∈ a :: flag, Text.isWord b = true) :
    (flagTest (a :: flag)).elastic false = true := by
  have hink : ∀ b ∈ a :: flag, isBlank b = false := by
    intro b hb
    by_contra hblank
    have hword := isWord_of_isBlank (c := b) (by simpa using hblank)
    rw [h b hb] at hword
    exact absurd hword (by decide)
  obtain ⟨ha, hflag⟩ := List.forall_mem_cons.mp hink
  simpa +decide [flagTest, inOrder, elastic, haltsBefore, ha] using hflag

theorem lineBefore_of_append (left right : Text) :
    lineBefore (left ++ right) left.length = (left.reverse.takeWhile (· != '\n')).reverse := by
  rw [lineBefore, List.take_left]

theorem lineBefore_of_newline (above left right : Text) :
    lineBefore (above ++ '\n' :: left ++ right) (above ++ '\n' :: left).length =
      (left.reverse.takeWhile (· != '\n')).reverse := by
  rw [lineBefore_of_append, List.reverse_append, List.reverse_cons, List.append_assoc,
    List.singleton_append, takeWhile_append_cons_of_neg (by decide)]

theorem lineBefore_twin {seam : Seam} {upper rest : Text} (htail : seam.tail = '\n' :: rest)
    {p : Pattern} {m m' : Match} (hm : m ∈ p.findAll (upper ++ seam.tail))
    (hm' : m' ∈ p.findAll (upper ++ seam.lower)) (h : seam.MatchTwin m m') :
    lineBefore (upper ++ seam.lower) m'.offset = lineBefore (upper ++ seam.tail) m.offset := by
  obtain ⟨left, -, hleft, hoffset, -⟩ := exists_left_of_mem_findAll hm
  obtain ⟨left', -, hleft', hoffset', -⟩ := exists_left_of_mem_findAll hm'
  rw [hoffset, hoffset', hleft, hleft']
  rcases h with ⟨⟨mid, hopening, hopening'⟩, hsame⟩ | ⟨⟨hopening, hshort⟩, hmoved⟩
  · have hupper : upper = left ++ mid := by
      rw [hopening, ← List.append_assoc] at hleft
      exact List.append_cancel_right hleft
    have hupper' : upper = left' ++ mid := by
      rw [hopening', ← List.append_assoc] at hleft'
      exact List.append_cancel_right hleft'
    obtain rfl : left = left' := List.append_cancel_right (hupper.symm.trans hupper')
    rw [lineBefore_of_append, lineBefore_of_append]
  · -- The match begins below the newline that ends the upper text.
    obtain ⟨line, rfl, hrest⟩ :
        ∃ line, left = upper ++ '\n' :: line ∧ rest = line ++ m.opening := by
      rw [htail] at hleft
      rw [htail, List.length_cons] at hshort
      rcases List.append_eq_append_iff.mp hleft with ⟨more, hmore, hrest⟩ | ⟨more, -, hrest⟩
      · cases more with
        | nil =>
          rw [List.nil_append] at hrest
          rw [← hrest, List.length_cons] at hshort
          omega
        | cons d line =>
          obtain ⟨rfl, hlines⟩ := List.cons.inj hrest
          exact ⟨line, hmore, hlines⟩
      · rw [hrest, List.length_append, List.length_cons] at hshort
        omega
    obtain rfl : left' = upper ++ seam.gap ++ '\n' :: line := by
      rw [hopening, Seam.lower, htail, hrest, ← List.cons_append, ← List.append_assoc,
        ← List.append_assoc] at hleft'
      exact (List.append_cancel_right hleft').symm
    rw [lineBefore_of_newline, lineBefore_of_newline]

theorem any_eq_of_forall₂ {α : Type} {R : α → α → Prop} {l l' : List α} (h : List.Forall₂ R l l')
    {f g : α → Bool} (hfg : ∀ a ∈ l, ∀ b ∈ l', R a b → g b = f a) : l'.any g = l.any f := by
  induction h with
  | nil => rfl
  | cons hab _ ih =>
    rw [List.any_cons, List.any_cons, hfg _ List.mem_cons_self _ List.mem_cons_self hab,
      ih fun a ha b hb => hfg a (List.mem_cons_of_mem _ ha) b (List.mem_cons_of_mem _ hb)]

theorem hasUncheckedRawCall_between (habove : Apart above below) (hline : Apart c.line below) :
    hasUncheckedRawCall (c.between above below) =
      hasUncheckedRawCall (above ++ '\n' :: below) := by
  have htested {m m' : Match}
      (hm : m ∈ nonRevertingCall.findAll (hashless above ++ (c.seam below).tail))
      (hm' : m' ∈ nonRevertingCall.findAll (hashless above ++ (c.seam below).lower))
      (h : (c.seam below).MatchTwin m m') :
      isTested (hashless above ++ (c.seam below).lower) m' =
        isTested (hashless above ++ (c.seam below).tail) m := by
    rw [isTested, isTested, lineBefore_twin rfl hm hm' h]
    split
    · rfl
    next target htarget =>
      obtain ⟨a, flag, hgroup, hword⟩ := exists_flag_of_callTarget htarget
      rw [hgroup]
      exact (c.seam below).occursIn_eq (elastic_flagTest hword) rfl (hashless above)
  have hplain : hashless (above ++ '\n' :: below) = hashless above ++ (c.seam below).tail :=
    habove.hashless_eq
  simp only [hasUncheckedRawCall, hashless_between habove hline, hplain]
  refine any_eq_of_forall₂ ((c.seam below).forall₂_findAll (by decide) (by decide) _) ?_
  intro m hm m' hm' h
  rw [htested hm hm' h]

end Triggers

/-- A comment line between two lines changes no answer, if no version declaration is broken there,
with one exception: the detector of reentrancy fires when it did not before, just when a function
loses its lock. -/
theorem trigger_between_eq_iff (c : CommentLine) {above below : Text}
    (habove : crosses declarationPart above below = false)
    (hline : crosses declarationPart c.line below = false) :
    ∀ d ∈ detectors,
      (d.trigger (c.between above below) = d.trigger (above ++ '\n' :: below) ↔
        ¬ (d.id = "vyper-reentrancy" ∧ hasReentrancy (above ++ '\n' :: below) = false ∧
          losesLock (hashless above).lines (hashless below).lines = true)) := by
  have habove := apart_of_crosses habove
  have hline := apart_of_crosses hline
  have hversion := declaredVersion?_between habove hline
  have hother {d : Detector} (hid : d.id ≠ "vyper-reentrancy")
      (h : d.trigger (c.between above below) = d.trigger (above ++ '\n' :: below)) :
      d.trigger (c.between above below) = d.trigger (above ++ '\n' :: below) ↔
        ¬ (d.id = "vyper-reentrancy" ∧ hasReentrancy (above ++ '\n' :: below) = false ∧
          losesLock (hashless above).lines (hashless below).lines = true) := by
    simp [h, hid]
  intro d hd
  simp only [detectors, List.mem_cons, List.not_mem_nil, or_false] at hd
  rcases hd with rfl | rfl | rfl | rfl | rfl | rfl | rfl | rfl | rfl | rfl
  · simp only [Trigger.when, hasReentrancy_between habove hline]
    cases hasReentrancy (above ++ '\n' :: below) <;> simp
  · refine hother (by decide) (congrArg Except.ok ?_)
    simp only [hasVulnerableCompiler, hversion]
  · exact hother (by decide) (congrArg Except.ok (hasUnprotectedSelfDestruct_between habove hline))
  · exact hother (by decide) (congrArg Except.ok (hasUncheckedRawCall_between habove hline))
  · exact hother (by decide)
      (congrArg Except.ok (occursIn_between habove hline (by decide) (by decide)))
  · exact hother (by decide)
      (congrArg Except.ok (occursIn_between habove hline (by decide) (by decide)))
  · exact hother (by decide)
      (congrArg Except.ok (occursIn_between habove hline (by decide) (by decide)))
  · exact hother (by decide)
      (congrArg Except.ok (occursIn_between habove hline (by decide) (by decide)))
  · exact hother (by decide) (congrArg Except.ok (storageLoop_between habove hline))
  · refine hother (by decide) (congrArg Except.ok ?_)
    simp only [hasFloatingVersion, hversion]

/-- A comment between a lock and its function takes the lock away. -/
theorem trigger_between_eq_iff_lost_lock :
    ∃ c : CommentLine, c.line = "# pays out".toList ∧
      let above := "@nonreentrant('lock')".toList
      let below := "def f():\n    send(a, b)\n    self.x = 1".toList
      crosses declarationPart above below = false ∧ crosses declarationPart c.line below = false ∧
        ∃ d ∈ detectors,
          d.trigger (c.between above below) ≠ d.trigger (above ++ '\n' :: below) := by
  let c : CommentLine :=
    { margin := []
      text := " pays out".toList
      margin_blank := rfl
      newline_not_mem_margin := by decide
      newline_not_mem_text := by decide
      hash_not_mem_text := by decide
      keepsHash_text := by decide }
  refine ⟨c, rfl, ?_⟩
  intro above below
  have habove : crosses declarationPart above below = false := by decide
  have hline : crosses declarationPart c.line below = false := by decide
  obtain ⟨d, hd, hid⟩ : ∃ d ∈ detectors, d.id = "vyper-reentrancy" := by decide
  refine ⟨habove, hline, d, hd, fun heq => ?_⟩
  have hnot := (trigger_between_eq_iff c habove hline d hd).mp heq
  exact hnot ⟨hid, by decide +kernel, by decide +kernel⟩

end ContractAudit.Catalog.Vyper
