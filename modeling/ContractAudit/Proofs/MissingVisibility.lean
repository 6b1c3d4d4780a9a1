import ContractAudit.Proofs.BlockLocality
import ContractAudit.Proofs.LeftmostMatches

/-!
# Where functions without a visibility are declared

A declaration may go over several lines, so it is found by a search through the whole source without
its comments, and the number to report is that of the line on which the keyword stands. Since
comments leave their newlines, this is a line of the source as well.
-/
namespace ContractAudit

/-! ## Words -/

namespace Pattern

def HasWord (t word : Text) : Prop :=
  ∃ left right, t = left ++ (word ++ right) ∧ isWordAt left.getLast? = false ∧
    isWordAt right.head? = false

theorem reaches_anyOf_iff {ps : List Pattern} {s s' : Place} :
    (anyOf ps).Reaches s s' ↔ ∃ p ∈ ps, p.Reaches s s' := by
  induction ps with
  | nil => simp [anyOf, Reaches]
  | cons p ps ih =>
    cases ps with
    | nil => simp [anyOf]
    | cons q ps =>
      have hcons : anyOf (p :: q :: ps) = alt p (anyOf (q :: ps)) := rfl
      rw [hcons, Reaches, ih]
      simp only [List.exists_mem_cons_iff]

theorem reaches_anyText_iff {words : List String} {s s' : Place} :
    (anyText words).Reaches s s' ↔ ∃ word ∈ words, ∃ rest, s.rest = word.toList ++ rest ∧
      s' = s.after word.toList rest := by
  rw [anyText, reaches_anyOf_iff]
  simp [text, Reaches]

theorem isWordAt_or {c : Option Char} (hc : isWordAt c = true) (d : Option Char) :
    isWordAt (c.or d) = true := by
  cases c with
  | none => simp [isWordAt] at hc
  | some c => exact hc

section Keyword

variable {words : List String} (hwords : ∀ word ∈ words,
  isWordAt word.toList.head? = true ∧ isWordAt word.toList.getLast? = true)
include hwords

theorem reaches_keyword_iff {before : Option Char} {t : Text} :
    (∃ s, (keyword words).Reaches ⟨before, t, []⟩ s) ↔
      isWordAt before = false ∧ ∃ word ∈ words, ∃ right, t = word.toList ++ right ∧
        isWordAt right.head? = false := by
  have hopens {word : String} (hword : word ∈ words) (right : Text) :
      Place.isWordEdge ⟨before, word.toList ++ right, []⟩ = !isWordAt before := by
    rw [Place.isWordEdge, List.head?_append, isWordAt_or (hwords word hword).1]
    cases isWordAt before <;> rfl
  have hcloses {word : String} (hword : word ∈ words) (right : Text) :
      Place.isWordEdge (Place.after ⟨before, word.toList ++ right, []⟩ word.toList right) =
        !isWordAt right.head? := by
    rw [Place.isWordEdge, Place.after, isWordAt_or (hwords word hword).2]
    cases isWordAt right.head? <;> rfl
  constructor
  · rintro ⟨-, -, ⟨hedge, rfl⟩, m, htext, hedge', -⟩
    obtain ⟨word, hword, right, ht, rfl⟩ := reaches_anyText_iff.mp htext
    obtain rfl : t = word.toList ++ right := ht
    rw [hopens hword] at hedge
    rw [hcloses hword] at hedge'
    exact ⟨by simpa using hedge, word, hword, right, rfl, by simpa using hedge'⟩
  · rintro ⟨hbefore, word, hword, right, rfl, hright⟩
    refine ⟨_, _, ⟨?_, rfl⟩, _, reaches_anyText_iff.mpr ⟨word, hword, right, rfl, rfl⟩, ?_, rfl⟩
    · simp [hopens hword, hbefore]
    · simp [hcloses hword, hright]

theorem occursIn_keyword_iff {t : Text} :
    (keyword words).occursIn t = true ↔ ∃ word ∈ words, HasWord t word.toList := by
  rw [occursIn_iff]
  constructor
  · rintro ⟨left, right, s, rfl, hs⟩
    obtain ⟨hleft, word, hword, rest, rfl, hrest⟩ := (reaches_keyword_iff hwords).mp ⟨s, hs⟩
    exact ⟨word, hword, left, rest, rfl, hleft, hrest⟩
  · rintro ⟨word, hword, left, right, rfl, hleft, hright⟩
    obtain ⟨s, hs⟩ := (reaches_keyword_iff hwords).mpr ⟨hleft, word, hword, right, rfl, hright⟩
    exact ⟨left, word.toList ++ right, s, rfl, hs⟩

end Keyword

end Pattern

/-! ## Lines -/

namespace Text

theorem exists_column (left : Text) :
    ∃ upper column, left = upper ++ column ∧ (upper = [] ∨ ∃ above, upper = above ++ ['\n']) ∧
      '\n' ∉ column := by
  induction left using List.reverseRecOn with
  | nil => exact ⟨[], [], rfl, .inl rfl, List.not_mem_nil⟩
  | append_singleton left c ih =>
    by_cases hc : c = '\n'
    · exact ⟨left ++ [c], [], by simp, .inr ⟨left, by rw [hc]⟩, List.not_mem_nil⟩
    · obtain ⟨upper, column, rfl, hupper, hcolumn⟩ := ih
      refine ⟨upper, column ++ [c], by simp, hupper, ?_⟩
      simp [hcolumn, Ne.symm hc]

theorem length_lines (t : Text) : t.lines.length = t.newlines + 1 := by
  induction t with
  | nil => rfl
  | cons c t ih =>
    by_cases hc : c = '\n'
    · rw [hc, Source.lines_newline_cons, List.length_cons, ih]
      simp [newlines]
    · obtain ⟨line, more, ht, hct⟩ := Source.exists_lines_cons hc t
      rw [hct, List.length_cons, ← List.length_cons (a := line), ← ht, ih]
      simp [newlines, hc]

theorem firstLine_append {t : Text} (ht : '\n' ∉ t) (rest : Text) :
    Source.firstLine (t ++ rest) = t ++ Source.firstLine rest := by
  apply List.takeWhile_append_of_pos
  intro c hc
  simpa using fun heq : c = '\n' => ht (heq ▸ hc)

theorem exists_column_line (left right : Text) :
    ∃ column, column <:+ left ∧
      (left ++ right).lines[left.newlines]? = some (column ++ Source.firstLine right) := by
  obtain ⟨upper, column, rfl, hupper, hcolumn⟩ := exists_column left
  have hcount : newlines column = 0 := List.count_eq_zero.mpr hcolumn
  have hfirst : (column ++ right).lines[0]? = some (column ++ Source.firstLine right) := by
    rw [Source.getElem?_zero_lines, firstLine_append hcolumn]
  refine ⟨column, List.suffix_append upper column, ?_⟩
  rw [List.append_assoc, ← hfirst]
  rcases hupper with rfl | ⟨above, rfl⟩
  · simp [hcount]
  · have hnewlines : newlines (above ++ ['\n'] ++ column) = above.lines.length := by
      rw [length_lines]
      simp only [newlines, List.count_append] at hcount ⊢
      simp [hcount]
    rw [hnewlines, List.append_assoc, List.singleton_append, lines_append_newline_cons,
      List.getElem?_append_right (Nat.le_refl _), Nat.sub_self]

end Text

/-! ## Declarations -/

namespace Catalog.Solidity

open Pattern Source

def NamesVisibility (t : Text) : Prop :=
  ∃ word ∈ ["public", "private", "internal", "external"], HasWord t word.toList

theorem visibility_occursIn_iff {t : Text} : visibility.occursIn t = true ↔ NamesVisibility t :=
  occursIn_keyword_iff (by decide)

instance (t : Text) : Decidable (NamesVisibility t) :=
  decidable_of_iff _ visibility_occursIn_iff

/-- The declaration that `m` has found begins on line `n`: as many newlines stand before it as there
are lines above, and its keyword is on that line, behind what stands there before the match. -/
structure BeginsOn (code : Text) (m : Match) (n : Nat) : Prop where
  one_le : 1 ≤ n
  le : n ≤ code.lines.length
  newlines : n - 1 = Text.newlines ((bare code).take m.offset)
  line : ∃ column rest, column <:+ (bare code).take m.offset ∧
    (bare code).lines[n - 1]? = some (column ++ ("function".toList ++ rest))

theorem beginsOn_of_mem {code : Text} {m : Match} (hm : m ∈ signature.findAll (bare code)) :
    BeginsOn code m (lineNumberAt (bare code) m.offset) := by
  obtain ⟨left, s, hsplit, hoffset, hreach⟩ := exists_left_of_mem_findAll hm
  obtain ⟨-, ⟨-, rfl⟩, -, ⟨rest, hopening, -⟩, -⟩ := hreach
  replace hopening : m.opening = "function".toList ++ rest := hopening
  have hleft : (bare code).take m.offset = left := by
    rw [hsplit, hoffset, List.take_left]
  have hfirst : firstLine m.opening = "function".toList ++ firstLine rest := by
    rw [hopening, Text.firstLine_append (by decide)]
  obtain ⟨column, hcolumn, hline⟩ := Text.exists_column_line left m.opening
  rw [← hsplit, hfirst] at hline
  have hlt := (List.getElem?_eq_some_iff.mp hline).1
  rw [length_lines_bare] at hlt
  constructor
  · exact Nat.le_add_left 1 _
  · rw [lineNumberAt, hleft]
    exact hlt
  · rfl
  · rw [lineNumberAt, hleft]
    exact ⟨column, firstLine rest, hcolumn, hline⟩

theorem lineNumberAt_le {t : Text} {i j : Nat} (h : i ≤ j) :
    lineNumberAt t i ≤ lineNumberAt t j := by
  have htake : t.take i <+: t.take j := List.take_prefix_take_left h
  exact Nat.add_le_add_right (htake.sublist.count_le '\n') 1

theorem unscopedFunctions_eq (code : Text) :
    unscopedFunctions code =
      ((signature.findAll (bare code)).filter fun m => ¬ NamesVisibility m.text).map fun m =>
        lineNumberAt (bare code) m.offset := by
  have htest (m : Match) : (!visibility.occursIn m.text) = decide (¬ NamesVisibility m.text) := by
    simp [← visibility_occursIn_iff]
  simp only [unscopedFunctions, htest]

/-- The lines reported for a missing visibility are those on which the leftmost signatures that name
none begin, one for each and in order, and the detector fires just when there are any. -/
theorem unscopedFunctions_exact (code : Text) :
    ∃ found, (∀ candidates, LeftmostMatches signature (bare code) candidates ↔ candidates = found) ∧
      List.Forall₂ (BeginsOn code) (found.filter fun m => ¬ NamesVisibility m.text)
        (unscopedFunctions code) ∧
      (unscopedFunctions code).Pairwise (· ≤ ·) ∧
      ∃ d ∈ Catalog.of .solidity, d.id = "missing-visibility" ∧
        (Analysis.fires .solidity code d = true ↔ unscopedFunctions code ≠ []) := by
  refine ⟨signature.findAll (bare code), fun _ => leftmostMatches_iff, ?_, ?_, ?_⟩
  · rw [unscopedFunctions_eq, List.forall₂_map_right_iff, List.forall₂_same]
    intro m hm
    exact beginsOn_of_mem (List.mem_of_mem_filter hm)
  · rw [unscopedFunctions_eq, List.pairwise_map]
    have happart := (leftmostMatches_findAll signature (bare code)).apart
    exact (happart.filter _).imp fun h => lineNumberAt_le (Nat.le_of_lt h.1)
  · obtain ⟨d, hd, hid⟩ : ∃ d ∈ Catalog.of .solidity, d.id = "missing-visibility" := by decide
    have htrigger : d.trigger = .when fun code => !(unscopedFunctions code).isEmpty :=
      Analysis.trigger_of_id rfl hd hid
    refine ⟨d, hd, hid, ?_⟩
    rw [Analysis.fires_iff_trigger hd, htrigger, Trigger.when]
    simp

/-- A comment above and a signature over several lines. -/
example : unscopedFunctions "/* a\n*/ function f(\n  uint x\n) payable {}".toList = [2] := by
  decide +kernel

end Catalog.Solidity

end ContractAudit
