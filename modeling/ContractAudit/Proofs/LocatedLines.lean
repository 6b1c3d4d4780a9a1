import ContractAudit.Analysis.Run
import ContractAudit.Proofs.LineAlignment
import ContractAudit.Proofs.PatternMeaning
import ContractAudit.Proofs.ReentrantCalls

/-!
# Where detectors look

The lines that a detector reports come from three searches: a matcher tries the lines of the source
one by one, the search for reentrant calls counts lines inside blocks of the bare text, and the
search for functions without visibility turns an offset in the bare text into a line number. Each of
them ends at a line that exists, and each has seen something there.
-/
namespace ContractAudit

/-! ## Lines of a text -/

namespace Text

theorem newline_not_mem_of_mem_lines {t line : Text} (h : line ∈ t.lines) : '\n' ∉ line := by
  induction t generalizing line with
  | nil =>
    obtain rfl : line = [] := by simpa [lines] using h
    exact List.not_mem_nil
  | cons c t ih =>
    by_cases hc : c = '\n'
    · rw [hc, Source.lines_newline_cons] at h
      rcases List.mem_cons.mp h with rfl | h
      · exact List.not_mem_nil
      · exact ih h
    · obtain ⟨first, more, ht, hct⟩ := Source.exists_lines_cons hc t
      rw [ht] at ih
      rw [hct] at h
      rcases List.mem_cons.mp h with rfl | h
      · simp [Ne.symm hc, ih (List.mem_cons_self)]
      · exact ih (List.mem_cons_of_mem _ h)

theorem lines_of_not_mem {line : Text} (h : '\n' ∉ line) : line.lines = [line] := by
  induction line with
  | nil => rfl
  | cons c line ih =>
    simp only [List.mem_cons, not_or] at h
    simp [lines, Ne.symm h.1, ih h.2]

theorem lines_append_newline {line : Text} (h : '\n' ∉ line) (t : Text) :
    (line ++ '\n' :: t).lines = line :: t.lines := by
  induction line with
  | nil => exact Source.lines_newline_cons t
  | cons c line ih =>
    simp only [List.mem_cons, not_or] at h
    simp [lines, Ne.symm h.1, ih h.2]

theorem exists_line_of_append (left : Text) {c : Char} (hc : c ≠ '\n') (right : Text) :
    ∃ line, (left ++ c :: right).lines[left.newlines]? = some line ∧ c ∈ line := by
  induction left with
  | nil =>
    obtain ⟨line, more, -, hct⟩ := Source.exists_lines_cons hc right
    exact ⟨c :: line, by simp [hct, newlines], List.mem_cons_self⟩
  | cons d left ih =>
    obtain ⟨line, hline, hmem⟩ := ih
    by_cases hd : d = '\n'
    · refine ⟨line, ?_, hmem⟩
      rw [hd, List.cons_append, Source.lines_newline_cons]
      simpa [newlines] using hline
    · obtain ⟨first, more, ht, hdt⟩ := Source.exists_lines_cons hd (left ++ c :: right)
      have hcount : newlines (d :: left) = newlines left := by simp [newlines, hd]
      rw [List.cons_append, hdt, hcount]
      rw [ht] at hline
      cases hleft : newlines left with
      | zero =>
        rw [hleft] at hline
        obtain rfl : first = line := by simpa using hline
        exact ⟨d :: first, by simp, List.mem_cons_of_mem d hmem⟩
      | succ k =>
        rw [hleft] at hline
        exact ⟨line, by simpa using hline, hmem⟩

end Text

/-! ## Blocks -/

namespace Source

theorem length_lines_bare (code : Text) : (bare code).lines.length = code.lines.length :=
  (thinned_bare code).lines_sublist.length_eq

theorem blockLines_prefix (opened : Bool) (depth : Int) (lines : List Text) :
    blockLines opened depth lines <+: lines := by
  induction lines generalizing opened depth with
  | nil => exact List.prefix_refl _
  | cons line rest ih =>
    simp only [blockLines]
    split
    · exact (List.prefix_cons_inj line).mpr List.nil_prefix
    · exact (List.prefix_cons_inj line).mpr (ih _ _)

theorem exists_start_of_mem_blocksFrom {header : Pattern} {number : Nat} {lines : List Text}
    {b : Block} (h : b ∈ blocksFrom header number lines) :
    ∃ i, b.start = number + i ∧ b.lines <+: lines.drop i := by
  induction lines generalizing number with
  | nil => simp [blocksFrom] at h
  | cons line rest ih =>
    have hlater (h : b ∈ blocksFrom header (number + 1) rest) :
        ∃ i, b.start = number + i ∧ b.lines <+: (line :: rest).drop i := by
      obtain ⟨i, hstart, hlines⟩ := ih h
      exact ⟨i + 1, by omega, by simpa using hlines⟩
    rw [blocksFrom] at h
    split at h
    · rcases List.mem_cons.mp h with rfl | h
      · exact ⟨0, rfl, blockLines_prefix _ _ _⟩
      · exact hlater h
    · exact hlater h

end Source

/-! ## The locators -/

namespace Catalog.Solidity

open Source

theorem exists_transfer_of_mem_reentrantCalls {code : Text} {n : Nat}
    (h : n ∈ reentrantCalls code) :
    ∃ i line, n = i + 1 ∧ (bare code).lines[i]? = some line ∧
      externalTransfer.occursIn line = true := by
  obtain ⟨b, hb, hn⟩ := List.mem_flatMap.mp h
  obtain ⟨start, hstart, hlines⟩ := exists_start_of_mem_blocksFrom hb
  rw [reentrantCallsOf_eq] at hn
  split at hn
  · simp at hn
  obtain ⟨i, hi, rfl⟩ := List.mem_map.mp hn
  obtain ⟨-, j, hpair⟩ := of_decide_eq_true (List.mem_filter.mp hi).2
  obtain ⟨line, hline, htransfer⟩ := hpair.transfer
  refine ⟨start + i, line, by omega, ?_, htransfer⟩
  rw [← List.getElem?_drop]
  obtain ⟨more, hmore⟩ := hlines
  obtain ⟨hlt, -⟩ := List.getElem?_eq_some_iff.mp hline
  rw [← hmore, List.getElem?_append_left hlt, hline]

theorem exists_line_of_mem_unscopedFunctions {code : Text} {n : Nat}
    (h : n ∈ unscopedFunctions code) :
    ∃ i line, n = i + 1 ∧ (bare code).lines[i]? = some line ∧ 'f' ∈ line := by
  obtain ⟨m, hm, rfl⟩ := List.mem_map.mp h
  obtain ⟨left, s, hsplit, hoffset, hreach⟩ :=
    Pattern.exists_left_of_mem_findAll (List.mem_filter.mp hm).1
  obtain ⟨-, ⟨-, rfl⟩, -, ⟨rest, hopening, -⟩, -⟩ := hreach
  replace hopening : m.opening = 'f' :: ("unction".toList ++ rest) := hopening
  obtain ⟨line, hline, hmem⟩ :=
    Text.exists_line_of_append left (c := 'f') (by decide) ("unction".toList ++ rest)
  refine ⟨left.newlines, line, ?_, ?_, hmem⟩
  · rw [lineNumberAt, hsplit, hoffset, List.take_left]
  · rw [hsplit, hopening, hline]

end Catalog.Solidity

/-! ## The catalogs -/

namespace LineMatcher

/-- The matcher never fails, and a line that it accepts is not all white space. -/
def inked : LineMatcher → Bool
  | literal text => text.any fun c => !Text.isBlank c
  | pattern p => p.inked
  | custom _ => false

theorem fault?_eq_none {matcher : LineMatcher} (h : matcher.inked = true) (line : Text) :
    matcher.fault? line = none := by
  cases matcher with
  | literal text => rfl
  | pattern p => rfl
  | custom test => simp [inked] at h

theorem subset_of_holds {piece t : Text} (h : Text.holds piece t = true) : piece ⊆ t := by
  induction t with
  | nil =>
    obtain rfl : piece = [] := by simpa [Text.holds] using h
    exact List.Subset.refl _
  | cons c t ih =>
    rcases Bool.or_eq_true_iff.mp h with h | h
    · exact (List.isPrefixOf_iff_prefix.mp h).subset
    · exact fun d hd => List.mem_cons_of_mem c (ih h hd)

theorem exists_ink_of_accepts {matcher : LineMatcher} (h : matcher.inked = true) {line : Text}
    (haccepts : matcher.accepts line = true) : ∃ c ∈ line, Text.isBlank c = false := by
  cases matcher with
  | literal text =>
    obtain ⟨c, hc, hink⟩ := List.any_eq_true.mp h
    exact ⟨c, subset_of_holds haccepts hc, by simpa using hink⟩
  | pattern p => exact Pattern.exists_ink_of_occursIn h haccepts
  | custom test => simp [inked] at h

end LineMatcher

theorem Catalog.matcher_inked (dialect : Dialect) :
    ∀ d ∈ Catalog.of dialect, d.matcher.inked = true := by
  cases dialect <;> decide +kernel

theorem Catalog.locate_cases (dialect : Dialect) : ∀ d ∈ Catalog.of dialect,
    d.locate = none ∨ d.locate = some (Solidity.located Solidity.reentrantCalls) ∨
      d.locate = some (Solidity.located Solidity.unscopedFunctions) := by
  cases dialect
  all_goals
    simp only [Catalog.of, Solidity.detectors, Cairo.detectors, Vyper.detectors,
      List.forall_mem_cons, true_or, or_true, true_and]
    simp

namespace Analysis

theorem matcherFault?_eq_none {matcher : LineMatcher} (h : matcher.inked = true) (hashes : Bool)
    (lines : List Text) : matcherFault? hashes matcher lines = none :=
  List.findSome?_eq_none_iff.mpr fun line _ => matcher.fault?_eq_none h line

theorem evaluate_eq_some_iff {dialect : Dialect} {d : Detector} {code : Text} {located : List Int} :
    evaluate dialect d code = .ok (some located) ↔
      d.trigger code = .ok true ∧ locate dialect d code = .ok located := by
  unfold evaluate
  rcases d.trigger code with fault | _ | _
  · simp [bind, Except.bind]
  · simp [bind, Except.bind, pure, Except.pure]
  · cases locate dialect d code <;> simp [bind, Except.bind, pure, Except.pure]

theorem mem_matchedLines {hashes : Bool} {matcher : LineMatcher} {number : Nat} {lines : List Text}
    {n : Int} (h : n ∈ matchedLines hashes matcher number lines) :
    ∃ i line, n = number + (i : Nat) ∧ lines[i]? = some line ∧
      Source.isCommentLine hashes line = false ∧ matcher.accepts line = true := by
  induction lines generalizing number with
  | nil => simp [matchedLines] at h
  | cons line rest ih =>
    have hlater (h : n ∈ matchedLines hashes matcher (number + 1) rest) :
        ∃ i later, n = number + (i : Nat) ∧ (line :: rest)[i]? = some later ∧
          Source.isCommentLine hashes later = false ∧ matcher.accepts later = true := by
      obtain ⟨i, later, hn, hlater, haccepted⟩ := ih h
      exact ⟨i + 1, later, by omega, hlater, haccepted⟩
    rw [matchedLines] at h
    split at h
    · rename_i haccepted
      simp only [Bool.and_eq_true, Bool.not_eq_true'] at haccepted
      rcases List.mem_cons.mp h with rfl | h
      · exact ⟨0, line, by simp, rfl, haccepted⟩
      · exact hlater h
    · exact hlater h

/-- How a detector comes to report the line at an index, counted from 0: the line as it is written
passes for code and the matcher accepts it, or a locator has seen something in the bare line. -/
inductive Sighting (hashes : Bool) (d : Detector) (code : Text) (i : Nat) : Prop
  | matched {line : Text} : d.locate = none → code.lines[i]? = some line →
      Source.isCommentLine hashes line = false → d.matcher.accepts line = true →
      Sighting hashes d code i
  | located {line : Text} : d.locate ≠ none → (Source.bare code).lines[i]? = some line →
      (∃ c ∈ line, Text.isBlank c = false) → Sighting hashes d code i

theorem Sighting.lt {hashes : Bool} {d : Detector} {code : Text} {i : Nat}
    (h : Sighting hashes d code i) : i < code.lines.length := by
  cases h with
  | matched _ hline => exact (List.getElem?_eq_some_iff.mp hline).1
  | located _ hline =>
    rw [← Source.length_lines_bare]
    exact (List.getElem?_eq_some_iff.mp hline).1

theorem sighting_of_evaluate {dialect : Dialect} {d : Detector} (hd : d ∈ Catalog.of dialect)
    {code : Text} {located : List Int} (h : evaluate dialect d code = .ok (some located)) {n : Int}
    (hn : n ∈ located) :
    ∃ i : Nat, n = i + 1 ∧ Sighting (hashComments dialect) d code i := by
  obtain ⟨-, hlocate⟩ := evaluate_eq_some_iff.mp h
  unfold locate at hlocate
  rcases Catalog.locate_cases dialect d hd with hd | hd | hd
  · rw [hd] at hlocate
    simp only at hlocate
    split at hlocate
    · simp at hlocate
    · obtain rfl := Except.ok.inj hlocate
      obtain ⟨i, line, rfl, hline, hcode, haccepted⟩ := mem_matchedLines hn
      exact ⟨i, by omega, .matched hd hline hcode haccepted⟩
  · rw [hd] at hlocate
    obtain rfl := Except.ok.inj hlocate
    obtain ⟨m, hm, rfl⟩ := List.mem_map.mp hn
    obtain ⟨i, line, rfl, hline, htransfer⟩ :=
      Catalog.Solidity.exists_transfer_of_mem_reentrantCalls hm
    exact ⟨i, rfl, .located (by simp [hd]) hline
      (Pattern.exists_ink_of_occursIn (by decide +kernel) htransfer)⟩
  · rw [hd] at hlocate
    obtain rfl := Except.ok.inj hlocate
    obtain ⟨m, hm, rfl⟩ := List.mem_map.mp hn
    obtain ⟨i, line, rfl, hline, hmem⟩ := Catalog.Solidity.exists_line_of_mem_unscopedFunctions hm
    exact ⟨i, rfl, .located (by simp [hd]) hline ⟨'f', hmem, by decide⟩⟩

theorem mem_placements {located : List Int} {n : Int} {confidence : Confidence}
    (h : (n, confidence) ∈ placements located) :
    n = 0 ∧ confidence = .medium ∨ n ∈ located ∧ confidence = .high := by
  unfold placements at h
  split at h
  · exact .inl (by simpa using h)
  · obtain ⟨m, hm, heq⟩ := List.mem_map.mp h
    obtain ⟨rfl, rfl⟩ := Prod.mk.inj heq
    exact .inr ⟨List.mem_of_mem_take hm, rfl⟩

theorem cases_of_mem_findingsOf {dialect : Dialect} {d : Detector} (hd : d ∈ Catalog.of dialect)
    {extracted : Bool} {code : Text} {f : Finding} (hf : f ∈ findingsOf dialect extracted code d) :
    f = buildFinding d code.lines 0 (settle extracted .medium) ∨
      ∃ i : Nat, Sighting (hashComments dialect) d code i ∧
        f = buildFinding d code.lines (i + 1) (settle extracted .high) := by
  unfold findingsOf at hf
  split at hf
  · rename_i located hevaluate
    obtain ⟨⟨n, confidence⟩, hplace, rfl⟩ := List.mem_map.mp hf
    rcases mem_placements hplace with ⟨rfl, rfl⟩ | ⟨hn, rfl⟩
    · exact .inl rfl
    · obtain ⟨i, rfl, hseen⟩ := sighting_of_evaluate hd hevaluate hn
      exact .inr ⟨i, hseen, rfl⟩
  · simp at hf

end Analysis

end ContractAudit
