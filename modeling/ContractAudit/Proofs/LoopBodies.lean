import ContractAudit.Proofs.BlockDetectors
import ContractAudit.Proofs.BlockExtent

/-!
# Loops with braces on lines of their own

If the brace of a loop stands below its header, the scan has to go on from the header to the brace.
It goes on from `while (x)`, and then takes the body as a whole, however braces are nested in it. It
does not go on from a header with a semicolon on it, which it takes for a declaration without a
body. That is every `for` with its three parts, so what such a loop does is not seen.
-/
namespace ContractAudit

namespace Text

theorem count_dropWhile {blank : Char → Bool} {c : Char} (hc : blank c = false) (t : Text) :
    (t.dropWhile blank).count c = t.count c := by
  induction t with
  | nil => rfl
  | cons d t ih =>
    by_cases hd : blank d = true
    · have hne : d ≠ c := by
        rintro rfl
        rw [hc] at hd
        exact Bool.false_ne_true hd
      rw [List.dropWhile_cons_of_pos hd, ih, List.count_cons_of_ne hne]
    · rw [List.dropWhile_cons_of_neg hd]

theorem count_of_trim_eq {c : Char} (hc : isBlank c = false) {t u : Text} (h : t.trim = u) :
    t.count c = u.count c := by
  rw [← h, trim, trimEnd, List.count_reverse, count_dropWhile hc, List.count_reverse, trimStart,
    count_dropWhile hc]

theorem isInfix_unlines {line : Text} {lines : List Text} (h : line ∈ lines) :
    line <:+: unlines lines := by
  induction lines with
  | nil => simp at h
  | cons first more ih =>
    cases more with
    | nil =>
      obtain rfl : line = first := by simpa using h
      exact List.infix_refl _
    | cons second more =>
      rcases List.mem_cons.mp h with rfl | hmore
      · exact (List.prefix_append _ _).isInfix
      · exact (ih hmore).trans ((List.suffix_cons _ _).trans (List.suffix_append _ _)).isInfix

end Text

namespace Source

structure Nested (body : List Text) : Prop where
  nonneg : ∀ part, part <+: body → 0 ≤ braceBalance part.flatten
  settled : braceBalance body.flatten = 0

instance (body : List Text) : Decidable (Nested body) :=
  decidable_of_iff ((∀ part ∈ body.inits, 0 ≤ braceBalance part.flatten) ∧
      braceBalance body.flatten = 0)
    ⟨fun h => ⟨fun part hpart => h.1 part ((List.mem_inits part body).mpr hpart), h.2⟩,
      fun h => ⟨fun part hpart => h.nonneg part ((List.mem_inits part body).mp hpart), h.settled⟩⟩

/-- A loop with a header that opens no brace, a line with the opening brace, a body and a line with
the closing brace. -/
structure SpreadLoop where
  head : Text
  opening : Text
  body : List Text
  closing : Text
  isHeader : loopHeader.occursIn head = true
  unbraced : '{' ∉ head ∧ '}' ∉ head
  opens : opening.trim = ['{']
  nested : Nested body
  closes : closing.trim = ['}']

namespace SpreadLoop

def lines (l : SpreadLoop) : List Text :=
  l.head :: l.opening :: (l.body ++ [l.closing])

theorem count_opening (l : SpreadLoop) :
    l.opening.count '{' = 1 ∧ l.opening.count '}' = 0 := by
  rw [Text.count_of_trim_eq (by decide) l.opens, Text.count_of_trim_eq (by decide) l.opens]
  decide

theorem count_closing (l : SpreadLoop) :
    l.closing.count '{' = 0 ∧ l.closing.count '}' = 1 := by
  rw [Text.count_of_trim_eq (by decide) l.closes, Text.count_of_trim_eq (by decide) l.closes]
  decide

end SpreadLoop

theorem blockLines_append_of_pos {depth : Int} {body : List Text}
    (h : ∀ part, part <+: body → 0 < depth + braceBalance part.flatten) (rest : List Text) :
    blockLines true depth (body ++ rest) =
      body ++ blockLines true (depth + braceBalance body.flatten) rest := by
  induction body generalizing depth with
  | nil => simp [braceBalance]
  | cons line body ih =>
    have hbalance (part : List Text) : depth + braceBalance (line :: part).flatten =
        depth + braceBalance line + braceBalance part.flatten := by
      rw [List.flatten_cons, braceBalance_append]
      omega
    have hline : ¬ depth + braceBalance line ≤ 0 := by
      have := h [line] (by simp)
      rw [List.flatten_singleton] at this
      omega
    have hbody : ∀ part, part <+: body →
        0 < depth + braceBalance line + braceBalance part.flatten := by
      intro part hpart
      rw [← hbalance]
      exact h (line :: part) ((List.prefix_cons_inj line).mpr hpart)
    rw [List.cons_append, blockLines_cons, Bool.true_or, if_neg (by simpa [endsBlock] using hline),
      ih hbody, hbalance, List.cons_append]

theorem blockLines_spreadLoop (l : SpreadLoop) (below : List Text) :
    blockLines false 0 (l.lines ++ below) = if ';' ∈ l.head then [l.head] else l.lines := by
  obtain ⟨hopen, hclose⟩ := l.count_opening
  obtain ⟨hopen', hclose'⟩ := l.count_closing
  have hhead : (false || l.head.contains '{') = false := by simpa using l.unbraced.1
  have hheadDepth : 0 + braceBalance l.head = 0 := by
    rw [braceBalance, List.count_eq_zero_of_not_mem l.unbraced.1,
      List.count_eq_zero_of_not_mem l.unbraced.2]
    rfl
  have hopening : (false || l.opening.contains '{') = true := by
    simpa using List.count_pos_iff.mp (by omega)
  have hopeningDepth : 0 + braceBalance l.opening = 1 := by
    rw [braceBalance, hopen, hclose]
    rfl
  have hclosingDepth : 1 + braceBalance l.closing = 0 := by
    rw [braceBalance, hopen', hclose']
    rfl
  -- One brace is open below the opening line and below every line of the body.
  have hbody : ∀ part, part <+: l.body → 0 < 1 + braceBalance part.flatten := by
    intro part hpart
    have := l.nested.nonneg part hpart
    omega
  have hblock : blockLines true 1 (l.body ++ l.closing :: below) = l.body ++ [l.closing] := by
    rw [blockLines_append_of_pos hbody, l.nested.settled, Int.add_zero, blockLines_cons,
      hclosingDepth, Bool.true_or, if_pos (by simp [endsBlock])]
  have hlines : l.lines ++ below = l.head :: l.opening :: (l.body ++ l.closing :: below) := by
    simp [SpreadLoop.lines]
  rw [hlines, blockLines_cons, hhead, hheadDepth]
  by_cases hsemicolon : ';' ∈ l.head
  · rw [if_pos (by simpa [endsBlock] using hsemicolon), if_pos hsemicolon]
  · rw [if_neg (by simpa [endsBlock] using hsemicolon), if_neg hsemicolon, blockLines_cons,
      hopening, hopeningDepth, if_neg (by simp [endsBlock]), hblock]
    rfl

theorem mem_loopBlocks_spreadLoop {code : Text} {l : SpreadLoop} {above below : List Text}
    (hlines : (bare code).lines = above ++ (l.lines ++ below)) {b : Block} :
    b ∈ loopBlocks code ∧ b.start = above.length + 1 ↔
      b = .ofLines (above.length + 1) (if ';' ∈ l.head then [l.head] else l.lines) := by
  have hdrop : (bare code).lines.drop above.length = l.lines ++ below := by
    rw [hlines, List.drop_left]
  have hhead : (bare code).lines[above.length]? = some l.head := by
    rw [hlines, List.getElem?_append_right (Nat.le_refl _), Nat.sub_self]
    rfl
  rw [loopBlocks, mem_blocksFrom_iff, ← blockLines_spreadLoop l below, ← hdrop]
  constructor
  · rintro ⟨⟨i, -, rfl⟩, hstart⟩
    obtain rfl : i = above.length := by
      have hstart : 1 + i = above.length + 1 := hstart
      omega
    rw [Nat.add_comm]
  · rintro rfl
    refine ⟨⟨above.length, ⟨l.head, hhead, l.isHeader⟩, ?_⟩, rfl⟩
    rw [Nat.add_comm]

end Source

namespace Analysis

open Source Catalog.Solidity

theorem loopCall_body_spreadLoop_iff {l : SpreadLoop} {b : Block}
    (hlines : b.lines = if ';' ∈ l.head then [l.head] else l.lines)
    (hcall : ∃ line ∈ l.body, loopCall.occursIn line = true) :
    loopCall.occursIn b.body = true ↔ ';' ∉ l.head ∨ loopCall.occursIn l.head = true := by
  obtain ⟨line, hline, hcall⟩ := hcall
  by_cases hsemicolon : ';' ∈ l.head
  · have hbody : b.body = l.head := by
      rw [Block.body, hlines, if_pos hsemicolon]
      rfl
    rw [hbody]
    exact (or_iff_right (not_not.mpr hsemicolon)).symm
  · have hmember : line ∈ b.lines := by
      rw [hlines, if_neg hsemicolon]
      simp [SpreadLoop.lines, hline]
    exact iff_of_true (Pattern.occursIn_mono rfl (Text.isInfix_unlines hmember) hcall)
      (.inl hsemicolon)

theorem fires_callInLoop_iff {d : Detector} (hd : d ∈ Catalog.of .solidity)
    (hid : d.id = "call-in-loop") (code : Text) :
    fires .solidity code d = true ↔ ∃ b ∈ loopBlocks code, loopCall.occursIn b.body = true := by
  obtain ⟨htrigger, -, -⟩ := BlockTest.detector_eq (t := .callInLoop) (by simp) d hd hid
  rw [fires_iff_trigger hd, htrigger, Trigger.when, Except.ok.injEq, BlockTest.holds,
    List.any_eq_true]
  rfl

/-- A loop with its braces on lines of their own makes up a block just when there is no semicolon on
its header, and otherwise the header alone is the block. So a call in its body is reported unless
there is a semicolon on the header, no call is made on the header itself, and no other loop makes a
call. -/
theorem spreadLoop_covered_iff (code : Text) (l : SpreadLoop) (above below : List Text)
    (hlines : (bare code).lines = above ++ (l.lines ++ below)) :
    (∃ b ∈ loopBlocks code, b.start = above.length + 1 ∧
        b.lines = if ';' ∈ l.head then [l.head] else l.lines) ∧
      ((∃ b ∈ loopBlocks code, b.start = above.length + 1 ∧ l.lines <+: b.lines) ↔ ';' ∉ l.head) ∧
      ∃ d ∈ Catalog.of .solidity, d.id = "call-in-loop" ∧
        ((∃ line ∈ l.body, loopCall.occursIn line = true) →
          (fires .solidity code d = true ↔
            ';' ∉ l.head ∨ loopCall.occursIn l.head = true ∨
              ∃ b ∈ loopBlocks code, b.start ≠ above.length + 1 ∧
                loopCall.occursIn b.body = true)) := by
  obtain ⟨own, hown, hblock⟩ : ∃ own : Block,
      (∀ b, b ∈ loopBlocks code ∧ b.start = above.length + 1 ↔ b = own) ∧
        own.lines = if ';' ∈ l.head then [l.head] else l.lines :=
    ⟨_, fun b => mem_loopBlocks_spreadLoop hlines, rfl⟩
  obtain ⟨hmem, hstart⟩ := (hown own).mpr rfl
  refine ⟨⟨own, hmem, hstart, hblock⟩, ?_, ?_⟩
  · constructor
    · rintro ⟨b, hb, hbstart, hcovers⟩ hsemicolon
      obtain rfl := (hown b).mp ⟨hb, hbstart⟩
      rw [hblock, if_pos hsemicolon] at hcovers
      have hlength := hcovers.length_le
      simp [SpreadLoop.lines] at hlength
    · intro hsemicolon
      refine ⟨own, hmem, hstart, ?_⟩
      rw [hblock, if_neg hsemicolon]
  · obtain ⟨d, hd, hid⟩ := BlockTest.exists_detector .callInLoop (by simp)
    refine ⟨d, hd, hid, ?_⟩
    intro hcall
    rw [fires_callInLoop_iff hd hid, ← or_assoc, ← loopCall_body_spreadLoop_iff hblock hcall]
    constructor
    · rintro ⟨b, hb, hcalls⟩
      by_cases hbstart : b.start = above.length + 1
      · obtain rfl := (hown b).mp ⟨hb, hbstart⟩
        exact .inl hcalls
      · exact .inr ⟨b, hb, hbstart, hcalls⟩
    · rintro (hcalls | ⟨b, hb, -, hcalls⟩)
      · exact ⟨own, hmem, hcalls⟩
      · exact ⟨b, hb, hcalls⟩

/-- The call in the body of a loop that counts is not seen. -/
theorem spreadLoop_covered_iff_counting :
    let code := "for (uint i = 0; i < n; i++)\n\x7b\n a.send(1);\n\x7d".toList
    ∃ l : SpreadLoop, (bare code).lines = l.lines ∧
      (∃ line ∈ l.body, loopCall.occursIn line = true) ∧
      (¬ ∃ b ∈ loopBlocks code, b.start = 1 ∧ l.lines <+: b.lines) ∧
      ∃ d ∈ Catalog.of .solidity, d.id = "call-in-loop" ∧ fires .solidity code d = false := by
  intro code
  let l : SpreadLoop :=
    { head := "for (uint i = 0; i < n; i++)".toList
      opening := ['{']
      body := [" a.send(1);".toList]
      closing := ['}']
      isHeader := by decide
      unbraced := by decide
      opens := by decide
      nested := by decide
      closes := by decide }
  have hlines : (bare code).lines = [] ++ (l.lines ++ []) := by decide
  have hcall : ∃ line ∈ l.body, loopCall.occursIn line = true := by decide
  have hsemicolon : ';' ∈ l.head := by decide
  have hother : ¬ ∃ b ∈ loopBlocks code, b.start ≠ 1 ∧ loopCall.occursIn b.body = true := by decide
  obtain ⟨-, hcovered, d, hd, hid, hfires⟩ := spreadLoop_covered_iff code l [] [] hlines
  refine ⟨l, by simpa using hlines, hcall, fun h => hcovered.mp h hsemicolon, d, hd, hid, ?_⟩
  rw [Bool.eq_false_iff]
  intro h
  rcases (hfires hcall).mp h with h | h | h
  · exact h hsemicolon
  · exact absurd h (by decide)
  · exact hother h

end Analysis

end ContractAudit
