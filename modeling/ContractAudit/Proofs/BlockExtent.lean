import ContractAudit.Proofs.BlockLocality
import ContractAudit.Proofs.Placement
import Mathlib.Order.Bounds.Basic

/-!
# Where blocks begin and end

A block starts at every line that looks like a header, whatever blocks stand around it. It ends at
the first line up to which its lines are whole: no brace is opened on them and the last of them has
a semicolon, or a brace is opened and no more are open than closed. If there is no such line, the
block runs to the end of the source.

The scan carries a flag and a surplus of braces from line to line. What it finds is said here
without them, by the fewest lines that are whole.
-/
namespace ContractAudit

namespace Text

def Fewest (whole : List Text → Prop) (lines : List Text) (n : Nat) : Prop :=
  IsLeast {n | 0 < n ∧ n ≤ lines.length ∧ whole (lines.take n)} n

def NeverWhole (whole : List Text → Prop) (lines : List Text) : Prop :=
  ∀ n, 0 < n → n ≤ lines.length → ¬ whole (lines.take n)

section Fewest

variable {whole later : List Text → Prop} {line : Text} {rest : List Text} {n : Nat}

theorem fewest_cons_one (h : whole [line]) : Fewest whole (line :: rest) 1 := by
  refine ⟨⟨Nat.one_pos, by simp, by simpa using h⟩, ?_⟩
  rintro m ⟨hm, -, -⟩
  exact hm

theorem Fewest.cons (hone : ¬ whole [line])
    (hstep : ∀ more, more ≠ [] → (whole (line :: more) ↔ later more))
    (h : Fewest later rest n) : Fewest whole (line :: rest) (n + 1) := by
  obtain ⟨⟨hpos, hle, hwhole⟩, hleast⟩ := h
  have htake {m : Nat} (hm : 0 < m) (hmle : m ≤ rest.length) : rest.take m ≠ [] := by
    rw [ne_eq, List.take_eq_nil_iff]
    rintro (rfl | rfl)
    · omega
    · simp only [List.length_nil] at hmle
      omega
  refine ⟨⟨Nat.succ_pos n, by simpa using hle, ?_⟩, ?_⟩
  · rw [List.take_succ_cons]
    exact (hstep _ (htake hpos hle)).mpr hwhole
  · rintro (_ | _ | m) ⟨hm, hmle, hmwhole⟩
    · omega
    · simp only [Nat.zero_add, List.take_succ_cons, List.take_zero] at hmwhole
      exact absurd hmwhole hone
    · have hmle : m + 1 ≤ rest.length := by simpa using hmle
      rw [List.take_succ_cons] at hmwhole
      have := hleast ⟨Nat.succ_pos m, hmle, (hstep _ (htake (Nat.succ_pos m) hmle)).mp hmwhole⟩
      omega

theorem NeverWhole.cons (hone : ¬ whole [line])
    (hstep : ∀ more, more ≠ [] → (whole (line :: more) ↔ later more))
    (h : NeverWhole later rest) : NeverWhole whole (line :: rest) := by
  rintro (_ | m) hm hmle hwhole
  · omega
  rw [List.take_succ_cons] at hwhole
  by_cases hnil : rest.take m = []
  · rw [hnil] at hwhole
    exact hone hwhole
  · have hmpos : 0 < m := by
      rcases Nat.eq_zero_or_pos m with rfl | hpos
      · simp at hnil
      · exact hpos
    exact h m hmpos (by simpa using hmle) ((hstep _ hnil).mp hwhole)

end Fewest

/-! ## Numbered lines -/

theorem linesBetween_eq (t : Text) (i last : Nat) :
    t.linesBetween (i + 1) last = (t.lines.drop i).take (last - i) := by
  rw [linesBetween, map_filter_zipIdx, List.drop_take]
  rfl

def IsFirstEnd (whole : List Text → Prop) (t : Text) (first last : Nat) : Prop :=
  IsLeast {e | first ≤ e ∧ e ≤ t.lines.length ∧ whole (t.linesBetween first e)} last

def HasNoEnd (whole : List Text → Prop) (t : Text) (first : Nat) : Prop :=
  ∀ e, first ≤ e → e ≤ t.lines.length → ¬ whole (t.linesBetween first e)

variable {whole : List Text → Prop} {t : Text} {i n : Nat}

theorem Fewest.isFirstEnd (h : Fewest whole (t.lines.drop i) n) :
    IsFirstEnd whole t (i + 1) (i + n) := by
  obtain ⟨⟨hpos, hle, hwhole⟩, hleast⟩ := h
  rw [List.length_drop] at hle
  refine ⟨⟨by omega, by omega, ?_⟩, ?_⟩
  · rw [linesBetween_eq, Nat.add_sub_cancel_left]
    exact hwhole
  · rintro e ⟨hfirst, hlast, hewhole⟩
    rw [linesBetween_eq] at hewhole
    have := hleast ⟨by omega, by rw [List.length_drop]; omega, hewhole⟩
    omega

theorem NeverWhole.hasNoEnd (h : NeverWhole whole (t.lines.drop i)) :
    HasNoEnd whole t (i + 1) := by
  intro e hfirst hlast hwhole
  rw [linesBetween_eq] at hwhole
  exact h (e - i) (by omega) (by rw [List.length_drop]; omega) hwhole

end Text

namespace Source

/-! ## Blocks -/

theorem endsAfter_false_zero : EndsAfter false 0 = EndsBlock := by
  funext span
  apply propext
  constructor
  · intro h
    unfold EndsAfter at h
    split at h
    · rename_i hopen
      refine .inr ⟨by simpa using hopen, ?_⟩
      rw [braceBalance] at h
      omega
    · rename_i hclosed
      exact .inl ⟨fun line hline hbrace => hclosed (.inr ⟨line, hline, hbrace⟩), h⟩
  · intro h
    exact (endsAfter_of_endsBlock h).2

theorem blockLines_cons (opened : Bool) (depth : Int) (line : Text) (rest : List Text) :
    blockLines opened depth (line :: rest) =
      if endsBlock (opened || line.contains '{') (depth + braceBalance line) line then [line]
      else line :: blockLines (opened || line.contains '{') (depth + braceBalance line) rest :=
  rfl

/-- The lines of a block are the fewest that are whole, or all of them. The flag and the surplus
that the scan carries are what `EndsAfter` takes into account. -/
theorem blockLines_cases (opened : Bool) (depth : Int) (lines : List Text) :
    (∃ n, Text.Fewest (EndsAfter opened depth) lines n ∧
        blockLines opened depth lines = lines.take n) ∨
      Text.NeverWhole (EndsAfter opened depth) lines ∧ blockLines opened depth lines = lines := by
  induction lines generalizing opened depth with
  | nil =>
    refine .inr ⟨?_, rfl⟩
    intro n hpos hle
    simp only [List.length_nil] at hle
    omega
  | cons line rest ih =>
    by_cases hends :
        endsBlock (opened || line.contains '{') (depth + braceBalance line) line = true
    · refine .inl ⟨1, Text.fewest_cons_one (endsAfter_singleton.mpr hends), ?_⟩
      rw [blockLines_cons, if_pos hends]
      rfl
    · have hone : ¬ EndsAfter opened depth [line] := fun h => hends (endsAfter_singleton.mp h)
      rw [blockLines_cons, if_neg hends]
      rcases ih (opened || line.contains '{') (depth + braceBalance line) with
        ⟨n, hn, hrest⟩ | ⟨hnever, hrest⟩
      · refine .inl ⟨n + 1, hn.cons hone fun more => endsAfter_cons, ?_⟩
        rw [hrest, List.take_succ_cons]
      · exact .inr ⟨hnever.cons hone fun more => endsAfter_cons, by rw [hrest]⟩

theorem headerLines_eq_take (lines : List Text) :
    headerLines lines = lines.take (lines.findIdx (·.contains '{') + 1) := by
  induction lines with
  | nil => rfl
  | cons line rest ih =>
    rw [headerLines, List.findIdx_cons, ih]
    cases line.contains '{' <;> simp

theorem map_start_blocksFrom (header : Pattern) (number : Nat) (lines : List Text) :
    (blocksFrom header number lines).map (·.start) =
      ((lines.zipIdx number).filter fun (line, _) => header.occursIn line).map Prod.snd := by
  induction lines generalizing number with
  | nil => rfl
  | cons line rest ih =>
    rw [blocksFrom, List.zipIdx_cons, List.filter_cons]
    split
    · rw [List.map_cons, List.map_cons, ih]
      rfl
    · exact ih (number + 1)

/-- The blocks are those that the scan gives from each line that looks like a header. -/
theorem mem_blocksFrom_iff {header : Pattern} {number : Nat} {lines : List Text} {b : Block} :
    b ∈ blocksFrom header number lines ↔
      ∃ i, (∃ line ∈ lines[i]?, header.occursIn line = true) ∧
        b = .ofLines (number + i) (blockLines false 0 (lines.drop i)) := by
  induction lines generalizing number with
  | nil => simp [blocksFrom]
  | cons line rest ih =>
    have hlater : b ∈ blocksFrom header (number + 1) rest ↔
        ∃ i, (∃ l ∈ (line :: rest)[i + 1]?, header.occursIn l = true) ∧
          b = .ofLines (number + (i + 1)) (blockLines false 0 ((line :: rest).drop (i + 1))) := by
      rw [ih]
      refine exists_congr fun i => ?_
      rw [List.getElem?_cons_succ, List.drop_succ_cons,
        show number + 1 + i = number + (i + 1) by omega]
    have hhere : b ∈ blocksFrom header number (line :: rest) ↔
        header.occursIn line = true ∧ b = .ofLines number (blockLines false 0 (line :: rest)) ∨
          b ∈ blocksFrom header (number + 1) rest := by
      rw [blocksFrom]
      split
      · rename_i hheader
        rw [List.mem_cons, and_iff_right hheader]
      · rename_i hheader
        exact (or_iff_right fun h => hheader h.1).symm
    rw [hhere, hlater]
    constructor
    · rintro (⟨hheader, rfl⟩ | ⟨i, hline, rfl⟩)
      · exact ⟨0, ⟨line, rfl, hheader⟩, rfl⟩
      · exact ⟨i + 1, hline, rfl⟩
    · rintro ⟨_ | i, hline, rfl⟩
      · exact .inl ⟨by simpa using hline, rfl⟩
      · exact .inr ⟨i, hline, rfl⟩

/-- The block that starts at line `first` ends at line `last`, which is the last line of all if the
block has no end. -/
def IsExtent (t : Text) (first last : Nat) : Prop :=
  t.IsFirstEnd EndsBlock first last ∨ t.HasNoEnd EndsBlock first ∧ last = t.lines.length

/-- The block has the lines of the text from its start to its end, and its header is what stands on
them before the first brace. -/
structure Block.StandsIn (t : Text) (b : Block) : Prop where
  lines : ∃ last, IsExtent t b.start last ∧ b.lines = t.linesBetween b.start last
  header : b.header = Text.join [' ']
    ((b.lines.take (b.lines.findIdx (·.contains '{') + 1)).map fun line =>
      Text.trim (line.takeWhile (· != '{')))

theorem standsIn_ofLines (t : Text) (i : Nat) :
    (Block.ofLines (i + 1) (blockLines false 0 (t.lines.drop i))).StandsIn t := by
  refine ⟨?_, ?_⟩
  · rcases blockLines_cases false 0 (t.lines.drop i) with ⟨n, hn, hlines⟩ | ⟨hnever, hlines⟩
    · rw [endsAfter_false_zero] at hn
      have hbetween : t.linesBetween (i + 1) (i + n) = (t.lines.drop i).take n := by
        rw [Text.linesBetween_eq, Nat.add_sub_cancel_left]
      exact ⟨i + n, .inl hn.isFirstEnd, hlines.trans hbetween.symm⟩
    · rw [endsAfter_false_zero] at hnever
      have hbetween : t.linesBetween (i + 1) t.lines.length = t.lines.drop i := by
        rw [Text.linesBetween_eq, ← List.length_drop, List.take_length]
      exact ⟨t.lines.length, .inr ⟨hnever.hasNoEnd, rfl⟩, hlines.trans hbetween.symm⟩
  · rw [← headerLines_eq_take]
    rfl

structure AreBlocks (header : Pattern) (t : Text) (blocks : List Block) : Prop where
  starts : blocks.map (·.start) =
    ((t.lines.zipIdx 1).filter fun (line, _) => header.occursIn line).map Prod.snd
  ascending : (blocks.map (·.start)).Pairwise (· < ·)
  standsIn : ∀ b ∈ blocks, b.StandsIn t

theorem areBlocks_blocksFrom (header : Pattern) (t : Text) :
    AreBlocks header t (blocksFrom header 1 t.lines) := by
  have hstarts := map_start_blocksFrom header 1 t.lines
  refine ⟨hstarts, ?_, ?_⟩
  · have hnumbers : ((t.lines.zipIdx 1).map Prod.snd).Pairwise (· < ·) := by
      rw [List.zipIdx_map_snd]
      exact List.pairwise_lt_range'
    rw [hstarts]
    exact hnumbers.sublist (List.filter_sublist.map Prod.snd)
  · intro b hb
    obtain ⟨i, -, rfl⟩ := mem_blocksFrom_iff.mp hb
    rw [Nat.add_comm]
    exact standsIn_ofLines t i

/-- Functions and loops are found at all the lines that look like their headers and at no others,
and each of them runs to the first line up to which it is whole. -/
theorem brace_blocks_exact (code : Text) :
    AreBlocks functionHeader (bare code) (functionBlocks code) ∧
      AreBlocks loopHeader (bare code) (loopBlocks code) :=
  ⟨areBlocks_blocksFrom functionHeader (bare code), areBlocks_blocksFrom loopHeader (bare code)⟩

end Source

end ContractAudit
