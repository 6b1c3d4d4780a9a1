import ContractAudit.Proofs.BlankStretch
import ContractAudit.Proofs.PatternShift
import Mathlib.Data.List.Forall2

/-!
# All matches, with more white space

A search for all matches goes on behind each match. With more white space in the text a match may be
longer, but the search ends it and begins the next one at the same places, so the matches go in
pairs.
-/
namespace ContractAudit.Pattern

def findAllAfter (p : Pattern) : Text → (offset skip : Nat) → List Match
  | [], _, _ => []
  | c :: rest, offset, skip => p.findAllFrom (some c) rest (offset + 1) skip

theorem findAllFrom_succ (p : Pattern) (before : Option Char) (t : Text) (offset skip : Nat) :
    p.findAllFrom before t offset (skip + 1) = p.findAllAfter t offset skip := by
  cases t <;> rfl

theorem findAllFrom_zero (p : Pattern) (before : Option Char) (t : Text) (offset : Nat) :
    p.findAllFrom before t offset 0 =
      match p.matchHere? before t offset with
      | some m => m :: p.findAllAfter t offset (m.length - 1)
      | none => p.findAllAfter t offset 0 := by
  cases t with
  | nil =>
    rw [findAllFrom]
    cases p.matchHere? before [] offset <;> rfl
  | cons c rest => rw [findAllFrom]; rfl

theorem findAllFrom_moved (p : Pattern) (before : Option Char) (t : Text) (offset skip n : Nat) :
    p.findAllFrom before t (offset + n) skip =
      (p.findAllFrom before t offset skip).map fun m => { m with offset := m.offset + n } := by
  induction n with
  | zero => simp
  | succ n ih =>
    rw [← Nat.add_assoc, findAllFrom_later, ih, List.map_map]
    rfl

theorem findAllFrom_append (p : Pattern) (before : Option Char) (left right : Text)
    (offset skip : Nat) :
    p.findAllFrom before (left ++ right) offset (left.length + skip) =
      p.findAllFrom (left.getLast?.or before) right (offset + left.length) skip := by
  induction left generalizing before offset with
  | nil => simp
  | cons c left ih =>
    rw [List.length_cons, Nat.add_right_comm, findAllFrom_succ, List.cons_append, findAllAfter, ih,
      getLast?_cons_or, Nat.add_assoc, Nat.add_comm 1]

namespace Seam

variable {seam : Seam} {p : Pattern}

def MatchTwin (seam : Seam) (m m' : Match) : Prop :=
  (∃ left, m.opening = left ++ seam.tail ∧ m'.opening = left ++ seam.lower) ∧
      m'.offset = m.offset ∨
    (m'.opening = m.opening ∧ m.opening.length < seam.tail.length) ∧
      m'.offset = m.offset + seam.gap.length

theorem findAllFrom_gap (hhalts : p.haltsBefore false = true) {gap : Text}
    (hgap : ∀ c ∈ gap, Text.isBlank c = true) {b : Char} (hb : Text.isBlank b = true)
    (offset : Nat) :
    p.findAllFrom (some b) (gap ++ seam.tail) offset 0 =
      p.findAllAfter seam.tail (offset + gap.length) 0 := by
  have hnone {gap : Text} (hgap : ∀ c ∈ gap, Text.isBlank c = true) {b : Char}
      (hb : Text.isBlank b = true) (offset : Nat) :
      p.matchHere? (some b) (gap ++ seam.tail) offset = none := by
    have hrun : p.run ⟨some b, gap ++ seam.tail, []⟩ some = none :=
      halts_run hhalts (by simp) _ (amidBlanks_of_gap hgap hb [])
    rw [matchHere?, hrun, Option.map_none]
  induction gap generalizing b offset with
  | nil =>
    have hhere := hnone hgap hb offset
    rw [List.nil_append] at hhere ⊢
    rw [findAllFrom_zero, hhere]
    rfl
  | cons g gap ih =>
    have hhere := hnone hgap hb offset
    obtain ⟨hg, hgap⟩ := List.forall_mem_cons.mp hgap
    rw [List.cons_append] at hhere ⊢
    rw [findAllFrom, hhere]
    exact (ih hgap hg (offset + 1)).trans (by rw [List.length_cons, Nat.add_right_comm]; rfl)

/-- Behind the seam the search goes on as it does without the new white space, which a match has
taken or not. -/
theorem findAllAfter_lower (hhalts : p.haltsBefore false = true) (offset : Nat) {skip skip' : Nat}
    (hskip : skip = 0 ∧ skip' = 0 ∨ skip' = skip + seam.gap.length) :
    p.findAllAfter seam.lower offset skip' =
      p.findAllAfter seam.tail (offset + seam.gap.length) skip := by
  unfold lower
  cases hgap : seam.gap with
  | nil =>
    have heq : skip' = skip := by
      rw [hgap, List.length_nil] at hskip
      omega
    rw [heq]
    rfl
  | cons g gap =>
    obtain ⟨hg, hblank⟩ := List.forall_mem_cons.mp (hgap ▸ seam.gap_blank)
    rw [List.cons_append, findAllAfter, List.length_cons]
    rcases hskip with ⟨rfl, rfl⟩ | hskip
    · rw [findAllFrom_gap hhalts hblank hg, Nat.add_assoc, Nat.add_comm 1]
    · rw [hgap, List.length_cons] at hskip
      obtain rfl : skip' = gap.length + (skip + 1) := by omega
      rw [findAllFrom_append, findAllFrom_succ, Nat.add_assoc, Nat.add_comm 1]

theorem forall₂_findAllAfter (p : Pattern) (offset skip : Nat) :
    List.Forall₂ seam.MatchTwin (p.findAllAfter seam.tail offset skip)
      (p.findAllAfter seam.tail (offset + seam.gap.length) skip) := by
  cases htail : seam.tail with
  | nil => exact .nil
  | cons c rest =>
    have hmoved := findAllFrom_moved p (some c) rest (offset + 1) skip seam.gap.length
    rw [Nat.add_right_comm] at hmoved
    rw [findAllAfter, findAllAfter, hmoved, List.forall₂_map_right_iff, List.forall₂_same]
    intro m hm
    obtain ⟨left, hrest, -⟩ := matchHere?_of_mem_findAllFrom hm
    have hlength := congrArg List.length hrest
    rw [List.length_append] at hlength
    refine .inr ⟨⟨rfl, ?_⟩, rfl⟩
    rw [htail, List.length_cons]
    omega

theorem length_of_twin (left : Text) {r r' : Place} (h : seam.Twin r r') :
    let n := (left ++ seam.tail).length - r.rest.length
    let n' := (left ++ seam.lower).length - r'.rest.length
    n ≤ left.length ∧ n' = n ∨ left.length < n ∧ n' = n + seam.gap.length := by
  cases h with
  | above before rest captures =>
    simp only [lower, List.length_append]
    omega
  | below _ hshorter =>
    simp only [lower, List.length_append]
    omega

/-- The first match and the characters to skip are in step, so it is enough that the search goes on
in step from the next character. -/
theorem forall₂_findAllFrom_of_after (hp : p.elastic false = true) {before : Option Char}
    {left : Text} {offset : Nat}
    (hafter : ∀ skip skip', (skip < left.length ∨ skip = 0) ∧ skip' = skip ∨
        left.length ≤ skip ∧ skip' = skip + seam.gap.length →
      List.Forall₂ seam.MatchTwin (p.findAllAfter (left ++ seam.tail) offset skip)
        (p.findAllAfter (left ++ seam.lower) offset skip'))
    {skip skip' : Nat}
    (hskip : skip ≤ left.length ∧ skip' = skip ∨
      left.length < skip ∧ skip' = skip + seam.gap.length) :
    List.Forall₂ seam.MatchTwin (p.findAllFrom before (left ++ seam.tail) offset skip)
      (p.findAllFrom before (left ++ seam.lower) offset skip') := by
  cases skip with
  | succ skip =>
    obtain ⟨later, rfl⟩ : ∃ later, skip' = later + 1 := ⟨skip' - 1, by omega⟩
    rw [findAllFrom_succ, findAllFrom_succ]
    exact hafter skip later (by omega)
  | zero =>
    obtain rfl : skip' = 0 := by omega
    have hhere : Option.Rel seam.Twin (p.run ⟨before, left ++ seam.tail, []⟩ some)
        (p.run ⟨before, left ++ seam.lower, []⟩ some) :=
      corresponds_run hp corresponds_some (by simp) _ _ (.above ..)
    rw [findAllFrom_zero, findAllFrom_zero, matchHere?, matchHere?]
    generalize p.run ⟨before, left ++ seam.tail, []⟩ some = found at hhere ⊢
    generalize p.run ⟨before, left ++ seam.lower, []⟩ some = found' at hhere ⊢
    cases hhere with
    | none => exact hafter 0 0 (by omega)
    | @some r r' htwin =>
      have hlength := length_of_twin left htwin
      refine .cons (.inl ⟨⟨left, rfl, rfl⟩, rfl⟩) (hafter _ _ ?_)
      simp only [Match.length] at hlength ⊢
      omega

theorem forall₂_findAllFrom (hp : p.elastic false = true) (hhalts : p.haltsBefore false = true)
    (before : Option Char) (left : Text) (offset : Nat) {skip skip' : Nat}
    (hskip : skip ≤ left.length ∧ skip' = skip ∨
      left.length < skip ∧ skip' = skip + seam.gap.length) :
    List.Forall₂ seam.MatchTwin (p.findAllFrom before (left ++ seam.tail) offset skip)
      (p.findAllFrom before (left ++ seam.lower) offset skip') := by
  induction left generalizing before offset skip skip' with
  | nil =>
    refine forall₂_findAllFrom_of_after hp (fun skip skip' hskip => ?_) hskip
    have hseam : skip = 0 ∧ skip' = 0 ∨ skip' = skip + seam.gap.length := by
      rw [List.length_nil] at hskip
      omega
    rw [List.nil_append, List.nil_append, findAllAfter_lower hhalts offset hseam]
    exact forall₂_findAllAfter p offset skip
  | cons c left ih =>
    refine forall₂_findAllFrom_of_after hp (fun skip skip' hskip => ?_) hskip
    rw [List.length_cons] at hskip
    exact ih (some c) (offset + 1) (by omega)

/-- The matches in the text are those with more white space, in the same order. -/
theorem forall₂_findAll (hp : p.elastic false = true) (hhalts : p.haltsBefore false = true)
    (above : Text) :
    List.Forall₂ seam.MatchTwin (p.findAll (above ++ seam.tail))
      (p.findAll (above ++ seam.lower)) :=
  forall₂_findAllFrom hp hhalts none above 0 (.inl ⟨Nat.zero_le _, rfl⟩)

end Seam

end ContractAudit.Pattern
