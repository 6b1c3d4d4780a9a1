import ContractAudit.Catalog.Solidity.Triggers
import Mathlib.Logic.Basic

/-!
# Reentrant calls

The search for reentrant calls goes down a function once. It keeps the transfers seen since the
last write to state, and a write reports and forgets them. What is reported in the end has nothing
to do with that bookkeeping: it is every transfer below the first line of the function that some
later line of the same function follows with a write. A transfer and a write on one line are no such
pair, since the line is looked at as a write before it is looked at as a transfer.
-/
namespace ContractAudit.Catalog.Solidity

open Source

structure WriteAfterTransfer (lines : List Text) (i j : Nat) : Prop where
  lt : i < j
  transfer : ∃ line ∈ lines[i]?, externalTransfer.occursIn line = true
  write : ∃ line ∈ lines[j]?, stateWrite.occursIn line = true

theorem exists_writeAfterTransfer_iff {lines : List Text} {i : Nat} :
    (lines[i]?.any externalTransfer.occursIn &&
        (lines.drop (i + 1)).any stateWrite.occursIn) = true ↔
      ∃ j, WriteAfterTransfer lines i j := by
  simp only [Bool.and_eq_true, Option.any_eq_true, List.any_eq_true]
  constructor
  · rintro ⟨⟨transfer, htransfer, hoccurs⟩, write, hwrite, hoccurs'⟩
    obtain ⟨k, hk⟩ := List.getElem?_of_mem hwrite
    rw [List.getElem?_drop] at hk
    exact ⟨i + 1 + k, by omega, ⟨transfer, htransfer, hoccurs⟩, write, hk, hoccurs'⟩
  · rintro ⟨j, hlt, ⟨transfer, htransfer, hoccurs⟩, write, hwrite, hoccurs'⟩
    refine ⟨⟨transfer, htransfer, hoccurs⟩, write, ?_, hoccurs'⟩
    apply List.mem_of_getElem? (i := j - (i + 1))
    rw [List.getElem?_drop, show i + 1 + (j - (i + 1)) = j by omega]
    exact hwrite

instance (lines : List Text) (i : Nat) : Decidable (∃ j, WriteAfterTransfer lines i j) :=
  decidable_of_iff _ exists_writeAfterTransfer_iff

def writtenAfter (lines : List Text) : List Nat :=
  (List.range lines.length).filter fun i => ∃ j, WriteAfterTransfer lines i j

theorem exists_writeAfterTransfer_cons_zero {line : Text} {rest : List Text} :
    (∃ j, WriteAfterTransfer (line :: rest) 0 j) ↔
      externalTransfer.occursIn line = true ∧ rest.any stateWrite.occursIn = true := by
  rw [← exists_writeAfterTransfer_iff]
  simp

theorem exists_writeAfterTransfer_cons_succ {line : Text} {rest : List Text} {i : Nat} :
    (∃ j, WriteAfterTransfer (line :: rest) (i + 1) j) ↔ ∃ j, WriteAfterTransfer rest i j := by
  rw [← exists_writeAfterTransfer_iff, ← exists_writeAfterTransfer_iff]
  simp

theorem writtenAfter_cons (line : Text) (rest : List Text) :
    writtenAfter (line :: rest) =
      (if externalTransfer.occursIn line && rest.any stateWrite.occursIn then [0] else []) ++
        (writtenAfter rest).map (· + 1) := by
  have hlater : (fun i => decide (∃ j, WriteAfterTransfer (line :: rest) i j)) ∘ Nat.succ =
      fun i => decide (∃ j, WriteAfterTransfer rest i j) := by
    funext i
    exact decide_eq_decide.mpr exists_writeAfterTransfer_cons_succ
  have hfirst : decide (∃ j, WriteAfterTransfer (line :: rest) 0 j) =
      (externalTransfer.occursIn line && rest.any stateWrite.occursIn) := by
    rw [Bool.eq_iff_iff, decide_eq_true_iff, exists_writeAfterTransfer_cons_zero, Bool.and_eq_true]
  unfold writtenAfter
  rw [List.length_cons, List.range_succ_eq_map, List.filter_cons, List.filter_map, hlater, hfirst]
  split <;> rfl

theorem map_succ_add (number : Nat) (indexes : List Nat) :
    indexes.map (number + 1 + ·) = (indexes.map (· + 1)).map (number + ·) := by
  rw [List.map_map]
  refine List.map_congr_left fun i _ => ?_
  simp only [Function.comp_apply]
  omega

/-- The invariant of the search: what is pending is reported if any write is to come, and after it
the transfers to come that a write follows. -/
theorem transfersBeforeWrite_eq (pending : List Nat) (number : Nat) (lines : List Text) :
    transfersBeforeWrite pending number lines =
      (if lines.any stateWrite.occursIn then pending else []) ++
        (writtenAfter lines).map (number + ·) := by
  induction lines generalizing pending number with
  | nil => simp [transfersBeforeWrite, writtenAfter]
  | cons line rest ih =>
    rw [transfersBeforeWrite, ih, map_succ_add, writtenAfter_cons, List.any_cons]
    by_cases hwrite : stateWrite.occursIn line = true
    · -- The line reports what is pending; the line itself has to wait for the next write.
      cases pending with
      | nil => cases externalTransfer.occursIn line <;> cases rest.any stateWrite.occursIn <;> simp
      | cons first more =>
        cases externalTransfer.occursIn line <;> cases rest.any stateWrite.occursIn <;>
          simp [hwrite]
    · -- The line joins what is pending, and all of it waits for the same write.
      have hwrite : stateWrite.occursIn line = false := by simpa using hwrite
      cases externalTransfer.occursIn line <;> cases rest.any stateWrite.occursIn <;>
        simp [hwrite]

theorem writtenAfter_tail (lines : List Text) :
    (writtenAfter lines.tail).map (· + 1) =
      (List.range lines.length).filter fun i => 1 ≤ i ∧ ∃ j, WriteAfterTransfer lines i j := by
  cases lines with
  | nil => rfl
  | cons line rest =>
    have hlater : (fun i => decide (1 ≤ i ∧ ∃ j, WriteAfterTransfer (line :: rest) i j)) ∘
        Nat.succ = fun i => decide (∃ j, WriteAfterTransfer rest i j) := by
      funext i
      apply decide_eq_decide.mpr
      rw [exists_writeAfterTransfer_cons_succ]
      exact and_iff_right (Nat.succ_le_succ (Nat.zero_le i))
    rw [List.tail_cons, List.length_cons, List.range_succ_eq_map, List.filter_cons_of_neg (by simp),
      List.filter_map, hlater]
    rfl

theorem reentrantCallsOf_eq (b : Block) :
    reentrantCallsOf b =
      if nonReentrant.occursIn b.header then []
      else ((List.range b.lines.length).filter fun i =>
        1 ≤ i ∧ ∃ j, WriteAfterTransfer b.lines i j).map (b.start + ·) := by
  rw [reentrantCallsOf, transfersBeforeWrite_eq, map_succ_add, writtenAfter_tail]
  simp

theorem reentrantCalls_eq (code : Text) :
    reentrantCalls code =
      ((functionBlocks code).filter fun b => !nonReentrant.occursIn b.header).flatMap
        fun b : Block => ((List.range b.lines.length).filter fun i =>
          1 ≤ i ∧ ∃ j, WriteAfterTransfer b.lines i j).map (b.start + ·) := by
  unfold reentrantCalls
  induction functionBlocks code with
  | nil => rfl
  | cons b rest ih =>
    rw [List.flatMap_cons, ih, reentrantCallsOf_eq, List.filter_cons]
    cases nonReentrant.occursIn b.header <;> simp

theorem reentrantCalls_ne_nil_iff (code : Text) :
    reentrantCalls code ≠ [] ↔
      ∃ b ∈ functionBlocks code, nonReentrant.occursIn b.header = false ∧
        ∃ i j, 1 ≤ i ∧ WriteAfterTransfer b.lines i j := by
  rw [reentrantCalls_eq, ne_eq, List.flatMap_eq_nil_iff]
  simp only [List.map_eq_nil_iff, List.filter_eq_nil_iff, List.mem_filter, List.mem_range,
    Bool.not_eq_true', decide_eq_true_eq, not_forall, not_not]
  constructor
  · rintro ⟨b, ⟨hb, hlock⟩, i, -, hi, j, hpair⟩
    exact ⟨b, hb, hlock, i, j, hi, hpair⟩
  · rintro ⟨b, hb, hlock, i, j, hi, hpair⟩
    obtain ⟨line, hline, -⟩ := hpair.transfer
    exact ⟨b, ⟨hb, hlock⟩, i, (List.getElem?_eq_some_iff.mp hline).1, hi, j, hpair⟩

end ContractAudit.Catalog.Solidity
