import ContractAudit.Proofs.PatternMeaning
import Mathlib.Data.List.Sort

/-!
# Leftmost matches that do not overlap

The matches that a search through a whole text gives are described by three conditions that say
nothing of how the search goes: each is a match, they stand apart and in order, and a position where
the pattern could match is the start of one of them or inside one. Going from left to right there is
one choice at each position, so there is exactly one such list.
-/
namespace ContractAudit.Pattern

def IsMatchIn (p : Pattern) (t : Text) (m : Match) : Prop :=
  ∃ left, t = left ++ m.opening ∧ m.offset = left.length ∧
    p.matchHere? left.getLast? m.opening m.offset = some m

def Match.Covers (m : Match) (position : Nat) : Prop :=
  m.offset = position ∨ m.offset < position ∧ position < m.offset + m.length

structure LeftmostMatches (p : Pattern) (t : Text) (found : List Match) : Prop where
  isMatch : ∀ m ∈ found, p.IsMatchIn t m
  apart : found.Pairwise fun m m' => m.offset < m'.offset ∧ m.offset + m.length ≤ m'.offset
  complete : ∀ left right s, t = left ++ right → p.Reaches ⟨left.getLast?, right, []⟩ s →
    ∃ m ∈ found, m.Covers left.length

theorem offset_of_matchHere? {p : Pattern} {before : Option Char} {t : Text} {offset : Nat}
    {m : Match} (h : p.matchHere? before t offset = some m) : m.offset = offset := by
  obtain ⟨s, -, rfl⟩ := matchHere?_eq_some h
  rfl

/-! ## The search finds them -/

section Search

variable {p : Pattern} {before : Option Char} {t : Text} {offset skip : Nat}

theorem le_offset_of_mem_findAllFrom {m : Match} (h : m ∈ p.findAllFrom before t offset skip) :
    offset + skip ≤ m.offset := by
  induction t generalizing before offset skip with
  | nil =>
    cases skip with
    | zero => exact Nat.le_of_eq (offset_of_matchHere? (Option.mem_toList.mp h)).symm
    | succ skip => simp [findAllFrom] at h
  | cons c t ih =>
    have hlater {skip : Nat} (h : m ∈ p.findAllFrom (some c) t (offset + 1) skip) :
        offset + 1 + skip ≤ m.offset := ih h
    cases skip with
    | succ skip =>
      have hle := hlater h
      omega
    | zero =>
      rw [findAllFrom] at h
      split at h
      · rename_i m' hm'
        rcases List.mem_cons.mp h with rfl | h
        · exact Nat.le_of_eq (offset_of_matchHere? hm').symm
        · have hle := hlater h
          omega
      · have hle := hlater h
        omega

theorem pairwise_findAllFrom (p : Pattern) (before : Option Char) (t : Text) (offset skip : Nat) :
    (p.findAllFrom before t offset skip).Pairwise fun m m' =>
      m.offset < m'.offset ∧ m.offset + m.length ≤ m'.offset := by
  induction t generalizing before offset skip with
  | nil =>
    cases skip with
    | zero =>
      rw [findAllFrom]
      cases p.matchHere? before [] offset with
      | none => exact .nil
      | some m => exact List.pairwise_singleton _ m
    | succ skip => exact .nil
  | cons c t ih =>
    cases skip with
    | succ skip => exact ih (some c) (offset + 1) skip
    | zero =>
      rw [findAllFrom]
      split
      · rename_i m hm
        refine .cons (fun m' hm' => ?_) (ih (some c) (offset + 1) (m.length - 1))
        have hle := le_offset_of_mem_findAllFrom hm'
        have hoffset := offset_of_matchHere? hm
        omega
      · exact ih (some c) (offset + 1) 0

/-- No position behind the characters to skip is passed over if the pattern could match there. -/
theorem exists_covers_findAllFrom {left right : Text} {s : Place} (ht : t = left ++ right)
    (hskip : skip ≤ left.length) (hs : p.Reaches ⟨left.getLast?.or before, right, []⟩ s) :
    ∃ m ∈ p.findAllFrom before t offset skip, m.Covers (offset + left.length) := by
  induction t generalizing before offset skip left with
  | nil =>
    obtain ⟨rfl, rfl⟩ := List.nil_eq_append_iff.mp ht
    obtain rfl : skip = 0 := Nat.le_zero.mp hskip
    obtain ⟨m, hm⟩ := Option.isSome_iff_exists.mp
      (matchHere?_isSome_iff.mpr ⟨s, hs⟩ : (p.matchHere? before [] offset).isSome)
    exact ⟨m, by simp [findAllFrom, hm], .inl (offset_of_matchHere? hm)⟩
  | cons c t ih =>
    have hlater {skip : Nat} {left : Text} (ht : t = left ++ right) (hskip : skip ≤ left.length)
        (hs : p.Reaches ⟨(c :: left).getLast?.or before, right, []⟩ s) :
        ∃ m ∈ p.findAllFrom (some c) t (offset + 1) skip,
          m.Covers (offset + (c :: left).length) := by
      rw [getLast?_cons_or] at hs
      rw [List.length_cons, Nat.add_comm left.length 1, ← Nat.add_assoc]
      exact ih ht hskip hs
    cases skip with
    | succ skip =>
      cases left with
      | nil => simp at hskip
      | cons d left =>
        obtain ⟨rfl, htail⟩ := List.cons.inj ht
        exact hlater htail (Nat.le_of_succ_le_succ hskip) hs
    | zero =>
      rw [findAllFrom]
      cases left with
      | nil =>
        obtain rfl : c :: t = right := ht
        obtain ⟨m, hm⟩ := Option.isSome_iff_exists.mp
          (matchHere?_isSome_iff.mpr ⟨s, hs⟩ : (p.matchHere? before (c :: t) offset).isSome)
        simp only [hm]
        exact ⟨m, List.mem_cons_self, .inl (offset_of_matchHere? hm)⟩
      | cons d left =>
        obtain ⟨rfl, htail⟩ := List.cons.inj ht
        split
        · rename_i m hm
          have hoffset := offset_of_matchHere? hm
          by_cases hinside : left.length < m.length - 1
          · refine ⟨m, List.mem_cons_self, .inr ?_⟩
            rw [List.length_cons]
            omega
          · obtain ⟨m', hm', hcovers⟩ := hlater htail (Nat.le_of_not_lt hinside) hs
            exact ⟨m', List.mem_cons_of_mem m hm', hcovers⟩
        · exact hlater htail (Nat.zero_le _) hs

end Search

theorem leftmostMatches_findAll (p : Pattern) (t : Text) : LeftmostMatches p t (p.findAll t) where
  isMatch m hm := by
    obtain ⟨left, hsplit, hoffset, hmatch⟩ := matchHere?_of_mem_findAllFrom hm
    rw [Option.or_none] at hmatch
    rw [Nat.zero_add] at hoffset
    exact ⟨left, hsplit, hoffset, hmatch⟩
  apart := pairwise_findAllFrom p none t 0 0
  complete left right s ht hs := by
    have hs' : p.Reaches ⟨left.getLast?.or none, right, []⟩ s := by rwa [Option.or_none]
    obtain ⟨m, hm, hcovers⟩ := exists_covers_findAllFrom ht (Nat.zero_le _) hs'
    rw [Nat.zero_add] at hcovers
    exact ⟨m, hm, hcovers⟩

/-! ## There is only one such list -/

theorem IsMatchIn.eq_of_offset {p : Pattern} {t : Text} {m m' : Match} (h : p.IsMatchIn t m)
    (h' : p.IsMatchIn t m') (hoffset : m.offset = m'.offset) : m = m' := by
  obtain ⟨left, ht, hleft, hm⟩ := h
  obtain ⟨left', ht', hleft', hm'⟩ := h'
  obtain ⟨rfl, hopening⟩ := List.append_inj (ht.symm.trans ht') (by omega)
  rw [hopening, hoffset, hm'] at hm
  exact (Option.some.inj hm).symm

namespace LeftmostMatches

variable {p : Pattern} {t : Text} {found found' : List Match}

theorem not_covers_of_lt (h : LeftmostMatches p t found) {m m' : Match} (hm : m ∈ found)
    (hm' : m' ∈ found) (hlt : m.offset < m'.offset) : ¬ m.Covers m'.offset := by
  have hends : m.offset + m.length ≤ m'.offset := by
    have hapart := List.pairwise_iff_getElem.mp h.apart
    obtain ⟨i, hi, rfl⟩ := List.getElem_of_mem hm
    obtain ⟨j, hj, rfl⟩ := List.getElem_of_mem hm'
    rcases Nat.lt_trichotomy i j with hij | rfl | hji
    · exact (hapart i j hi hj hij).2
    · omega
    · have := (hapart j i hj hi hji).1
      omega
  rintro (heq | ⟨-, hinside⟩)
  · omega
  · omega

theorem mem_of_agree (h : LeftmostMatches p t found) (h' : LeftmostMatches p t found') {m : Match}
    (hagree : ∀ m', m'.offset < m.offset → m' ∈ found' → m' ∈ found) (hm : m ∈ found) :
    m ∈ found' := by
  obtain ⟨left, ht, hleft, hmatch⟩ := h.isMatch m hm
  obtain ⟨s, hs, -⟩ := matchHere?_eq_some hmatch
  obtain ⟨m', hm', hcovers⟩ := h'.complete left m.opening s ht hs
  rw [← hleft] at hcovers
  rcases hcovers with heq | ⟨hlt, hinside⟩
  · rwa [← (h'.isMatch m' hm').eq_of_offset (h.isMatch m hm) heq]
  · exact absurd (.inr ⟨hlt, hinside⟩) (h.not_covers_of_lt (hagree m' hlt hm') hm hlt)

theorem mem_iff_mem (h : LeftmostMatches p t found) (h' : LeftmostMatches p t found') (n : Nat) :
    ∀ m : Match, m.offset = n → (m ∈ found ↔ m ∈ found') := by
  induction n using Nat.strongRecOn with
  | ind n ih =>
    rintro m rfl
    constructor
    · exact h.mem_of_agree h' fun m' hlt => (ih m'.offset hlt m' rfl).mpr
    · exact h'.mem_of_agree h fun m' hlt => (ih m'.offset hlt m' rfl).mp

theorem unique (h : LeftmostMatches p t found) (h' : LeftmostMatches p t found') :
    found = found' := by
  have hmem (m : Match) : m ∈ found ↔ m ∈ found' := h.mem_iff_mem h' m.offset m rfl
  have hirrefl : Std.Irrefl fun m m' : Match => m.offset < m'.offset :=
    ⟨fun m => Nat.lt_irrefl m.offset⟩
  exact List.Pairwise.eq_of_mem_iff (h.apart.imp fun h => h.1) (h'.apart.imp fun h => h.1) hmem

end LeftmostMatches

/-- The search gives the leftmost matches, and no other list is that. -/
theorem leftmostMatches_iff {p : Pattern} {t : Text} {found : List Match} :
    LeftmostMatches p t found ↔ found = p.findAll t :=
  ⟨fun h => h.unique (leftmostMatches_findAll p t), fun h => h ▸ leftmostMatches_findAll p t⟩

end ContractAudit.Pattern
