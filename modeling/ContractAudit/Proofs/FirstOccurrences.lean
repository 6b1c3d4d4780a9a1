import ContractAudit.Proofs.Deduplication
import Mathlib.Data.List.Induction
import Mathlib.Data.List.Nodup

/-!
# First occurrences

Deduplication goes down the findings once and remembers the keys that it has met. What it keeps is
said here by positions: the elements whose key stands at no earlier position. The invariant of the
loop is that the keys remembered are those of the findings passed, and that what is kept so far are
the first occurrences among them.
-/
namespace ContractAudit

section Firsts

variable {α β κ ι : Type} [DecidableEq κ] [DecidableEq ι]

def firstPositions (keys : List κ) : List Nat :=
  (List.range keys.length).filter fun i => ∀ j < i, keys[j]? ≠ keys[i]?

/-- The elements of a list whose key stands at no earlier position, in order. -/
def firstsBy (key : α → κ) (xs : List α) : List α :=
  (firstPositions (xs.map key)).filterMap fun i => xs[i]?

theorem mem_firstPositions_iff {keys : List κ} {i : Nat} :
    i ∈ firstPositions keys ↔ i < keys.length ∧ ∀ j < i, keys[j]? ≠ keys[i]? := by
  simp [firstPositions]

theorem firstPositions_concat (keys : List κ) (k : κ) :
    firstPositions (keys ++ [k]) =
      firstPositions keys ++ if k ∈ keys then [] else [keys.length] := by
  have hold : ∀ i ∈ List.range keys.length,
      decide (∀ j < i, (keys ++ [k])[j]? ≠ (keys ++ [k])[i]?) =
        decide (∀ j < i, keys[j]? ≠ keys[i]?) := by
    intro i hi
    rw [List.mem_range] at hi
    apply decide_eq_decide.mpr
    refine forall₂_congr fun j hj => ?_
    rw [List.getElem?_append_left hi, List.getElem?_append_left (Nat.lt_trans hj hi)]
  have hnew : (∀ j < keys.length, (keys ++ [k])[j]? ≠ (keys ++ [k])[keys.length]?) ↔ k ∉ keys := by
    rw [List.getElem?_append_right (Nat.le_refl _), Nat.sub_self, List.getElem?_cons_zero,
      List.mem_iff_getElem?, not_exists]
    constructor
    · intro h j hj
      have hlt := (List.getElem?_eq_some_iff.mp hj).1
      exact h j hlt (by rw [List.getElem?_append_left hlt, hj])
    · intro h j hlt hj
      rw [List.getElem?_append_left hlt] at hj
      exact h j hj
  unfold firstPositions
  rw [List.length_append, List.length_singleton, List.range_succ, List.filter_append,
    List.filter_congr hold]
  congr 1
  by_cases hk : k ∈ keys
  · rw [if_pos hk, List.filter_cons_of_neg (by simpa using hnew.not.mpr (not_not.mpr hk)),
      List.filter_nil]
  · rw [if_neg hk, List.filter_cons_of_pos (by simpa using hnew.mpr hk), List.filter_nil]

theorem firstsBy_nil (key : α → κ) : firstsBy key [] = [] :=
  rfl

theorem firstsBy_concat (key : α → κ) (xs : List α) (x : α) :
    firstsBy key (xs ++ [x]) =
      firstsBy key xs ++ if key x ∈ xs.map key then [] else [x] := by
  have hold : ∀ i ∈ firstPositions (xs.map key), (xs ++ [x])[i]? = xs[i]? := by
    intro i hi
    have hlt := (mem_firstPositions_iff.mp hi).1
    rw [List.length_map] at hlt
    exact List.getElem?_append_left hlt
  unfold firstsBy
  rw [List.map_append, List.map_singleton, firstPositions_concat, List.filterMap_append,
    List.filterMap_congr hold]
  split_ifs
  · rfl
  · simp

theorem mem_map_firstsBy_iff {key : α → κ} {xs : List α} {k : κ} :
    k ∈ (firstsBy key xs).map key ↔ k ∈ xs.map key := by
  induction xs using List.reverseRecOn with
  | nil => rfl
  | append_singleton xs x ih =>
    rw [firstsBy_concat, List.map_append, List.map_append, List.mem_append, List.mem_append, ih]
    split_ifs with hx
    · rw [List.map_singleton, List.mem_singleton, List.map_nil]
      constructor
      · rintro (h | h)
        · exact .inl h
        · exact absurd h List.not_mem_nil
      · rintro (h | rfl)
        · exact .inl h
        · exact .inl hx
    · rfl

theorem nodup_map_firstsBy (key : α → κ) (xs : List α) : ((firstsBy key xs).map key).Nodup := by
  induction xs using List.reverseRecOn with
  | nil => exact List.nodup_nil
  | append_singleton xs x ih =>
    rw [firstsBy_concat]
    split_ifs with hx
    · rwa [List.append_nil]
    · rw [List.map_append, List.map_singleton, List.nodup_append]
      refine ⟨ih, List.nodup_singleton _, ?_⟩
      rintro k hk _ hlast rfl
      rw [List.mem_singleton.mp hlast, mem_map_firstsBy_iff] at hk
      exact hx hk

theorem firstsBy_append (key : α → κ) (xs ys : List α) :
    firstsBy key (xs ++ ys) =
      firstsBy key xs ++ (firstsBy key ys).filter fun y => key y ∉ xs.map key := by
  induction ys using List.reverseRecOn with
  | nil => simp [firstsBy_nil]
  | append_singleton ys y ih =>
    rw [← List.append_assoc, firstsBy_concat, ih, firstsBy_concat, List.filter_append,
      List.append_assoc, List.map_append]
    congr 2
    by_cases hys : key y ∈ ys.map key
    · rw [if_pos (List.mem_append_right _ hys), if_pos hys, List.filter_nil]
    · rw [if_neg hys]
      by_cases hxs : key y ∈ xs.map key
      · rw [if_pos (List.mem_append_left _ hxs), List.filter_cons_of_neg (by simpa using hxs),
          List.filter_nil]
      · rw [if_neg (by rw [List.mem_append]; exact not_or.mpr ⟨hxs, hys⟩),
          List.filter_cons_of_pos (by simpa using hxs), List.filter_nil]

theorem firstsBy_eq_self {key : α → κ} {xs : List α} (h : (xs.map key).Nodup) :
    firstsBy key xs = xs := by
  induction xs using List.reverseRecOn with
  | nil => rfl
  | append_singleton xs x ih =>
    rw [List.map_append, List.map_singleton, List.nodup_append] at h
    obtain ⟨hxs, -, hnew⟩ := h
    have hx : key x ∉ xs.map key := fun hmem => hnew _ hmem _ (List.mem_singleton_self _) rfl
    rw [firstsBy_concat, ih hxs, if_neg hx]

theorem firstsBy_sublist (key : α → κ) (xs : List α) : (firstsBy key xs).Sublist xs := by
  induction xs using List.reverseRecOn with
  | nil => exact List.Sublist.slnil
  | append_singleton xs x ih =>
    rw [firstsBy_concat]
    split_ifs
    · rw [List.append_nil]
      exact ih.trans (List.sublist_append_left xs [x])
    · exact ih.append (List.Sublist.refl [x])

theorem firstsBy_map {key : α → κ} {key' : β → ι} {g : α → β} {xs : List α}
    (h : ∀ a ∈ xs, ∀ b ∈ xs, key' (g a) = key' (g b) ↔ key a = key b) :
    firstsBy key' (xs.map g) = (firstsBy key xs).map g := by
  induction xs using List.reverseRecOn with
  | nil => rfl
  | append_singleton xs x ih =>
    have hx : x ∈ xs ++ [x] := List.mem_append_right xs (List.mem_singleton_self x)
    have hxs : ∀ a ∈ xs, a ∈ xs ++ [x] := fun a ha => List.mem_append_left [x] ha
    have hmem : key' (g x) ∈ (xs.map g).map key' ↔ key x ∈ xs.map key := by
      rw [List.map_map, List.mem_map, List.mem_map]
      exact exists_congr fun a => and_congr_right fun ha => h a (hxs a ha) x hx
    rw [List.map_append, List.map_singleton, firstsBy_concat, firstsBy_concat, List.map_append,
      ih fun a ha b hb => h a (hxs a ha) b (hxs b hb)]
    congr 1
    by_cases hold : key x ∈ xs.map key
    · rw [if_pos hold, if_pos (hmem.mpr hold), List.map_nil]
    · rw [if_neg hold, if_neg (hmem.not.mpr hold), List.map_singleton]

/-! ## Different values -/

def distinct (xs : List κ) : List κ :=
  firstsBy id xs

theorem mem_distinct_iff {xs : List κ} {x : κ} : x ∈ distinct xs ↔ x ∈ xs := by
  have h : x ∈ (firstsBy id xs).map id ↔ x ∈ xs.map id := mem_map_firstsBy_iff
  rwa [List.map_id, List.map_id] at h

theorem nodup_distinct (xs : List κ) : (distinct xs).Nodup := by
  have h := nodup_map_firstsBy id xs
  rwa [List.map_id] at h

theorem distinct_eq_self {xs : List κ} (h : xs.Nodup) : distinct xs = xs :=
  firstsBy_eq_self (by rwa [List.map_id])

theorem distinct_append (xs ys : List κ) :
    distinct (xs ++ ys) = distinct xs ++ (distinct ys).filter fun y => y ∉ xs := by
  have h := firstsBy_append id xs ys
  rwa [List.map_id] at h

theorem length_distinct_eq_iff {xs : List κ} : (distinct xs).length = xs.length ↔ xs.Nodup := by
  constructor
  · intro h
    rw [← (firstsBy_sublist id xs).eq_of_length h]
    exact nodup_distinct xs
  · intro h
    rw [distinct_eq_self h]

theorem distinct_drop_filter_eq_nil_iff {n : Nat} {xs : List κ} :
    (distinct (xs.drop n)).filter (fun y => y ∉ xs.take n) = [] ↔ ∀ x ∈ xs, x ∈ xs.take n := by
  simp only [List.filter_eq_nil_iff, mem_distinct_iff, decide_eq_true_eq, not_not]
  constructor
  · intro h x hx
    rw [← List.take_append_drop n xs, List.mem_append] at hx
    exact hx.elim id (h x)
  · intro h x hx
    exact h x (List.mem_of_mem_drop hx)

/-- Values may be cut off before or after repetitions are dropped, if there are no repetitions among
those that stay or no other values among those that go; else the order matters. -/
theorem distinct_take_eq_iff (n : Nat) (xs : List κ) :
    distinct (xs.take n) = (distinct xs).take n ↔
      (xs.take n).Nodup ∨ ∀ x ∈ xs, x ∈ xs.take n := by
  have hlength : (distinct (xs.take n)).length ≤ n :=
    Nat.le_trans (firstsBy_sublist id _).length_le (List.length_take_le n xs)
  have hsplit : distinct xs = distinct (xs.take n) ++
      (distinct (xs.drop n)).filter fun y => y ∉ xs.take n := by
    rw [← distinct_append, List.take_append_drop]
  -- The two sides differ in the later values that there is still room for.
  rw [hsplit, List.take_append, List.take_of_length_le hlength, List.self_eq_append_right,
    List.take_eq_nil_iff, distinct_drop_filter_eq_nil_iff, ← length_distinct_eq_iff]
  rcases Nat.le_total n xs.length with hle | hge
  · rw [List.length_take_of_le hle]
    exact or_congr_left (by omega)
  · have hall : ∀ x ∈ xs, x ∈ xs.take n := by
      rw [List.take_of_length_le hge]
      exact fun x hx => hx
    exact iff_of_true (.inr hall) (.inr hall)

end Firsts

namespace Finding

/-- The invariant of the loop: `seen` has the keys of the findings passed. -/
theorem firstsBy_append_dedupAfter {past : List Finding} {seen : List (String × Int)}
    (hseen : ∀ k, k ∈ seen ↔ k ∈ past.map key) (rest : List Finding) :
    firstsBy key past ++ dedupAfter seen rest = firstsBy key (past ++ rest) := by
  induction rest generalizing past seen with
  | nil => rw [dedupAfter, List.append_nil, List.append_nil]
  | cons f rest ih =>
    have hsplit : past ++ f :: rest = (past ++ [f]) ++ rest := by simp
    rw [hsplit, dedupAfter]
    by_cases hf : f.key ∈ seen
    · have hold : ∀ k, k ∈ seen ↔ k ∈ (past ++ [f]).map key := by
        intro k
        rw [List.map_append, List.map_singleton, List.mem_append, List.mem_singleton, ← hseen]
        constructor
        · exact .inl
        · rintro (hk | rfl)
          · exact hk
          · exact hf
      rw [if_pos (by simpa using hf), ← ih hold, firstsBy_concat, if_pos ((hseen _).mp hf),
        List.append_nil]
    · have hnew : ∀ k, k ∈ f.key :: seen ↔ k ∈ (past ++ [f]).map key := by
        intro k
        rw [List.map_append, List.map_singleton, List.mem_append, List.mem_singleton, ← hseen,
          List.mem_cons, or_comm]
      rw [if_neg (by simpa using hf), ← ih hnew, firstsBy_concat,
        if_neg fun hmem => hf ((hseen _).mpr hmem), List.append_assoc, List.singleton_append]

theorem deduplicate_eq_firstsBy (findings : List Finding) :
    deduplicate findings = firstsBy key findings := by
  have hnone : ∀ k, k ∈ ([] : List (String × Int)) ↔ k ∈ ([] : List Finding).map key :=
    fun _ => Iff.rfl
  exact firstsBy_append_dedupAfter hnone findings

/-- Kept are the findings at the positions whose weakness and line stand at no earlier one. So the
keys kept are different and none is lost, a second pass changes nothing, and of what comes first
only the keys matter to what comes after. -/
theorem deduplicate_exact (xs : List Finding) :
    (∀ f : Finding, f.key = (if f.swcId = "" then f.type else f.swcId, f.lineNumber)) ∧
    deduplicate xs = (firstPositions (xs.map key)).filterMap (fun i => xs[i]?) ∧
    ((deduplicate xs).map key).Nodup ∧
    (∀ k, k ∈ (deduplicate xs).map key ↔ k ∈ xs.map key) ∧
    deduplicate (deduplicate xs) = deduplicate xs ∧
    ∀ ys, deduplicate (xs ++ ys) =
      deduplicate xs ++ (deduplicate ys).filter fun f => f.key ∉ xs.map key := by
  simp only [deduplicate_eq_firstsBy]
  refine ⟨fun f => ?_, rfl, nodup_map_firstsBy key xs, fun k => mem_map_firstsBy_iff,
    firstsBy_eq_self (nodup_map_firstsBy key xs), fun ys => ?_⟩
  · simp [key, weaknessId, orText]
  · convert firstsBy_append key xs ys

end Finding

end ContractAudit
