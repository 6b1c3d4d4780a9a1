import ContractAudit.Proofs.BlankStretch
import ContractAudit.Proofs.DeclaredVersions
import ContractAudit.Proofs.VyperFunctions

/-!
# A blank line among functions

A blank line ends no function, so those declared above it have at most one line more, and it is not
read. But it ends a run of decorators: a function declared below keeps only the decorators below the
line. A lock above the line no longer counts, and that is all that a blank line can change.
-/
namespace ContractAudit.Catalog.Vyper

open Pattern Source
open Text (isBlankText unlines)

def Function.isReentrant (f : Function) : Bool :=
  !isLocked f && writesAfterTransfer false f.lines.tail

def Function.isDestructible (f : Function) : Bool :=
  selfDestruct.occursIn f.body && !senderAssertion.occursIn f.body

def Function.keepDecorators (f : Function) (n : Nat) : Function :=
  { f with decorators := f.decorators.take n }

/-- A function among the lower lines has a lock, but only among the upper lines, and would be
reentrant without it. -/
def losesLock (upper lower : List Text) : Bool :=
  (lower.findIdxs defLine.opens).any fun i =>
    let f := functionAt (upper ++ lower) (upper.length + i)
    isLocked f && (f.keepDecorators i).isReentrant

/-- The same function, possibly with one line more behind its first. -/
structure Function.Stretched (blank : Text) (f f' : Function) : Prop where
  decorators : f'.decorators = f.decorators
  lines : ∃ head before after, f.lines = head :: before ++ after ∧
    (f'.lines = f.lines ∨ f'.lines = head :: before ++ blank :: after)

section BlankLine

variable {blank : Text} {upper lower : List Text}

theorem isDecorator_of_blank (hblank : isBlankText blank = true) : isDecorator blank = false := by
  rw [isDecorator, Text.trim, trimStart_eq_nil_iff.mpr hblank]
  rfl

theorem endsFunction_of_blank (hblank : isBlankText blank = true) (indent : Nat) :
    endsFunction indent blank = false := by
  simp [endsFunction, hblank]

theorem opens_of_blank (hblank : isBlankText blank = true) : defLine.opens blank = false := by
  by_contra hopens
  rw [isBlankText_eq_false_of_opens (by simpa using hopens)] at hblank
  exact absurd hblank (by decide)

theorem occursIn_of_blank {p : Pattern} (hp : p.inked = true) (hblank : isBlankText blank = true) :
    p.occursIn blank = false := by
  by_contra hoccurs
  rw [isBlankText_eq_false_of_occursIn hp (by simpa using hoccurs)] at hblank
  exact absurd hblank (by decide)

/-! ## Functions above the line -/

theorem takeWhile_insert {α : Type} {p : α → Bool} {x : α} (hx : p x = true)
    (above below : List α) :
    ∃ before after, (above ++ below).takeWhile p = before ++ after ∧
      ((above ++ x :: below).takeWhile p = before ++ after ∨
        (above ++ x :: below).takeWhile p = before ++ x :: after) := by
  rw [List.takeWhile_append, List.takeWhile_append]
  split
  · exact ⟨above, below.takeWhile p, rfl, .inr (by rw [List.takeWhile_cons_of_pos hx])⟩
  · exact ⟨above.takeWhile p, [], by simp, .inl (by simp)⟩

theorem stretched_functionAt (hblank : isBlankText blank = true) {i : Nat} (hi : i < upper.length) :
    (functionAt (upper ++ lower) i).Stretched blank (functionAt (upper ++ blank :: lower) i) := by
  have hhead (more : List Text) : (upper ++ more).getD i [] = upper.getD i [] := by
    simp [List.getElem?_append_left hi]
  have htake (more : List Text) : (upper ++ more).take i = upper.take i :=
    List.take_append_of_le_length (Nat.le_of_lt hi)
  have hdrop (more : List Text) : (upper ++ more).drop (i + 1) = upper.drop (i + 1) ++ more :=
    List.drop_append_of_le_length hi
  have hgoes : (!endsFunction (indentation (upper.getD i [])) blank) = true := by
    rw [endsFunction_of_blank hblank, Bool.not_false]
  obtain ⟨before, after, hold, hnew⟩ := takeWhile_insert
    (p := fun l => !endsFunction (indentation (upper.getD i [])) l) hgoes (upper.drop (i + 1)) lower
  constructor
  case decorators => simp only [functionAt, htake]
  case lines =>
    refine ⟨upper.getD i [], before, after, ?_, ?_⟩
    · simp only [functionAt, hhead, hdrop, hold, List.cons_append]
    · simp only [functionAt, hhead, hdrop, hold, List.cons_append, List.cons.injEq, true_and]
      exact hnew

theorem writesAfterTransfer_insert (hblank : isBlankText blank = true) (transferred : Bool)
    (before after : List Text) :
    writesAfterTransfer transferred (before ++ blank :: after) =
      writesAfterTransfer transferred (before ++ after) := by
  have hwrite : storageWrite.occursIn blank = false := occursIn_of_blank (by decide) hblank
  have htransfer : valueTransfer.occursIn blank = false := occursIn_of_blank (by decide) hblank
  induction before generalizing transferred with
  | nil => simp [writesAfterTransfer, hwrite, htransfer]
  | cons line before ih => simp only [List.cons_append, writesAfterTransfer, ih]

theorem unlines_cons_append (head : Text) (before after : List Text) :
    unlines (head :: before ++ after) =
      unlines (head :: before) ++ after.flatMap fun line => '\n' :: line := by
  have hunlines (head : Text) (rest : List Text) :
      unlines (head :: rest) = head ++ rest.flatMap fun line => '\n' :: line := by
    induction rest generalizing head with
    | nil => simp [unlines]
    | cons line rest ih => simp [unlines, ih]
  rw [List.cons_append, hunlines, hunlines, List.flatMap_append, List.append_assoc]

def seamOf (blank : Text) (hblank : isBlankText blank = true) (after : List Text) : Seam where
  gap := '\n' :: blank
  tail := after.flatMap fun line => '\n' :: line
  gap_blank := List.forall_mem_cons.mpr ⟨isBlank_newline, List.all_eq_true.mp hblank⟩
  tail_blank := by
    cases after with
    | nil => simp
    | cons line after => simp [isBlank_newline]

theorem Function.Stretched.occursIn_body_eq {f f' : Function} (h : f.Stretched blank f')
    (hblank : isBlankText blank = true) {p : Pattern} (hp : p.elastic false = true)
    (hhalts : p.haltsBefore false = true) : p.occursIn f'.body = p.occursIn f.body := by
  obtain ⟨head, before, after, hlines, hsame | hmore⟩ := h.lines
  · rw [Function.body, hsame, Function.body]
  · have hseam := (seamOf blank hblank after).occursIn_eq hp hhalts (unlines (head :: before))
    rw [Function.body, hmore, Function.body, hlines, unlines_cons_append, unlines_cons_append,
      List.flatMap_cons]
    exact hseam

theorem Function.Stretched.isReentrant_eq {f f' : Function} (h : f.Stretched blank f')
    (hblank : isBlankText blank = true) : f'.isReentrant = f.isReentrant := by
  have hlocked : isLocked f' = isLocked f := by rw [isLocked, h.decorators, isLocked]
  obtain ⟨head, before, after, hlines, hsame | hmore⟩ := h.lines
  · rw [isReentrant, isReentrant, hlocked, hsame]
  · rw [isReentrant, isReentrant, hlocked, hmore, hlines, List.cons_append, List.cons_append,
      List.tail_cons, List.tail_cons, writesAfterTransfer_insert hblank]

/-! ## Functions below the line -/

theorem takeWhile_stop {α : Type} {p : α → Bool} {x : α} (hx : p x = false) (near far : List α) :
    (near ++ x :: far).takeWhile p = ((near ++ far).takeWhile p).take near.length := by
  have hshort : (near.takeWhile p).length ≤ near.length := (List.takeWhile_prefix p).length_le
  rw [takeWhile_append_cons_of_neg hx, List.takeWhile_append]
  split
  next hall => rw [List.take_left, (List.takeWhile_prefix p).eq_of_length hall]
  next => rw [List.take_of_length_le hshort]

theorem functionAt_below (hblank : isBlankText blank = true) {i : Nat} (hi : i < lower.length) :
    functionAt (upper ++ blank :: lower) (upper.length + (i + 1)) =
      (functionAt (upper ++ lower) (upper.length + i)).keepDecorators i := by
  have hget (more : List Text) (k : Nat) :
      (upper ++ more).getD (upper.length + k) [] = more.getD k [] := by
    simp [List.getElem?_append_right]
  have hlength : (lower.take i).reverse.length = i := by
    rw [List.length_reverse, List.length_take_of_le (Nat.le_of_lt hi)]
  have hstop := takeWhile_stop (isDecorator_of_blank hblank) (lower.take i).reverse upper.reverse
  rw [hlength] at hstop
  simp only [functionAt, Function.keepDecorators, hget, Nat.add_assoc, List.take_length_add_append,
    List.drop_length_add_append, List.getD_cons_succ, List.take_succ_cons, List.drop_succ_cons,
    List.reverse_append, List.reverse_cons, List.append_assoc, List.singleton_append, hstop,
    List.map_take]

theorem isReentrant_keepDecorators (f : Function) (n : Nat) :
    (f.keepDecorators n).isReentrant =
      (f.isReentrant || isLocked f && (f.keepDecorators n).isReentrant) := by
  cases hlocked : isLocked f with
  | true => simp [Function.isReentrant, hlocked]
  | false =>
    have hnearest : isLocked (f.keepDecorators n) = false := by
      rw [isLocked, List.any_eq_false] at hlocked ⊢
      exact fun d hd => hlocked d (List.mem_of_mem_take hd)
    rw [Function.isReentrant, Function.isReentrant, hlocked, hnearest, Bool.false_and,
      Bool.or_false]
    rfl

/-! ## All functions -/

theorem any_congr_of_mem {α : Type} {l : List α} {f g : α → Bool} (h : ∀ a ∈ l, f a = g a) :
    l.any f = l.any g := by
  rw [Bool.eq_iff_iff, List.any_eq_true, List.any_eq_true]
  exact exists_congr fun a => and_congr_right fun ha => by rw [h a ha]

theorem any_functions_append (test : Function → Bool) (upper lower : List Text) :
    ((upper ++ lower).findIdxs defLine.opens).any (fun i => test (functionAt (upper ++ lower) i)) =
      ((upper.findIdxs defLine.opens).any (fun i => test (functionAt (upper ++ lower) i)) ||
        (lower.findIdxs defLine.opens).any fun i =>
          test (functionAt (upper ++ lower) (upper.length + i))) := by
  have hlower : lower.findIdxs defLine.opens upper.length =
      (lower.findIdxs defLine.opens).map (upper.length + ·) := by
    rw [List.findIdxs_start]
    simp only [Nat.add_comm]
  rw [List.findIdxs_append, Nat.zero_add, hlower, List.any_append, List.any_map]
  rfl

/-- What a blank line changes: only the decorators of the functions below it. -/
theorem any_functions_insert {test : Function → Bool} (hblank : isBlankText blank = true)
    (htest : ∀ f f', f.Stretched blank f' → test f' = test f) (upper lower : List Text) :
    ((upper ++ blank :: lower).findIdxs defLine.opens).any
        (fun i => test (functionAt (upper ++ blank :: lower) i)) =
      ((upper.findIdxs defLine.opens).any (fun i => test (functionAt (upper ++ lower) i)) ||
        (lower.findIdxs defLine.opens).any fun i =>
          test ((functionAt (upper ++ lower) (upper.length + i)).keepDecorators i)) := by
  have habove : ∀ i ∈ upper.findIdxs defLine.opens,
      test (functionAt (upper ++ blank :: lower) i) = test (functionAt (upper ++ lower) i) := by
    intro i hi
    obtain ⟨hlt, -⟩ := List.mem_findIdxs_iff_exists_getElem_pos.mp hi
    exact htest _ _ (stretched_functionAt hblank hlt)
  have hbelow : ∀ i ∈ lower.findIdxs defLine.opens,
      test (functionAt (upper ++ blank :: lower) (upper.length + (i + 1))) =
        test ((functionAt (upper ++ lower) (upper.length + i)).keepDecorators i) := by
    intro i hi
    obtain ⟨hlt, -⟩ := List.mem_findIdxs_iff_exists_getElem_pos.mp hi
    rw [functionAt_below hblank hlt]
  have hlines : (blank :: lower).findIdxs defLine.opens =
      (lower.findIdxs defLine.opens).map (· + 1) := by
    rw [List.findIdxs_cons, opens_of_blank hblank, if_neg Bool.false_ne_true, List.findIdxs_start]
  rw [any_functions_append, hlines, List.any_map]
  congr 1
  · exact any_congr_of_mem habove
  · exact any_congr_of_mem hbelow

/-- With a blank line more there is a reentrant function just when there was one before, or one
loses its lock. -/
theorem any_isReentrant_insert (hblank : isBlankText blank = true) (upper lower : List Text) :
    ((upper ++ blank :: lower).findIdxs defLine.opens).any
        (fun i => (functionAt (upper ++ blank :: lower) i).isReentrant) =
      (((upper ++ lower).findIdxs defLine.opens).any
          (fun i => (functionAt (upper ++ lower) i).isReentrant) || losesLock upper lower) := by
  have hsplit (f : Nat → Function) :
      ((lower.findIdxs defLine.opens).any fun i => ((f i).keepDecorators i).isReentrant) =
        ((lower.findIdxs defLine.opens).any (fun i => (f i).isReentrant) ||
          (lower.findIdxs defLine.opens).any fun i =>
            isLocked (f i) && ((f i).keepDecorators i).isReentrant) := by
    rw [any_congr_of_mem fun i _ => isReentrant_keepDecorators (f i) i, Bool.eq_iff_iff]
    simp only [List.any_eq_true, Bool.or_eq_true, ← exists_or, ← and_or_left]
  rw [any_functions_insert hblank fun _ _ h => h.isReentrant_eq hblank, any_functions_append,
    hsplit, Bool.or_assoc]
  rfl

theorem any_isDestructible_insert (hblank : isBlankText blank = true) (upper lower : List Text) :
    ((upper ++ blank :: lower).findIdxs defLine.opens).any
        (fun i => (functionAt (upper ++ blank :: lower) i).isDestructible) =
      ((upper ++ lower).findIdxs defLine.opens).any
        fun i => (functionAt (upper ++ lower) i).isDestructible := by
  have hstretched (f f' : Function) (h : f.Stretched blank f') :
      f'.isDestructible = f.isDestructible := by
    rw [Function.isDestructible, Function.isDestructible,
      h.occursIn_body_eq hblank (by decide) (by decide),
      h.occursIn_body_eq hblank (by decide +kernel) (by decide)]
  rw [any_functions_insert hblank hstretched, any_functions_append]
  rfl

end BlankLine

end ContractAudit.Catalog.Vyper
