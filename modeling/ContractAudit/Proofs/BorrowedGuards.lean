import ContractAudit.Proofs.EntryPoints

/-!
# Guards that belong to another function

The lines of an entry point that are searched for a guard are the fifteen from its declaration on,
whether they belong to it or not. A function that ends before may pass with the guard of a function
below it: it borrows the guard. So an unguarded function is reported unless it borrows a guard, and
one that does not end within the fifteen lines is always reported.
-/
namespace ContractAudit.Catalog.Cairo

open Analysis

/-- Line `j` belongs to the function declared on line `i`: its braces are not closed before. -/
structure InBody (lines : List Text) (i j : Nat) : Prop where
  le : i ≤ j
  goes_on : ∀ e, i ≤ e → e < j → ¬ ClosesAt lines i e

/-- The function declared on line `i` is over before line `j`, which has a guard and is still
searched. -/
structure Borrows (lines : List Text) (i j : Nat) : Prop where
  ended : ∃ e, i ≤ e ∧ e < j ∧ ClosesAt lines i e
  near : j < i + 15
  guard : accessGuard.occursIn (lineAt lines j) = true

section Lines

variable {lines : List Text} {i : Nat}

theorem InBody.le_of_closes {j e : Nat} (h : InBody lines i j) (hie : i ≤ e)
    (hcloses : ClosesAt lines i e) : j ≤ e := by
  by_contra hlt
  exact h.goes_on e hie (by omega) hcloses

theorem mem_window_iff {size : Nat} {line : Text} :
    line ∈ window lines i size ↔ ∃ j, i ≤ j ∧ j < i + size ∧ lines[j]? = some line := by
  simp only [window, List.mem_iff_getElem?, List.getElem?_take, List.getElem?_drop,
    Option.ite_none_right_eq_some]
  constructor
  · rintro ⟨k, hk, hline⟩
    exact ⟨i + k, by omega, by omega, hline⟩
  · rintro ⟨j, hij, hj, hline⟩
    refine ⟨j - i, by omega, ?_⟩
    rwa [Nat.add_sub_cancel' hij]

theorem guardedBy_iff {guard : Pattern} (hguard : guard.inked = true) (size : Nat) :
    guardedBy guard size lines i = true ↔
      ∃ j, i ≤ j ∧ j < i + size ∧ guard.occursIn (lineAt lines j) = true := by
  simp only [guardedBy, List.any_eq_true, mem_window_iff]
  constructor
  · rintro ⟨line, ⟨j, hij, hj, hline⟩, hoccurs⟩
    refine ⟨j, hij, hj, ?_⟩
    rwa [lineAt, List.getD_eq_getElem?_getD, hline, Option.getD_some]
  · rintro ⟨j, hij, hj, hoccurs⟩
    have hlength : j < lines.length := lt_length_of_occursIn hguard hoccurs
    refine ⟨lineAt lines j, ⟨j, hij, hj, ?_⟩, hoccurs⟩
    rw [lineAt, List.getD_eq_getElem?_getD, List.getElem?_eq_getElem hlength, Option.getD_some]

theorem guardedBy_iff_inBody_or_borrows :
    guardedBy accessGuard 15 lines i = true ↔
      (∃ j, InBody lines i j ∧ j < i + 15 ∧ accessGuard.occursIn (lineAt lines j) = true) ∨
        ∃ j, Borrows lines i j := by
  rw [guardedBy_iff (by decide)]
  constructor
  · rintro ⟨j, hij, hnear, hguard⟩
    by_cases hended : ∃ e, i ≤ e ∧ e < j ∧ ClosesAt lines i e
    · exact .inr ⟨j, hended, hnear, hguard⟩
    · refine .inl ⟨j, ⟨hij, fun e hie hej hcloses => ?_⟩, hnear, hguard⟩
      exact hended ⟨e, hie, hej, hcloses⟩
  · rintro (⟨j, hbody, hnear, hguard⟩ | ⟨j, ⟨e, hie, hej, -⟩, hnear, hguard⟩)
    · exact ⟨j, hbody.le, hnear, hguard⟩
    · exact ⟨j, by omega, hnear, hguard⟩

end Lines

theorem fires_missingAccessControl_iff {d : Detector} (hd : d ∈ Catalog.of .cairo)
    (hid : d.id = "cairo-missing-access-control") (code : Text) :
    fires .cairo code d = true ↔ lacksAccessControl code = true := by
  have htrigger : d.trigger = .when lacksAccessControl := trigger_of_id rfl hd hid
  rw [fires_iff_trigger hd, htrigger, Trigger.when, Except.ok.injEq]

/-- The detector fires just when an entry point with a sensitive name has no guard among its own
lines that are searched and borrows none. So one with no guard of its own is reported, unless it
borrows a guard, and whatever follows it if it does not end within fifteen lines. -/
theorem missingAccessControl_unless_borrowed (code : Text) :
    ∃ d ∈ Catalog.of .cairo, d.id = "cairo-missing-access-control" ∧
      let lines := codeLines code
      (fires .cairo code d = true ↔
        ∃ i ∈ entryPoints lines, sensitiveFunction.occursIn (lineAt lines i) = true ∧
          (∀ j, InBody lines i j → j < i + 15 → accessGuard.occursIn (lineAt lines j) = false) ∧
          ∀ j, ¬ Borrows lines i j) ∧
      ∀ i ∈ entryPoints lines, sensitiveFunction.occursIn (lineAt lines i) = true →
        (∀ j, InBody lines i j → accessGuard.occursIn (lineAt lines j) = false) →
          ((guardedBy accessGuard 15 lines i = true ↔ ∃ j, Borrows lines i j) ∧
            (fires .cairo code d = true ∨ ∃ j, Borrows lines i j) ∧
            ((∀ e, i ≤ e → e < i + 14 → ¬ ClosesAt lines i e) → fires .cairo code d = true)) := by
  obtain ⟨d, hd, hid⟩ : ∃ d ∈ Catalog.of .cairo, d.id = "cairo-missing-access-control" := by decide
  refine ⟨d, hd, hid, ?_⟩
  intro lines
  have hfires : fires .cairo code d = true ↔
      ∃ i ∈ entryPoints lines, sensitiveFunction.occursIn (lineAt lines i) = true ∧
        guardedBy accessGuard 15 lines i = false := by
    rw [fires_missingAccessControl_iff hd hid, lacksAccessControl, List.any_eq_true]
    simp only [Bool.and_eq_true, Bool.not_eq_true']
    rfl
  refine ⟨?_, fun i hi hsensitive hunguarded => ?_⟩
  · rw [hfires]
    refine exists_congr fun i => and_congr_right fun _ => and_congr_right fun _ => ?_
    rw [← Bool.not_eq_true, guardedBy_iff_inBody_or_borrows]
    simp only [not_or, not_exists, not_and, Bool.not_eq_true]
  · have hborrows : guardedBy accessGuard 15 lines i = true ↔ ∃ j, Borrows lines i j := by
      rw [guardedBy_iff_inBody_or_borrows]
      refine or_iff_right ?_
      rintro ⟨j, hbody, -, hguard⟩
      rw [hunguarded j hbody] at hguard
      exact Bool.false_ne_true hguard
    have hreported : (¬ ∃ j, Borrows lines i j) → fires .cairo code d = true := by
      intro hnone
      rw [← hborrows, Bool.not_eq_true] at hnone
      exact hfires.mpr ⟨i, hi, hsensitive, hnone⟩
    refine ⟨hborrows, ?_, fun hlong => hreported ?_⟩
    · by_cases h : ∃ j, Borrows lines i j
      · exact .inr h
      · exact .inl (hreported h)
    · rintro ⟨j, ⟨e, hie, hej, hcloses⟩, hnear, -⟩
      exact hlong e hie (by omega) hcloses

/-- The guard stands one line too far below to be borrowed. -/
theorem missingAccessControl_unless_borrowed_far :
    let code := ("#[external(v0)]\nfn withdraw(ref self: T) \x7b\n\x7d" ++
      "\n\n\n\n\n\n\n\n\n\n\n\n\nfn f(ref self: T) \x7b\n self.assert_only_owner();\n\x7d").toList
    let lines := codeLines code
    1 ∈ entryPoints lines ∧ accessGuard.occursIn (lineAt lines 16) = true ∧
      ∃ d ∈ Catalog.of .cairo, d.id = "cairo-missing-access-control" ∧
        fires .cairo code d = true := by
  intro code lines
  obtain ⟨hentry, hsensitive, hcloses, hbody, hfar, hnone⟩ : 1 ∈ entryPoints lines ∧
      sensitiveFunction.occursIn (lineAt lines 1) = true ∧ ClosesAt lines 1 2 ∧
      (∀ j ≤ 2, accessGuard.occursIn (lineAt lines j) = false) ∧
      accessGuard.occursIn (lineAt lines 16) = true ∧
      guardedBy accessGuard 15 lines 1 = false := by
    decide +kernel
  have hunguarded : ∀ j, InBody lines 1 j → accessGuard.occursIn (lineAt lines j) = false :=
    fun j hj => hbody j (hj.le_of_closes (by decide) hcloses)
  obtain ⟨d, hd, hid, -, hreport⟩ := missingAccessControl_unless_borrowed code
  obtain ⟨hborrows, hfires, -⟩ := hreport 1 hentry hsensitive hunguarded
  refine ⟨hentry, hfar, d, hd, hid, hfires.resolve_right ?_⟩
  rw [← hborrows, hnone]
  exact Bool.false_ne_true

/-- A function of two lines passes with the guard of the function below it. -/
theorem missingAccessControl_borrowed :
    let code := ("#[external(v0)]\nfn withdraw(ref self: T) \x7b\n\x7d\nfn f(ref self: T) \x7b\n" ++
      " self.assert_only_owner();\n\x7d").toList
    let lines := codeLines code
    1 ∈ entryPoints lines ∧ sensitiveFunction.occursIn (lineAt lines 1) = true ∧
      (∀ j, InBody lines 1 j → accessGuard.occursIn (lineAt lines j) = false) ∧
      ∀ d ∈ Catalog.of .cairo, d.id = "cairo-missing-access-control" →
        fires .cairo code d = false := by
  intro code lines
  obtain ⟨hentry, hsensitive, hcloses, hbody, hsilent⟩ : 1 ∈ entryPoints lines ∧
      sensitiveFunction.occursIn (lineAt lines 1) = true ∧ ClosesAt lines 1 2 ∧
      (∀ j ≤ 2, accessGuard.occursIn (lineAt lines j) = false) ∧
      lacksAccessControl code = false := by
    decide +kernel
  refine ⟨hentry, hsensitive, fun j hj => ?_, fun d hd hid => ?_⟩
  · exact hbody j (hj.le_of_closes (by decide) hcloses)
  · rw [← Bool.not_eq_true, fires_missingAccessControl_iff hd hid, hsilent]
    exact Bool.false_ne_true

end ContractAudit.Catalog.Cairo
