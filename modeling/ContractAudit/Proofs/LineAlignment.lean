import ContractAudit.Proofs.Lexing
import Mathlib.Data.List.Forall2

/-!
# Comments go, lines stay

Taking comments out of a source leaves out characters, none of them a newline, and does nothing else
to the text. `Thinned` says this of two texts. Every pass over a source thins it, and thinning keeps
each line at its number, so a line found in the bare text is the line of that number in the source.
-/
namespace ContractAudit.Source

/-- The first text is the second with some characters left out, newlines apart. -/
inductive Thinned : Text → Text → Prop
  | nil : Thinned [] []
  | keep {s t : Text} (c : Char) : Thinned s t → Thinned (c :: s) (c :: t)
  | drop {s t : Text} {c : Char} : c ≠ '\n' → Thinned s t → Thinned s (c :: t)

namespace Thinned

theorem trans {s t u : Text} (hst : Thinned s t) (htu : Thinned t u) : Thinned s u := by
  induction htu generalizing s with
  | nil => exact hst
  | keep c _ ih =>
    cases hst with
    | keep _ hst => exact .keep c (ih hst)
    | drop hc hst => exact .drop hc (ih hst)
  | drop hc _ ih => exact .drop hc (ih hst)

theorem sublist {s t : Text} (h : Thinned s t) : s.Sublist t := by
  induction h with
  | nil => exact List.Sublist.refl _
  | keep c _ ih => exact ih.cons_cons c
  | drop _ _ ih => exact ih.cons _

end Thinned

/-! ## Every pass thins the text -/

theorem thinned_dropBlockComments (b : BlockScan) (t : Text) (hb : b.Fits t) :
    Thinned (dropBlockComments b t) t := by
  induction t generalizing b with
  | nil =>
    simp only [dropBlockComments]
    exact .nil
  | cons c rest ih =>
    have hrest := ih (b.step c rest).2 (b.fits_step c rest)
    rw [dropBlockComments_cons b c rest hb]
    split
    · rename_i hdropped
      simp only [Bool.and_eq_true, bne_iff_ne] at hdropped
      exact .drop hdropped.2 hrest
    · exact .keep c hrest

theorem thinned_dropLineComments (s : LineScan) (t : Text) : Thinned (dropLineComments s t) t := by
  induction t generalizing s with
  | nil =>
    simp only [dropLineComments]
    exact .nil
  | cons c rest ih =>
    cases s with
    | code =>
      simp only [dropLineComments]
      split
      · rename_i hmark
        simp only [Bool.and_eq_true, beq_iff_eq] at hmark
        have hc : c ≠ '\n' := by
          rw [hmark.1]
          decide
        exact .drop hc (ih _)
      · exact .keep c (ih _)
    | quoted quote => exact .keep c (ih _)
    | escaped quote => exact .keep c (ih _)
    | comment =>
      simp only [dropLineComments]
      split
      · rename_i hc
        subst hc
        exact .keep _ (ih _)
      · rename_i hc
        exact .drop hc (ih _)

theorem thinned_dropHashComments (inside : Bool) (t : Text) :
    Thinned (dropHashComments inside t) t := by
  induction t generalizing inside with
  | nil => exact .nil
  | cons c rest ih =>
    simp only [dropHashComments]
    split
    · rename_i hc
      subst hc
      exact .keep _ (ih _)
    · rename_i hc
      split
      · exact .drop hc (ih _)
      · exact .keep c (ih _)

theorem thinned_bare (code : Text) : Thinned (bare code) code :=
  (thinned_dropLineComments .code _).trans (thinned_dropBlockComments .code code trivial)

theorem thinned_hashless (code : Text) : Thinned (hashless code) code :=
  thinned_dropHashComments false code

/-! ## Thinning keeps lines in their places -/

theorem lines_newline_cons (t : Text) : Text.lines ('\n' :: t) = [] :: Text.lines t := by
  simp [Text.lines]

theorem exists_lines_cons {c : Char} (hc : c ≠ '\n') (t : Text) :
    ∃ line more, Text.lines t = line :: more ∧ Text.lines (c :: t) = (c :: line) :: more := by
  cases hlines : Text.lines t with
  | nil =>
    cases t with
    | nil => simp [Text.lines] at hlines
    | cons d rest =>
      simp only [Text.lines] at hlines
      split at hlines
      · simp at hlines
      · split at hlines <;> simp at hlines
  | cons line more => exact ⟨line, more, rfl, by simp [Text.lines, hc, hlines]⟩

theorem Thinned.lines_sublist {s t : Text} (h : Thinned s t) :
    List.Forall₂ List.Sublist s.lines t.lines := by
  induction h with
  | nil => exact .cons (List.Sublist.refl _) .nil
  | @keep s t c _ ih =>
    by_cases hc : c = '\n'
    · subst hc
      rw [lines_newline_cons, lines_newline_cons]
      exact .cons (List.Sublist.refl _) ih
    · obtain ⟨line, more, hs, hcs⟩ := exists_lines_cons hc s
      obtain ⟨line', more', ht, hct⟩ := exists_lines_cons hc t
      rw [hs, ht] at ih
      obtain ⟨hline, hmore⟩ := List.forall₂_cons.mp ih
      rw [hcs, hct]
      exact .cons (hline.cons_cons c) hmore
  | @drop s t c hc _ ih =>
    obtain ⟨line, more, ht, hct⟩ := exists_lines_cons hc t
    rw [ht] at ih
    obtain ⟨kept, rest, hline, hmore, hs⟩ := List.forall₂_cons_right_iff.mp ih
    rw [hs, hct]
    exact .cons (hline.cons c) hmore

/-- The source without its comments, of either kind, has as many lines as the source, and each of
them is the line of that number with some characters left out. -/
theorem bare_hashless_lines_sublist (code : Text) :
    List.Forall₂ List.Sublist (bare code).lines code.lines ∧
      List.Forall₂ List.Sublist (hashless code).lines code.lines :=
  ⟨(thinned_bare code).lines_sublist, (thinned_hashless code).lines_sublist⟩

/-- A block comment over three lines leaves all three, and so does a hash that looks like a version
declaration only because of the line after it. -/
example :
    (bare "a /* b\n c */ d // e\nf".toList).lines = ["a ".toList, " d ".toList, "f".toList] ∧
      (hashless "a # \n pragma\nb # c".toList).lines =
        ["a # ".toList, " pragma".toList, "b ".toList] := by
  decide

end ContractAudit.Source
