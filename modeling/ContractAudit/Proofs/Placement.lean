import ContractAudit.Proofs.LocatedLines
import ContractAudit.Proofs.Masking
import Mathlib.Data.List.Nodup

/-!
# Findings stand where they say

A finding has a line of the source, or line 0 when its detector fires without a place. Its snippet
shows that line with up to two lines on each side, cut off at the ends of the source, and it is sure
just when it has a place and the source has a structure. No detector is reported more than three
times.
-/
namespace ContractAudit

/-! ## Snippets -/

namespace Text

def linesBetween (t : Text) (first last : Nat) : List Text :=
  ((t.lines.zipIdx 1).filter fun (_, number) => first ≤ number && number ≤ last).map Prod.fst

theorem map_filter_zipIdx (lines : List Text) (number first last : Nat) :
    ((lines.zipIdx number).filter fun (_, n) => first ≤ n && n ≤ last).map Prod.fst =
      (lines.take (last + 1 - number)).drop (first - number) := by
  induction lines generalizing number with
  | nil => simp
  | cons line rest ih =>
    rw [List.zipIdx_cons, List.filter_cons]
    by_cases hlast : last < number
    · -- Past the last line nothing is kept.
      have hcond : (decide (first ≤ number) && decide (number ≤ last)) = false := by
        simp only [Bool.and_eq_false_iff, decide_eq_false_iff_not]
        omega
      rw [if_neg (by simp [hcond]), ih]
      simp [show last + 1 - (number + 1) = 0 by omega, show last + 1 - number = 0 by omega]
    have htake : last + 1 - number = (last + 1 - (number + 1)) + 1 := by omega
    by_cases hfirst : first ≤ number
    · have hcond : (decide (first ≤ number) && decide (number ≤ last)) = true := by
        simp only [Bool.and_eq_true, decide_eq_true_eq]
        omega
      rw [if_pos hcond, List.map_cons, ih, htake, List.take_succ_cons,
        show first - number = 0 by omega, show first - (number + 1) = 0 by omega]
      rfl
    · have hcond : (decide (first ≤ number) && decide (number ≤ last)) = false := by simp [hfirst]
      rw [if_neg (by simp [hcond]), ih, htake, List.take_succ_cons,
        show first - number = (first - (number + 1)) + 1 by omega, List.drop_succ_cons]

theorem lines_unlines {lines : List Text} (hne : lines ≠ [])
    (hlines : ∀ line ∈ lines, '\n' ∉ line) : (unlines lines).lines = lines := by
  induction lines with
  | nil => exact absurd rfl hne
  | cons line rest ih =>
    obtain ⟨hline, hrest⟩ := List.forall_mem_cons.mp hlines
    cases rest with
    | nil => exact lines_of_not_mem hline
    | cons next rest =>
      rw [unlines, lines_append_newline hline, ih (by simp) hrest]
      simp

end Text

namespace Analysis

theorem codeContext_eq {lines : List Text} {n : Nat} (hpos : 0 < n) (hn : n ≤ lines.length) :
    codeContext lines n snippetContext =
      Text.unlines ((lines.take (min lines.length (n + 2))).drop (n - 3)) := by
  have hlast : (min (lines.length : Int) (n + 2)).toNat = min lines.length (n + 2) := by omega
  unfold codeContext snippetContext slice
  rw [if_neg (by omega), if_neg (by omega), show ((n : Int) - 2 - 1).toNat = n - 3 by omega]
  simp only [hlast]

theorem contextLines_ne_nil {lines : List Text} {n : Nat} (hpos : 0 < n) (hn : n ≤ lines.length) :
    (lines.take (min lines.length (n + 2))).drop (n - 3) ≠ [] := by
  rw [ne_eq, List.drop_eq_nil_iff, List.length_take]
  omega

theorem lines_codeContext {code : Text} {n : Nat} (hpos : 0 < n) (hn : n ≤ code.lines.length) :
    (codeContext code.lines n snippetContext).lines =
      code.linesBetween (max 1 (n - 2)) (min code.lines.length (n + 2)) := by
  have hbetween : code.linesBetween (max 1 (n - 2)) (min code.lines.length (n + 2)) =
      (code.lines.take (min code.lines.length (n + 2))).drop (n - 3) := by
    rw [Text.linesBetween, Text.map_filter_zipIdx,
      show min code.lines.length (n + 2) + 1 - 1 = min code.lines.length (n + 2) by omega,
      show max 1 (n - 2) - 1 = n - 3 by omega]
  rw [codeContext_eq hpos hn, hbetween]
  apply Text.lines_unlines (contextLines_ne_nil hpos hn)
  intro line hline
  exact Text.newline_not_mem_of_mem_lines (List.mem_of_mem_take (List.mem_of_mem_drop hline))

/-! ## Findings -/

/-- The place, the snippet and the confidence of a finding fit the source. -/
structure PlacedIn (code : Text) (extracted : Bool) (f : Finding) : Prop where
  bounds : 0 ≤ f.lineNumber ∧ f.lineNumber ≤ code.lines.length
  lineRange : f.lineRange = (f.lineNumber, f.lineNumber)
  snippet : ∀ n : Nat, 0 < n → f.lineNumber = n →
    Text.lines f.snippet.toList =
        code.linesBetween (max 1 (n - 2)) (min code.lines.length (n + 2)) ∧
      max 1 (n - 2) ≤ n ∧ n ≤ min code.lines.length (n + 2)
  snippet_zero : f.lineNumber = 0 → f.snippet = ""
  confidence : f.confidence = if 0 < f.lineNumber ∧ extracted = true then .high else .medium

theorem length_placements_le (located : List Int) : (placements located).length ≤ maxInstances := by
  unfold placements
  split
  · simp [maxInstances]
  · rw [List.length_map, List.length_take]
    exact Nat.min_le_left _ _

theorem placedIn_buildFinding_zero (d : Detector) (code : Text) (extracted : Bool) :
    PlacedIn code extracted (buildFinding d code.lines 0 (settle extracted .medium)) where
  bounds := ⟨Int.le_refl 0, Int.natCast_nonneg _⟩
  lineRange := rfl
  snippet n hpos hn := by
    have hn : (0 : Int) = n := hn
    omega
  snippet_zero _ := rfl
  confidence := by cases extracted <;> rfl

theorem placedIn_buildFinding_succ (d : Detector) (code : Text) (extracted : Bool) {i : Nat}
    (hi : i < code.lines.length) :
    PlacedIn code extracted (buildFinding d code.lines (i + 1) (settle extracted .high)) where
  bounds := by
    have hlast : (i : Int) + 1 ≤ code.lines.length := by omega
    exact ⟨by simp only [buildFinding]; omega, hlast⟩
  lineRange := rfl
  snippet n hpos hn := by
    obtain rfl : n = i + 1 := by
      have hn : (i : Int) + 1 = n := hn
      omega
    refine ⟨?_, by omega, by omega⟩
    simp only [buildFinding, String.toList_ofList]
    exact_mod_cast lines_codeContext hpos (by omega)
  snippet_zero hzero := by
    have hzero : (i : Int) + 1 = 0 := hzero
    omega
  confidence := by
    have hpos : (0 : Int) < i + 1 := by omega
    cases extracted <;> simp [buildFinding, settle, hpos]

theorem placedIn_of_mem_findingsOf {dialect : Dialect} {d : Detector}
    (hd : d ∈ Catalog.of dialect) {extracted : Bool} {code : Text} {f : Finding}
    (hf : f ∈ findingsOf dialect extracted code d) : PlacedIn code extracted f := by
  rcases cases_of_mem_findingsOf hd hf with rfl | ⟨i, hseen, rfl⟩
  · exact placedIn_buildFinding_zero d code extracted
  · exact placedIn_buildFinding_succ d code extracted hseen.lt

theorem length_findingsOf_le (dialect : Dialect) (extracted : Bool) (code : Text) (d : Detector) :
    (findingsOf dialect extracted code d).length ≤ maxInstances := by
  unfold findingsOf
  split
  · rw [instances, List.length_map]
    exact length_placements_le _
  · simp

theorem nodup_ids (dialect : Dialect) : ((Catalog.of dialect).map (·.id)).Nodup := by
  cases dialect <;> decide +kernel

theorem length_filter_id_le_one (dialect : Dialect) (id : String) :
    ((Catalog.of dialect).filter fun d => d.id == id).length ≤ 1 := by
  have hcount := List.nodup_iff_count_le_one.mp (nodup_ids dialect) id
  rwa [List.count, List.countP_map, List.countP_eq_length_filter] at hcount

/-- Since no two detectors have one identifier, the findings with an identifier are from one of
them. -/
theorem length_linesOf_rawFindings_le (id : String) (dialect : Dialect) (extracted : Bool)
    (code : Text) :
    (linesOf id (rawFindings (Catalog.of dialect) dialect extracted code)).length ≤
      maxInstances := by
  have hone := length_filter_id_le_one dialect id
  rw [linesOf_rawFindings]
  generalize (Catalog.of dialect).filter (fun d => d.id == id) = own at hone ⊢
  match own, hone with
  | [], _ => simp [rawFindings, linesOf]
  | [d], _ =>
    calc (linesOf id (rawFindings [d] dialect extracted code)).length
        ≤ (rawFindings [d] dialect extracted code).length := by
          rw [linesOf, List.length_map]
          exact List.length_filter_le _ _
      _ = (findingsOf dialect extracted code d).length := by simp [rawFindings]
      _ ≤ maxInstances := length_findingsOf_le dialect extracted code d
  | _ :: _ :: _, hone => simp at hone

/-- Every finding stands at a line of the source or at none, with the lines around it for a snippet
and a confidence to match, and each detector has at most three of them. -/
theorem run_placedIn (dialect : Dialect) (shape : Structure) (code : Text) :
    let findings := (run (Catalog.of dialect) shape dialect code).findings
    (∀ f ∈ findings, PlacedIn code shape.isExtracted f) ∧
      ∀ d ∈ Catalog.of dialect, (findings.filter fun f => f.detectorId == d.id).length ≤ 3 := by
  refine ⟨?_, ?_⟩
  · intro f hf
    obtain ⟨d, hd, hfd⟩ := List.mem_flatMap.mp (Finding.mem_of_mem_deduplicate hf)
    exact placedIn_of_mem_findingsOf hd hfd
  · intro d _
    have hraw := length_linesOf_rawFindings_le d.id dialect shape.isExtracted code
    rw [linesOf, List.length_map] at hraw
    have hkept := Finding.dedupAfter_sublist [] (rawFindings (Catalog.of dialect) dialect
      shape.isExtracted code)
    exact Nat.le_trans (hkept.filter _).length_le hraw

/-- The last of four lines is reported, and its snippet starts two lines above. -/
theorem run_placedIn_last_line :
    let code := "a\nb\nc\ntx.origin == d".toList
    let shape : Structure := ⟨.solidity, {}, none⟩
    ∃ f ∈ (run (Catalog.of .solidity) shape .solidity code).findings, f.lineNumber = 4 ∧
      PlacedIn code true f ∧
      Text.lines f.snippet.toList = ["b".toList, "c".toList, "tx.origin == d".toList] := by
  intro code shape
  obtain ⟨f, hf, hnumber⟩ :
      ∃ f ∈ (run (Catalog.of .solidity) shape .solidity code).findings, f.lineNumber = 4 := by
    decide +kernel
  have hplaced := (run_placedIn .solidity shape code).1 f hf
  refine ⟨f, hf, hnumber, hplaced, ?_⟩
  rw [(hplaced.snippet 4 (by decide) hnumber).1]
  decide

end Analysis

end ContractAudit
