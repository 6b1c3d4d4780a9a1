import ContractAudit.Proofs.BlockDetectors
import ContractAudit.Proofs.FirstOccurrences

/-!
# The cap on the lines of one detector

Of the lines that a detector has located the first three are taken, and repetitions are dropped only
afterwards. A line that is located three times fills the cap alone, so that a line located after it
is lost. Detectors that leave their lines to a matcher are safe, since a matcher sees every line
once.
-/
namespace ContractAudit.Analysis

variable {dialect : Dialect} {d : Detector} {code : Text} {located : List Int}

theorem rawFindings_singleton (h : evaluate dialect d code = .ok (some located))
    (extracted : Bool) :
    rawFindings [d] dialect extracted code = instances d located code.lines extracted := by
  simp [rawFindings, findingsOf, h]

theorem instances_map_lineNumber (d : Detector) (located : List Int) (lines : List Text)
    (extracted : Bool) :
    (instances d located lines extracted).map (·.lineNumber) =
      if located = [] then [0] else located.take maxInstances := by
  rw [← placements_map_fst, instances, List.map_map]
  rfl

theorem lines_run_singleton (h : evaluate dialect d code = .ok (some located))
    (shape : Structure) :
    (run [d] shape dialect code).findings.map (·.lineNumber) =
      distinct (if located = [] then [0] else located.take maxInstances) := by
  have hraw := rawFindings_singleton h shape.isExtracted
  have hweakness : ∀ f ∈ rawFindings [d] dialect shape.isExtracted code,
      f.weaknessId = d.weaknessId := by
    intro f hf
    obtain ⟨e, he, hfe⟩ := List.mem_flatMap.mp hf
    rw [List.mem_singleton.mp he] at hfe
    exact (reportedBy_of_mem_findingsOf hfe).weaknessId
  have hkey : ∀ f ∈ rawFindings [d] dialect shape.isExtracted code,
      ∀ g ∈ rawFindings [d] dialect shape.isExtracted code,
        id f.lineNumber = id g.lineNumber ↔ f.key = g.key := by
    intro f hf g hg
    simp [Finding.key, hweakness f hf, hweakness g hg]
  rw [run, Finding.deduplicate_eq_firstsBy, ← firstsBy_map hkey, hraw, instances_map_lineNumber]
  rfl

theorem nodup_located_of_matcher (h : evaluate dialect d code = .ok (some located))
    (hmatcher : d.locate = none) : located.Nodup := by
  obtain ⟨-, hlocate⟩ := evaluate_eq_some_iff.mp h
  rw [locate, hmatcher] at hlocate
  simp only at hlocate
  split at hlocate
  · simp at hlocate
  · obtain rfl := Except.ok.inj hlocate
    exact (pairwise_matchedLines _ _ _ _).imp Int.ne_of_lt

/-- Reported are the different lines among the first three that the detector locates. They are the
first three different lines just when those three differ or no other line is located, which is so
for every detector without a locator of its own. -/
theorem run_singleton_capped (d : Detector) (shape : Structure) (dialect : Dialect) (code : Text)
    (located : List Int) (h : evaluate dialect d code = .ok (some located)) :
    let lines := (run [d] shape dialect code).findings.map (·.lineNumber)
    lines = (if located = [] then [0] else distinct (located.take 3)) ∧
      (lines = (if located = [] then [0] else (distinct located).take 3) ↔
        (located.take 3).Nodup ∨ ∀ n ∈ located, n ∈ located.take 3) ∧
      (d.locate = none → located.Nodup) := by
  intro lines
  have hlines : lines = if located = [] then [0] else distinct (located.take 3) := by
    rw [show lines = _ from lines_run_singleton h shape]
    split_ifs
    · exact distinct_eq_self (List.nodup_singleton 0)
    · rfl
  refine ⟨hlines, ?_, nodup_located_of_matcher h⟩
  rw [hlines]
  by_cases hnone : located = []
  · simp [hnone]
  · rw [if_neg hnone, if_neg hnone]
    exact distinct_take_eq_iff 3 located

/-- Three functions without visibility on one line hide the fourth on the next. -/
theorem run_singleton_capped_crowded_line :
    let code := ("function a() \x7b\x7d function b() \x7b\x7d function c() \x7b\x7d\n" ++
      "function d() \x7b\x7d").toList
    ∃ d ∈ Catalog.of .solidity, d.id = "missing-visibility" ∧
      evaluate .solidity d code = .ok (some [1, 1, 1, 2]) ∧
      ∀ shape,
        let lines := (run [d] shape .solidity code).findings.map (·.lineNumber)
        lines = [1] ∧ lines ≠ (distinct [1, 1, 1, 2]).take 3 := by
  intro code
  obtain ⟨d, hd, hid, hevaluate⟩ : ∃ d ∈ Catalog.of .solidity, d.id = "missing-visibility" ∧
      evaluate .solidity d code = .ok (some [1, 1, 1, 2]) := by
    decide +kernel
  refine ⟨d, hd, hid, hevaluate, fun shape => ?_⟩
  obtain ⟨hlines, hfirst, -⟩ := run_singleton_capped d shape .solidity code _ hevaluate
  refine ⟨hlines.trans (by decide), fun heq => ?_⟩
  have hlost := hfirst.mp heq
  revert hlost
  decide

end ContractAudit.Analysis
