import ContractAudit.Proofs.BlockLocality
import ContractAudit.Proofs.Placement

/-!
# What the detectors of blocks report

The detector of reentrancy finds its own lines, and they are just the calls that offend. The other
detectors that judge blocks leave their lines to a pattern that knows nothing of blocks. Once some
block offends, the first three lines of the source that match are reported, whether they stand in
that block, in one with a guard or in none at all.
-/
namespace ContractAudit

namespace Analysis

open Source Catalog.Solidity

theorem lineNumber_pos_of_mem_findingsOf {dialect : Dialect} {d : Detector}
    (hd : d ∈ Catalog.of dialect) {extracted : Bool} {code : Text} {f : Finding}
    (hplace : ∀ located, evaluate dialect d code = .ok (some located) → located ≠ [])
    (hf : f ∈ findingsOf dialect extracted code d) : 0 < f.lineNumber := by
  unfold findingsOf at hf
  split at hf
  · rename_i located hevaluate
    have hne : located.isEmpty = false := by simpa using hplace located hevaluate
    obtain ⟨⟨n, confidence⟩, hmem, rfl⟩ := List.mem_map.mp hf
    rw [placements, hne] at hmem
    obtain ⟨m, hm, heq⟩ := List.mem_map.mp hmem
    obtain ⟨rfl, -⟩ := Prod.mk.inj heq
    obtain ⟨i, rfl, -⟩ := sighting_of_evaluate hd hevaluate (List.mem_of_mem_take hm)
    have hline : (0 : Int) < i + 1 := by omega
    exact hline
  · simp at hf

theorem evaluate_of_reentrancy {d : Detector} (hd : d ∈ Catalog.of .solidity)
    (hid : d.id = "reentrancy") (code : Text) :
    evaluate .solidity d code =
      if reentrantCalls code = [] then .ok none
      else .ok (some ((reentrantCalls code).map Int.ofNat)) := by
  have hsearch : ∀ d ∈ Catalog.of .solidity, d.id = "reentrancy" →
      d.trigger = .when (fun code => !(reentrantCalls code).isEmpty) ∧
        d.locate = some (located reentrantCalls) := by
    simp only [Catalog.of, detectors, List.forall_mem_cons]
    simp
  obtain ⟨htrigger, hlocate⟩ := hsearch d hd hid
  rw [evaluate, htrigger, locate, hlocate]
  cases hcalls : reentrantCalls code with
  | nil => simp [Trigger.when, hcalls, bind, Except.bind, pure, Except.pure]
  | cons n rest => simp [Trigger.when, located, hcalls, bind, Except.bind, pure, Except.pure]

theorem lineNumber_pos_of_reentrancy {shape : Structure} {code : Text} {f : Finding}
    (hf : f ∈ (run (Catalog.of .solidity) shape .solidity code).findings)
    (hid : f.detectorId = "reentrancy") : 0 < f.lineNumber := by
  obtain ⟨d, hd, hfd⟩ := List.mem_flatMap.mp (Finding.mem_of_mem_deduplicate hf)
  have hdid : d.id = "reentrancy" := by rw [← (reportedBy_of_mem_findingsOf hfd).detectorId, hid]
  refine lineNumber_pos_of_mem_findingsOf hd ?_ hfd
  intro located hevaluate
  rw [evaluate_of_reentrancy hd hdid] at hevaluate
  split at hevaluate
  · simp at hevaluate
  · rename_i hcalls
    obtain rfl : (reentrantCalls code).map Int.ofNat = located := by simpa using hevaluate
    simpa using hcalls

/-- The lines reported are, function by function and from top to bottom, the transfers below the
header of a function without a lock that a later line of the function follows with a write. The
detector fires just when there is such a pair of lines, and it never goes without a place. -/
theorem reentrancy_located_exactly (code : Text) :
    (reentrantCalls code =
        ((functionBlocks code).filter fun b => !nonReentrant.occursIn b.header).flatMap
          fun b : Block => ((List.range b.lines.length).filter fun i =>
            1 ≤ i ∧ ∃ j, WriteAfterTransfer b.lines i j).map (b.start + ·)) ∧
      ∃ d ∈ Catalog.of .solidity, d.id = "reentrancy" ∧
        (∀ located, evaluate .solidity d code = .ok (some located) →
          located = (reentrantCalls code).map Int.ofNat) ∧
        (fires .solidity code d = true ↔
          ∃ b ∈ functionBlocks code, nonReentrant.occursIn b.header = false ∧
            ∃ i j, 1 ≤ i ∧ WriteAfterTransfer b.lines i j) ∧
        ∀ shape, ∀ f ∈ (run (Catalog.of .solidity) shape .solidity code).findings,
          f.detectorId = d.id → 0 < f.lineNumber := by
  obtain ⟨d, hd, hid⟩ : ∃ d ∈ Catalog.of .solidity, d.id = "reentrancy" := by decide
  have hevaluate := evaluate_of_reentrancy hd hid code
  refine ⟨reentrantCalls_eq code, d, hd, hid, ?_, ?_, ?_⟩
  · intro located hlocated
    rw [hevaluate] at hlocated
    split at hlocated
    · simp at hlocated
    · exact (Option.some.inj (Except.ok.inj hlocated)).symm
  · rw [← reentrantCalls_ne_nil_iff, fires, hevaluate]
    by_cases hcalls : reentrantCalls code = []
    · simp [hcalls]
    · simp [hcalls]
  · intro shape f hf hfid
    exact lineNumber_pos_of_reentrancy hf (hfid.trans hid)

/-- Of four transfers two are reported: one has a write only on its own line, and one stands in a
function with a lock. -/
theorem reentrancy_located_exactly_locked :
    let code := ("function f() public \x7b\n a.transfer(1);\n x = b.send(1);\n y = c.send(1);\n" ++
      "\x7d\nfunction g() public lock \x7b\n a.transfer(1);\n x = 1;\n\x7d").toList
    reentrantCalls code = [2, 3] ∧
      ∃ f ∈ (run (Catalog.of .solidity) ⟨.solidity, {}, none⟩ .solidity code).findings,
        f.detectorId = "reentrancy" ∧ 0 < f.lineNumber := by
  intro code
  obtain ⟨-, d, -, hid, -, -, hplace⟩ := reentrancy_located_exactly code
  obtain ⟨f, hf, hfid⟩ :
      ∃ f ∈ (run (Catalog.of .solidity) ⟨.solidity, {}, none⟩ .solidity code).findings,
        f.detectorId = "reentrancy" := by decide +kernel
  exact ⟨by decide +kernel, f, hf, hfid, hplace _ f hf (hfid.trans hid.symm)⟩

/-! ## Lines left to a pattern -/

theorem matchedLines_eq (hashes : Bool) (matcher : LineMatcher) (number : Nat)
    (lines : List Text) :
    matchedLines hashes matcher number lines =
      ((lines.zipIdx number).filter fun (line, _) =>
        !isCommentLine hashes line && matcher.accepts line).map fun (_, n) => (n : Int) := by
  induction lines generalizing number with
  | nil => rfl
  | cons line rest ih =>
    rw [matchedLines, List.zipIdx_cons, List.filter_cons, ih]
    split <;> rfl

theorem pairwise_matchedLines (hashes : Bool) (matcher : LineMatcher) (number : Nat)
    (lines : List Text) : (matchedLines hashes matcher number lines).Pairwise (· < ·) := by
  have hnumbers : ((lines.zipIdx number).map Prod.snd).Pairwise (· < ·) := by
    rw [List.zipIdx_map_snd]
    exact List.pairwise_lt_range'
  rw [matchedLines_eq, List.pairwise_map]
  exact ((List.pairwise_map.mp hnumbers).filter _).imp fun hlt => Int.ofNat_lt.mpr hlt

theorem placements_map_fst (located : List Int) :
    (placements located).map Prod.fst =
      if located = [] then [0] else located.take maxInstances := by
  cases located with
  | nil => rfl
  | cons n rest => simp [placements, Function.comp_def]

theorem filter_id_eq_singleton {dialect : Dialect} {d : Detector} (hd : d ∈ Catalog.of dialect) :
    ((Catalog.of dialect).filter fun e => e.id == d.id) = [d] := by
  have hone := length_filter_id_le_one dialect d.id
  have hmem : d ∈ (Catalog.of dialect).filter fun e => e.id == d.id :=
    List.mem_filter.mpr ⟨hd, beq_self_eq_true d.id⟩
  generalize (Catalog.of dialect).filter (fun e => e.id == d.id) = own at hone hmem ⊢
  match own, hone with
  | [], _ => simp at hmem
  | [e], _ => rw [List.mem_singleton.mp hmem]
  | _ :: _ :: _, hone => simp at hone

theorem eq_of_id_eq {dialect : Dialect} {d e : Detector} (hd : d ∈ Catalog.of dialect)
    (he : e ∈ Catalog.of dialect) (hid : e.id = d.id) : e = d := by
  have hmem : e ∈ (Catalog.of dialect).filter fun e => e.id == d.id :=
    List.mem_filter.mpr ⟨he, by simpa using hid⟩
  rw [filter_id_eq_singleton hd] at hmem
  exact List.mem_singleton.mp hmem

/-- A detector whose weakness no other detector shares loses none of its lines. -/
theorem linesOf_run {dialect : Dialect} {d : Detector} (hd : d ∈ Catalog.of dialect)
    (hown : ∀ e ∈ Catalog.of dialect, e.weaknessId = d.weaknessId → e.id = d.id)
    {shape : Structure} {code : Text}
    (hlines : ((findingsOf dialect shape.isExtracted code d).map (·.lineNumber)).Pairwise (· ≠ ·)) :
    linesOf d.id (run (Catalog.of dialect) shape dialect code).findings =
      (findingsOf dialect shape.isExtracted code d).map (·.lineNumber) := by
  -- The key of a finding tells whether it is one of this detector's.
  have hkeys : ∀ f ∈ rawFindings (Catalog.of dialect) dialect shape.isExtracted code,
      ∀ g ∈ rawFindings (Catalog.of dialect) dialect shape.isExtracted code,
        f.key = g.key → (f.detectorId == d.id) = (g.detectorId == d.id) := by
    intro f hf g hg hkey
    obtain ⟨e, he, -, hfe⟩ := exists_reportedBy hf
    obtain ⟨e', he', -, hge⟩ := exists_reportedBy hg
    have hweakness : e.weaknessId = e'.weaknessId := by
      rw [← hfe.weaknessId, ← hge.weaknessId]
      exact congrArg Prod.fst hkey
    rw [hfe.detectorId, hge.detectorId, Bool.eq_iff_iff, beq_iff_eq, beq_iff_eq]
    constructor
    · intro hid
      obtain rfl := eq_of_id_eq hd he hid
      exact hown e' he' hweakness.symm
    · intro hid
      obtain rfl := eq_of_id_eq hd he' hid
      exact hown e he hweakness
  have hdistinct : (findingsOf dialect shape.isExtracted code d).Pairwise
      fun g f => g.key ≠ f.key :=
    (List.pairwise_map.mp hlines).imp fun hne hkey => hne (congrArg Prod.snd hkey)
  have hone : rawFindings [d] dialect shape.isExtracted code =
      findingsOf dialect shape.isExtracted code d := by simp [rawFindings]
  have hkept := Finding.deduplicate_filter hkeys
  rw [filter_rawFindings, filter_id_eq_singleton hd, hone,
    Finding.deduplicate_eq_self hdistinct] at hkept
  rw [linesOf, run, hkept]

end Analysis

def Source.Block.Spans (b : Source.Block) (n : Int) : Prop :=
  b.start ≤ n ∧ n < b.start + b.lines.length

instance (b : Source.Block) (n : Int) : Decidable (b.Spans n) :=
  inferInstanceAs (Decidable (_ ∧ _))

namespace Catalog.Solidity.BlockTest

open Source Analysis

def offending (t : BlockTest) (code : Text) : List Block :=
  (t.blocks code).filter t.offends

def sighted (t : BlockTest) (code : Text) : List Int :=
  ((code.lines.zipIdx 1).filter fun (line, _) =>
    !isCommentLine false line && t.reports.occursIn line).map fun (_, n) => (n : Int)

theorem offending_eq_nil_iff (t : BlockTest) (code : Text) :
    t.offending code = [] ↔ t.holds code = false := by
  rw [offending, holds, List.filter_eq_nil_iff, List.any_eq_false]

theorem pos_of_mem_sighted {t : BlockTest} {code : Text} {n : Int} (h : n ∈ t.sighted code) :
    0 < n := by
  obtain ⟨⟨line, m⟩, hm, rfl⟩ := List.mem_map.mp h
  have hle := (List.mem_zipIdx (List.mem_filter.mp hm).1).1
  simp only
  omega

theorem evaluate_eq {t : BlockTest}
    (ht : t ∈ [unprotectedSelfDestruct, openWithdrawal, uncheckedAddress, callInLoop])
    {d : Detector} (hd : d ∈ Catalog.of .solidity) (hid : d.id = t.id) (code : Text) :
    evaluate .solidity d code =
      if t.offending code = [] then .ok none else .ok (some (t.sighted code)) := by
  obtain ⟨htrigger, hmatcher, hlocate⟩ := detector_eq ht d hd hid
  have hfault := matcherFault?_eq_none (Catalog.matcher_inked .solidity d hd)
  rw [hmatcher] at hfault
  have hlines : locate .solidity d code = .ok (t.sighted code) := by
    simp only [locate, hlocate, hmatcher, hfault, matchedLines_eq]
    rfl
  rw [evaluate, hlines, htrigger]
  by_cases hholds : t.holds code = true
  · have hne : t.offending code ≠ [] := by simp [offending_eq_nil_iff, hholds]
    rw [if_neg hne]
    simp [Trigger.when, hholds, bind, Except.bind, pure, Except.pure]
  · rw [if_pos ((t.offending_eq_nil_iff code).mpr (by simpa using hholds))]
    simp [Trigger.when, hholds, bind, Except.bind, pure, Except.pure]

theorem exists_detector : ∀ t ∈ [unprotectedSelfDestruct, openWithdrawal, callInLoop],
    ∃ d ∈ Catalog.of .solidity, d.id = t.id := by
  decide

theorem weakness_unshared : ∀ t ∈ [unprotectedSelfDestruct, openWithdrawal, callInLoop],
    ∀ d ∈ Catalog.of .solidity, d.id = t.id →
      ∀ e ∈ Catalog.of .solidity, e.weaknessId = d.weaknessId → e.id = d.id := by
  decide +kernel

theorem pairwise_sighted (t : BlockTest) (code : Text) :
    (t.sighted code).Pairwise (· < ·) := by
  have horder := pairwise_matchedLines false (.pattern t.reports) 1 code.lines
  rwa [matchedLines_eq] at horder

theorem linesOf_run_eq {t : BlockTest}
    (ht : t ∈ [unprotectedSelfDestruct, openWithdrawal, callInLoop]) (shape : Structure)
    (code : Text) :
    linesOf t.id (run (Catalog.of .solidity) shape .solidity code).findings =
      if t.offending code = [] then []
      else if t.sighted code = [] then [0]
      else (t.sighted code).take maxInstances := by
  have htest : t ∈ [unprotectedSelfDestruct, openWithdrawal, uncheckedAddress, callInLoop] := by
    simp only [List.mem_cons, List.not_mem_nil, or_false] at ht ⊢
    tauto
  obtain ⟨d, hd, hid⟩ := exists_detector t ht
  have hlines : (findingsOf .solidity shape.isExtracted code d).map (·.lineNumber) =
      if t.offending code = [] then []
      else if t.sighted code = [] then [0]
      else (t.sighted code).take maxInstances := by
    rw [findingsOf, evaluate_eq htest hd hid]
    by_cases hquiet : t.offending code = []
    · rw [if_pos hquiet, if_pos hquiet]
      rfl
    · rw [if_neg hquiet, if_neg hquiet, ← placements_map_fst]
      simp only [instances, List.map_map]
      rfl
  have hdistinct : ((findingsOf .solidity shape.isExtracted code d).map
      (·.lineNumber)).Pairwise (· ≠ ·) := by
    rw [hlines]
    split_ifs
    · exact .nil
    · exact List.pairwise_singleton _ _
    · exact ((t.pairwise_sighted code).imp Int.ne_of_lt).sublist (List.take_sublist _ _)
  rw [← hid, linesOf_run hd (weakness_unshared t ht d hd hid) hdistinct, hlines]

end Catalog.Solidity.BlockTest

namespace Analysis

open Source Catalog.Solidity

/-- As soon as some block offends, the first three lines that match are reported wherever they
stand. So the lines reported stand in blocks that offend just when those three happen to. -/
theorem blockTest_lines_inside_iff (shape : Structure) (code : Text) :
    ∀ t ∈ [BlockTest.unprotectedSelfDestruct, .openWithdrawal, .callInLoop],
      let lines := linesOf t.id (run (Catalog.of .solidity) shape .solidity code).findings
      lines = (if t.offending code = [] then []
        else if t.sighted code = [] then [0] else (t.sighted code).take maxInstances) ∧
      ((∀ n ∈ lines, 0 < n → ∃ b ∈ t.offending code, b.Spans n) ↔
        t.offending code = [] ∨
          ∀ n ∈ (t.sighted code).take maxInstances, ∃ b ∈ t.offending code, b.Spans n) := by
  intro t ht lines
  have hlines : lines = _ := t.linesOf_run_eq ht shape code
  refine ⟨hlines, ?_⟩
  rw [hlines]
  by_cases hquiet : t.offending code = []
  · simp [hquiet]
  by_cases hunseen : t.sighted code = []
  · simp [hquiet, hunseen]
  rw [if_neg hquiet, if_neg hunseen, or_iff_right hquiet]
  constructor
  · intro hinside n hn
    exact hinside n hn (BlockTest.pos_of_mem_sighted (List.mem_of_mem_take hn))
  · intro hinside n hn _
    exact hinside n hn

/-- The call in the upper function is reported, though the function is guarded. -/
theorem blockTest_lines_inside_iff_guarded :
    let code := ("function a() onlyOwner \x7b\n selfdestruct(x);\n\x7d\n" ++
      "function b() \x7b\n selfdestruct(x);\n\x7d").toList
    let lines := linesOf "unprotected-selfdestruct"
      (run (Catalog.of .solidity) ⟨.solidity, {}, none⟩ .solidity code).findings
    lines = [2, 5] ∧ ¬ ∀ n ∈ lines, 0 < n →
      ∃ b ∈ BlockTest.unprotectedSelfDestruct.offending code, b.Spans n := by
  intro code lines
  obtain ⟨hlines, hinside⟩ := blockTest_lines_inside_iff ⟨.solidity, {}, none⟩ code
    .unprotectedSelfDestruct (List.mem_cons_self ..)
  refine ⟨hlines.trans (by decide +kernel), ?_⟩
  intro hall
  have hlines := hinside.mp hall
  revert hlines
  decide +kernel

end Analysis

end ContractAudit
