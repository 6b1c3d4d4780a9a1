import ContractAudit.Proofs.CatalogComposition

/-!
# Triggers that look past comments

A trigger is meant to look at code, so that no comment can switch it on or off. Whatever it computes
from the bare text has this property, and so have the blocks, contracts and versions found there.
Two detectors are about the text as it is written. Of all others only one looks at more than code:
the one for unchecked arithmetic takes a library's name in a comment for a use of the library.
-/
namespace ContractAudit.Catalog.Solidity

open Source

def BareOnly {α : Type} (f : Text → α) : Prop :=
  ∀ a b, bare a = bare b → f a = f b

/-! ## What is found in the bare text -/

theorem bareOnly_functionBlocks : BareOnly functionBlocks := by
  intro a b h
  rw [functionBlocks, functionBlocks, h]

theorem bareOnly_loopBlocks : BareOnly loopBlocks := by
  intro a b h
  rw [loopBlocks, loopBlocks, h]

theorem bareOnly_contracts : BareOnly contracts := by
  intro a b h
  rw [contracts, contracts, h]

theorem bareOnly_pragma? : BareOnly pragma? := by
  intro a b h
  rw [pragma?, pragma?, h]

theorem bareOnly_declaredVersion : BareOnly declaredVersion := by
  intro a b h
  rw [declaredVersion, declaredVersion, version?, version?, bareOnly_pragma? a b h]

def readsRawText : List String :=
  ["rtlo-character", "missing-license", "integer-overflow"]

theorem readsRawText_or_bareOnly : ∀ d ∈ detectors, d.id ∈ readsRawText ∨ BareOnly d.trigger := by
  suffices h : ∀ a b, bare a = bare b →
      ∀ d ∈ detectors, d.id ∈ readsRawText ∨ d.trigger a = d.trigger b by
    intro d hd
    by_cases hid : d.id ∈ readsRawText
    · exact .inl hid
    · exact .inr fun a b hab => (h a b hab d hd).resolve_left hid
  intro a b h
  have hfunctions := bareOnly_functionBlocks a b h
  have hloops := bareOnly_loopBlocks a b h
  have hcontracts := bareOnly_contracts a b h
  have hpragma := bareOnly_pragma? a b h
  have hversion := bareOnly_declaredVersion a b h
  simp only [detectors, List.forall_mem_cons, or_true, true_and, Trigger.when, Trigger.occurs, h,
    reentrantCalls, hasUnprotectedSelfDestruct, hasOpenWithdrawal, hasUncheckedAddress, hfunctions,
    hasCallInLoop, hloops,
    hasHiddenVisibility, hasShadowing, hasMisnamedConstructor, hcontracts,
    hasFloatingPragma, hpragma, outdatedCompiler, hversion,
    unscopedFunctions, hasMalleableSignature, hasUncheckedRecovery, lacksNonce, hasHashCollision,
    hasApproveRace, hasGasGriefing, hasFunctionJump, hasStaleOracle, hasSingleStepOwnership]
  simp [readsRawText]

/-! ## Unchecked arithmetic -/

def calculatesUnchecked (code : Text) : Bool :=
  match declaredVersion code with
  | .ok version => isOutdated version && plainArithmetic.occursIn (bare code)
  | .error _ => false

theorem uncheckedArithmetic_eq_iff {a b : Text} (h : bare a = bare b) :
    uncheckedArithmetic a = uncheckedArithmetic b ↔
      (calculatesUnchecked a = true → a.mentions "SafeMath" = b.mentions "SafeMath") := by
  have hversion := bareOnly_declaredVersion a b h
  unfold uncheckedArithmetic calculatesUnchecked
  rw [← hversion, ← h]
  cases declaredVersion a with
  | error fault => simp [bind, Except.bind]
  | ok version =>
    cases hold : isOutdated version <;> cases plainArithmetic.occursIn (bare a) <;>
      simp [bind, Except.bind, pure, Except.pure, hold]

/-- Comments decide nothing, with one exception: for two sources with one bare text, every detector
that is not about the raw text gives the same answer, unless it is the one for unchecked arithmetic,
the sources calculate with an old compiler, and just one of them names the library. -/
theorem trigger_eq_iff_of_bare_eq {a b : Text} (h : bare a = bare b) :
    ∀ d ∈ detectors, d.id ≠ "rtlo-character" → d.id ≠ "missing-license" →
      (d.trigger a = d.trigger b ↔
        ¬ (d.id = "integer-overflow" ∧ calculatesUnchecked a = true ∧
          a.mentions "SafeMath" ≠ b.mentions "SafeMath")) := by
  intro d hd hoverride hlicense
  by_cases hid : d.id = "integer-overflow"
  · have hd' : d ∈ Catalog.of .solidity := hd
    have htrigger : d.trigger = uncheckedArithmetic := Analysis.trigger_of_id rfl hd' hid
    rw [htrigger, uncheckedArithmetic_eq_iff h]
    simp [hid]
  · have hbare : BareOnly d.trigger :=
      (readsRawText_or_bareOnly d hd).resolve_left
        (by simp [readsRawText, hoverride, hlicense, hid])
    simp [hbare a b h, hid]

/-- A comment that says that the library is not used switches the detector off. -/
theorem trigger_eq_iff_of_bare_eq_safe_comment :
    let a := "pragma solidity 0.7.0;\n// no SafeMath\nx += y;".toList
    let b := "pragma solidity 0.7.0;\n\nx += y;".toList
    bare a = bare b ∧ ∃ d ∈ detectors, d.id = "integer-overflow" ∧ d.trigger a ≠ d.trigger b := by
  intro a b
  have h : bare a = bare b := by decide +kernel
  obtain ⟨d, hd, hid⟩ : ∃ d ∈ detectors, d.id = "integer-overflow" := by decide +kernel
  have hoverride : d.id ≠ "rtlo-character" := by rw [hid]; decide
  have hlicense : d.id ≠ "missing-license" := by rw [hid]; decide
  refine ⟨h, d, hd, hid, fun heq => ?_⟩
  have hnot := (trigger_eq_iff_of_bare_eq h d hd hoverride hlicense).mp heq
  exact hnot ⟨hid, by decide +kernel, by decide +kernel⟩

end ContractAudit.Catalog.Solidity
