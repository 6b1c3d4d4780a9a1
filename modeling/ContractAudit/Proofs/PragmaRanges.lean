import ContractAudit.Proofs.CatalogComposition
import ContractAudit.Proofs.VersionNumbers

/-!
# Version ranges in a pragma

A range of versions may be written from its lower or from its upper end. The version of the source
is the one that is written first, so only a range written from its lower end is judged by the oldest
compiler that it admits. One written from its upper end is judged by a compiler that it does not
even admit, and no longer counts as outdated if that compiler checks arithmetic.
-/
namespace ContractAudit.Source

theorem Version.isBefore_iff {v w : Version} :
    v.isBefore w = true ↔ v.major < w.major ∨ v.major = w.major ∧
      (v.minor < w.minor ∨ v.minor = w.minor ∧ v.patch < w.patch) := by
  simp [Version.isBefore]

theorem Version.isBefore_trans {u v w : Version} (huv : u.isBefore v = true)
    (hvw : v.isBefore w = true) : u.isBefore w = true := by
  rw [isBefore_iff] at huv hvw ⊢
  omega

theorem Version.not_isBefore_self (v : Version) : ¬ v.isBefore v = true := by
  rw [isBefore_iff]
  omega

structure PragmaRange where
  lower : Version
  upper : Version
  lt : lower.isBefore upper = true

inductive Spelling where
  | lowerFirst
  | upperFirst
deriving DecidableEq

def Spelling.other : Spelling → Spelling
  | lowerFirst => upperFirst
  | upperFirst => lowerFirst

namespace PragmaRange

variable (r : PragmaRange)

def first : Spelling → Version
  | .lowerFirst => r.lower
  | .upperFirst => r.upper

def text : Spelling → Text
  | .lowerFirst => ">=".toList ++ (r.lower.text ++ (" <".toList ++ r.upper.text))
  | .upperFirst => "<".toList ++ (r.upper.text ++ (" >=".toList ++ r.lower.text))

def crosses (v : Version) : Bool :=
  r.lower.isBefore v && !r.upper.isBefore v

theorem isBefore_eq_iff (v : Version) :
    r.lower.isBefore v = r.upper.isBefore v ↔ r.crosses v = false := by
  have htrans : r.upper.isBefore v = true → r.lower.isBefore v = true :=
    Version.isBefore_trans r.lt
  cases hlower : r.lower.isBefore v <;> cases hupper : r.upper.isBefore v <;>
    simp_all [crosses]

theorem first_eq_lower_iff (spelling : Spelling) :
    r.first spelling = r.lower ↔ spelling = .lowerFirst := by
  cases spelling with
  | lowerFirst => simp [first]
  | upperFirst =>
    refine iff_of_false (fun heq => ?_) (by decide)
    have hlt := r.lt
    rw [← heq] at hlt
    exact Version.not_isBefore_self _ hlt

theorem constraintVersion?_text (spelling : Spelling) :
    constraintVersion? (r.text spelling) =
      if (r.first spelling).isReadable then .ok (some (r.first spelling))
      else .error .numeralTooLong := by
  have hspace (t : Text) : ∀ c ∈ (' ' :: t).head?, Text.isDecimal c = false :=
    not_decimal_of_mem_head? (by decide) t
  cases spelling with
  | lowerFirst => exact constraintVersion?_append (hspace _) (by decide) r.lower
  | upperFirst => exact constraintVersion?_append (hspace _) (by decide) r.upper

end PragmaRange

end ContractAudit.Source

namespace ContractAudit.Analysis

open Source Catalog.Solidity

section Range

variable {r : PragmaRange} {spelling : Spelling} {code : Text}

theorem version?_of_range (hpragma : pragma? code = some (r.text spelling)) :
    version? code =
      if (r.first spelling).isReadable then .ok (some (r.first spelling))
      else .error .numeralTooLong := by
  simp only [version?, hpragma, r.constraintVersion?_text]

theorem declaredVersion_of_range (hpragma : pragma? code = some (r.text spelling)) :
    declaredVersion code =
      if (r.first spelling).isReadable then .ok (some (r.first spelling))
      else .error .numeralTooLong := by
  rw [declaredVersion, version?_of_range hpragma]
  cases (r.first spelling).isReadable <;> rfl

theorem outdatedCompiler_of_range (hpragma : pragma? code = some (r.text spelling)) :
    outdatedCompiler code =
      if (r.first spelling).isReadable then .ok ((r.first spelling).isBefore checkedArithmetic)
      else .error .numeralTooLong := by
  rw [outdatedCompiler, declaredVersion_of_range hpragma]
  cases (r.first spelling).isReadable <;> rfl

theorem fires_outdated_iff {d : Detector} (hd : d ∈ Catalog.of .solidity)
    (hid : d.id = "outdated-compiler") (hpragma : pragma? code = some (r.text spelling)) :
    fires .solidity code d = true ↔
      (r.first spelling).isReadable = true ∧
        (r.first spelling).isBefore checkedArithmetic = true := by
  have htrigger : d.trigger = outdatedCompiler := trigger_of_id rfl hd hid
  rw [fires_iff_trigger hd, htrigger, outdatedCompiler_of_range hpragma]
  cases (r.first spelling).isReadable <;> simp

theorem fires_overflow_iff {d : Detector} (hd : d ∈ Catalog.of .solidity)
    (hid : d.id = "integer-overflow") (hpragma : pragma? code = some (r.text spelling)) :
    fires .solidity code d = true ↔
      ((r.first spelling).isReadable = true ∧
        (r.first spelling).isBefore checkedArithmetic = true) ∧
      code.mentions "SafeMath" = false ∧ plainArithmetic.occursIn (bare code) = true := by
  have htrigger : d.trigger = uncheckedArithmetic := trigger_of_id rfl hd hid
  rw [fires_iff_trigger hd, htrigger, uncheckedArithmetic, declaredVersion_of_range hpragma]
  cases (r.first spelling).isReadable <;>
    simp [bind, Except.bind, pure, Except.pure, isOutdated, and_assoc]

end Range

/-- A range is judged by the version that is written first. So the version of a source is the lower
end just when that is written first and can be read, a range counts as outdated just when the
version written first can be read and does not check arithmetic, and the two ways to write a range
are judged alike just when the range does not cross the version that first checks arithmetic. -/
theorem pragmaRange_judged_by_first (r : PragmaRange) (spelling : Spelling) {code : Text}
    (hpragma : pragma? code = some (r.text spelling)) :
    (version? code =
      if (r.first spelling).isReadable then .ok (some (r.first spelling))
      else .error .numeralTooLong) ∧
    (version? code = .ok (some r.lower) ↔
      spelling = .lowerFirst ∧ r.lower.isReadable = true) ∧
    (∃ d ∈ Catalog.of .solidity, d.id = "outdated-compiler" ∧
      (fires .solidity code d = true ↔
        (r.first spelling).isReadable = true ∧
          (r.first spelling).isBefore checkedArithmetic = true)) ∧
    (∃ d ∈ Catalog.of .solidity, d.id = "integer-overflow" ∧
      (fires .solidity code d = true ↔
        ((r.first spelling).isReadable = true ∧
          (r.first spelling).isBefore checkedArithmetic = true) ∧
        code.mentions "SafeMath" = false ∧ plainArithmetic.occursIn (bare code) = true)) ∧
    (r.lower.isReadable = true → r.upper.isReadable = true →
      ∀ code', pragma? code' = some (r.text spelling.other) →
        (outdatedCompiler code = outdatedCompiler code' ↔
          r.crosses checkedArithmetic = false)) := by
  refine ⟨version?_of_range hpragma, ?_, ?_, ?_, fun hlower hupper code' hpragma' => ?_⟩
  · rw [version?_of_range hpragma, ← r.first_eq_lower_iff spelling]
    cases hread : (r.first spelling).isReadable with
    | true =>
      simp only [if_true, Except.ok.injEq, Option.some.injEq]
      exact ⟨fun heq => ⟨heq, heq ▸ hread⟩, fun h => h.1⟩
    | false =>
      refine iff_of_false (by simp) ?_
      rintro ⟨heq, hlower⟩
      rw [← heq, hread] at hlower
      exact Bool.false_ne_true hlower
  · obtain ⟨d, hd, hid⟩ : ∃ d ∈ Catalog.of .solidity, d.id = "outdated-compiler" := by decide
    exact ⟨d, hd, hid, fires_outdated_iff hd hid hpragma⟩
  · obtain ⟨d, hd, hid⟩ : ∃ d ∈ Catalog.of .solidity, d.id = "integer-overflow" := by decide
    exact ⟨d, hd, hid, fires_overflow_iff hd hid hpragma⟩
  · have hread (spelling : Spelling) : (r.first spelling).isReadable = true := by
      cases spelling with
      | lowerFirst => exact hlower
      | upperFirst => exact hupper
    rw [outdatedCompiler_of_range hpragma, outdatedCompiler_of_range hpragma', if_pos (hread _),
      if_pos (hread _), Except.ok.injEq, ← r.isBefore_eq_iff]
    cases spelling with
    | lowerFirst => rfl
    | upperFirst => exact eq_comm

/-- Written from its upper end, a range that begins with an old compiler counts as new. -/
theorem pragmaRange_judged_by_first_reversed :
    let r : PragmaRange := ⟨⟨0, 6, 0⟩, ⟨0, 9, 0⟩, by decide⟩
    let code := "pragma solidity <0.9.0 >=0.6.0;\nx += y;".toList
    let code' := "pragma solidity >=0.6.0 <0.9.0;\nx += y;".toList
    pragma? code = some (r.text .upperFirst) ∧ pragma? code' = some (r.text .lowerFirst) ∧
      version? code ≠ .ok (some r.lower) ∧ version? code' = .ok (some r.lower) ∧
      outdatedCompiler code ≠ outdatedCompiler code' := by
  intro r code code'
  have hpragma : pragma? code = some (r.text .upperFirst) := by decide +kernel
  have hpragma' : pragma? code' = some (r.text .lowerFirst) := by decide +kernel
  obtain ⟨-, hlower, -, -, halike⟩ := pragmaRange_judged_by_first r .upperFirst hpragma
  obtain ⟨-, hlower', -⟩ := pragmaRange_judged_by_first r .lowerFirst hpragma'
  refine ⟨hpragma, hpragma', ?_, hlower'.mpr ⟨rfl, by decide⟩, ?_⟩
  · rw [ne_eq, hlower]
    decide
  · rw [ne_eq, halike (by decide) (by decide) code' hpragma']
    decide

end ContractAudit.Analysis
