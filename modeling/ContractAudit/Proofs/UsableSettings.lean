import ContractAudit.Proofs.Acceptance
import ContractAudit.Proofs.Rounding
import ContractAudit.Settings.Load

/-!
# Settings that are accepted and settings that can be used

The check of the settings compares numbers with the ends of their ranges. It does not ask of what
kind a value is: a limit between two whole numbers lies in its range, a timeout that is no number is
not below zero, and a model of any kind is not empty. These are the only values that are accepted
and cannot be used, and of them only the limit can keep an audit from its report.
-/
namespace ContractAudit

/-! ## The numbers that are compared -/

namespace Number

def Double.value? : Double → Option ℚ
  | finite negative units exponent => some ((if negative then -units else units : ℤ) * 2 ^ exponent)
  | _ => none

def Quantity.value? : Quantity → Option ℚ
  | whole n => some n
  | real x => x.value?

theorem mul_two_zpow_le_iff (m n e : ℤ) :
    (m : ℚ) * 2 ^ e ≤ n ↔ m * (2 ^ e.toNat : ℕ) ≤ n * (2 ^ (-e).toNat : ℕ) := by
  have hden : (0 : ℚ) < (2 ^ (-e).toNat : ℕ) := by positivity
  rw [two_zpow_eq, ← mul_div_assoc, div_le_iff₀ hden]
  exact_mod_cast Iff.rfl

theorem le_mul_two_zpow_iff (m n e : ℤ) :
    (n : ℚ) ≤ (m : ℚ) * 2 ^ e ↔ n * (2 ^ (-e).toNat : ℕ) ≤ m * (2 ^ e.toNat : ℕ) := by
  have hden : (0 : ℚ) < (2 ^ (-e).toNat : ℕ) := by positivity
  rw [two_zpow_eq, ← mul_div_assoc, le_div_iff₀ hden]
  exact_mod_cast Iff.rfl

namespace Double

theorem signed_mul (negative : Bool) (units k : ℕ) :
    (if negative then -((units : ℤ) * k) else (units : ℤ) * k) =
      (if negative then -units else units : ℤ) * k := by
  cases negative <;> simp

theorem atMost_iff (x : Double) (n : ℤ) :
    x.atMost n ↔ x = .infinite true ∨ ∃ v, x.value? = some v ∧ v ≤ n := by
  cases x with
  | finite negative units e =>
    simp only [atMost, value?, Nat.pow_eq, signed_mul, decide_eq_true_eq, reduceCtorEq, false_or,
      Option.some.injEq, exists_eq_left']
    exact (mul_two_zpow_le_iff _ n e).symm
  | infinite negative => simp [atMost, value?]
  | nan => simp [atMost, value?]

theorem atLeast_iff (x : Double) (n : ℤ) :
    x.atLeast n ↔ x = .infinite false ∨ ∃ v, x.value? = some v ∧ n ≤ v := by
  cases x with
  | finite negative units e =>
    simp only [atLeast, value?, Nat.pow_eq, signed_mul, decide_eq_true_eq, reduceCtorEq, false_or,
      Option.some.injEq, exists_eq_left']
    exact (le_mul_two_zpow_iff _ n e).symm
  | infinite negative => simp [atLeast, value?]
  | nan => simp [atLeast, value?]

end Double

namespace Quantity

theorem atMost_iff (q : Quantity) (n : ℤ) :
    q.atMost n ↔ q = .real (.infinite true) ∨ ∃ v, q.value? = some v ∧ v ≤ n := by
  cases q with
  | whole m => simp [atMost, value?]
  | real x => simp [atMost, value?, Double.atMost_iff]

theorem atLeast_iff (q : Quantity) (n : ℤ) :
    q.atLeast n ↔ q = .real (.infinite false) ∨ ∃ v, q.value? = some v ∧ n ≤ v := by
  cases q with
  | whole m => simp [atLeast, value?]
  | real x => simp [atLeast, value?, Double.atLeast_iff]

theorem atLeast_and_atMost_iff (q : Quantity) (first last : ℤ) :
    q.atLeast first && q.atMost last ↔ ∃ v, q.value? = some v ∧ first ≤ v ∧ v ≤ last := by
  rw [Bool.and_eq_true, atLeast_iff, atMost_iff]
  constructor
  · rintro ⟨rfl | ⟨v, hv, hfirst⟩, hlast⟩
    · simp [value?, Double.value?] at hlast
    · rcases hlast with rfl | ⟨w, hw, hlast⟩
      · simp [value?, Double.value?] at hv
      · obtain rfl : v = w := Option.some.inj (hv.symm.trans hw)
        exact ⟨v, hv, hfirst, hlast⟩
  · rintro ⟨v, hv, hfirst, hlast⟩
    exact ⟨.inr ⟨v, hv, hfirst⟩, .inr ⟨v, hv, hlast⟩⟩

theorem not_atMost_iff (q : Quantity) (n : ℤ) :
    ¬ q.atMost n ↔
      q = .real (.infinite false) ∨ q = .real .nan ∨ ∃ v, q.value? = some v ∧ n < v := by
  rw [atMost_iff]
  cases q with
  | whole m => simp [value?]
  | real x => cases x <;> simp [value?, Double.value?]

end Quantity

end Number

/-! ## What a setting has to be -/

namespace Setting

def value? (s : Setting) : Option ℚ :=
  s.quantity?.bind Number.Quantity.value?

def integer? : Setting → Option ℤ
  | int n => some n
  | bool b => some (if b then 1 else 0)
  | _ => none

theorem quantity?_eq_real_iff {s : Setting} {x : Number.Double} :
    s.quantity? = some (.real x) ↔ s = .float x := by
  cases s <;> simp [quantity?]

def IsPositive (s : Setting) : Prop :=
  s = .float (.infinite false) ∨ ∃ v, s.value? = some v ∧ 0 < v

def IsWithin (s : Setting) (last : ℤ) : Prop :=
  ∃ v, s.value? = some v ∧ 0 ≤ v ∧ v ≤ last

def IsWholeWithin (s : Setting) (last : ℤ) : Prop :=
  ∃ n, s.integer? = some n ∧ 0 ≤ n ∧ n ≤ last

theorem IsWithin.isWholeWithin_iff {s : Setting} {last : ℤ} (h : s.IsWithin last) :
    s.IsWholeWithin last ↔ ∀ x, s ≠ .float x := by
  obtain ⟨v, hv, hfirst, hlast⟩ := h
  cases s with
  | bool b =>
    obtain rfl : ((if b then 1 else 0 : ℤ) : ℚ) = v := Option.some.inj hv
    have hrange : 0 ≤ (if b then 1 else 0 : ℤ) ∧ (if b then 1 else 0 : ℤ) ≤ last := by
      exact_mod_cast And.intro hfirst hlast
    simpa [IsWholeWithin, integer?] using hrange
  | int n =>
    obtain rfl : (n : ℚ) = v := Option.some.inj hv
    have hrange : 0 ≤ n ∧ n ≤ last := by exact_mod_cast And.intro hfirst hlast
    simpa [IsWholeWithin, integer?] using hrange
  | float x => simp [IsWholeWithin, integer?]
  | _ => simp [value?, quantity?] at hv

end Setting

namespace Settings

structure Usable (s : Settings) : Prop where
  timeout : s.timeout.IsPositive
  maxFindings : s.maxFindings.IsWholeWithin maxEnhanced
  threshold : s.threshold.IsWholeWithin 100
  model : ∃ text, s.model = .str text ∧ text ≠ ""

structure Accepted (s : Settings) : Prop where
  timeout : s.timeout.IsPositive ∨ s.timeout = .float .nan
  maxFindings : s.maxFindings.IsWithin maxEnhanced
  threshold : s.threshold.IsWithin 100
  model : s.model.isEmpty = false

/-- A value is of a kind that the check does not look at. -/
inductive Misfit (s : Settings) : Prop where
  | timeout (h : s.timeout = .float .nan)
  | maxFindings (x : Number.Double) (h : s.maxFindings = .float x)
  | threshold (x : Number.Double) (h : s.threshold = .float x)
  | model (h : ∀ text, s.model ≠ .str text)

theorem Accepted.usable_iff {s : Settings} (h : s.Accepted) : s.Usable ↔ ¬ s.Misfit := by
  constructor
  · rintro ⟨htimeout, hfindings, hthreshold, text, hmodel, -⟩ hmisfit
    cases hmisfit with
    | timeout hnan => simp [hnan, Setting.IsPositive, Setting.value?, Setting.quantity?,
        Number.Quantity.value?, Number.Double.value?] at htimeout
    | maxFindings x hx => exact h.maxFindings.isWholeWithin_iff.mp hfindings x hx
    | threshold x hx => exact h.threshold.isWholeWithin_iff.mp hthreshold x hx
    | model hnone => exact hnone text hmodel
  · intro hfit
    refine ⟨?_, ?_, ?_, ?_⟩
    · exact h.timeout.resolve_right fun hnan => hfit (.timeout hnan)
    · exact h.maxFindings.isWholeWithin_iff.mpr fun x hx => hfit (.maxFindings x hx)
    · exact h.threshold.isWholeWithin_iff.mpr fun x hx => hfit (.threshold x hx)
    · by_contra! hnone
      refine hfit (.model fun text hmodel => ?_)
      have hempty := h.model
      rw [hmodel, hnone text hmodel] at hempty
      exact absurd hempty (by decide)

/-- Of the accepted values only a limit that is no whole number spoils the options of an audit. -/
theorem Accepted.options_usable_iff {s : Settings} (h : s.Accepted) :
    s.options.Usable ↔ ∀ x, s.maxFindings ≠ .float x := by
  obtain ⟨w, hw, -⟩ := h.threshold
  obtain ⟨q, hq, -⟩ := Option.bind_eq_some_iff.mp hw
  obtain ⟨v, hv, -⟩ := h.maxFindings
  have hwanted : s.options.wanted ≠ none := by simp [options, hq]
  constructor
  · rintro ⟨hlimit, -⟩ x hx
    exact hlimit (by simp [options, limit, hx])
  · intro hwhole
    refine ⟨?_, hwanted⟩
    cases hfindings : s.maxFindings with
    | bool b => simp [options, limit, hfindings]
    | int n => simp [options, limit, hfindings]
    | float x => exact absurd hfindings (hwhole x)
    | _ => simp [hfindings, Setting.value?, Setting.quantity?] at hv

/-! ## The check -/

theorem quantity_eq_ok_iff {value : Setting} {q : Number.Quantity} :
    quantity value = .ok q ↔ value.quantity? = some q := by
  unfold quantity
  cases value.quantity? <;> simp

theorem refuse_ne_ok (value : Setting) (error : String → InvalidSetting) (u : Unit) :
    refuse value error ≠ .ok u := by
  simp [refuse]

theorem checkRange_eq_ok_iff {value : Setting} {last : ℤ} {error : String → InvalidSetting}
    {u : Unit} : checkRange value last error = .ok u ↔ value.IsWithin last := by
  simp only [checkRange, bind_eq_ok_iff, quantity_eq_ok_iff, Setting.IsWithin, Setting.value?,
    Option.bind_eq_some_iff]
  constructor
  · rintro ⟨q, hq, hcheck⟩
    split at hcheck
    · rename_i hrange
      obtain ⟨v, hv, hfirst, hlast⟩ := (q.atLeast_and_atMost_iff 0 last).mp hrange
      exact ⟨v, ⟨q, hq, hv⟩, by exact_mod_cast hfirst, hlast⟩
    · exact absurd hcheck (refuse_ne_ok value error u)
  · rintro ⟨v, ⟨q, hq, hv⟩, hfirst, hlast⟩
    have hrange := (q.atLeast_and_atMost_iff 0 last).mpr ⟨v, hv, by exact_mod_cast hfirst, hlast⟩
    exact ⟨q, hq, by rw [if_pos hrange]; rfl⟩

theorem exists_not_atMost_zero_iff {value : Setting} :
    (∃ q, value.quantity? = some q ∧ ¬ q.atMost 0) ↔ value.IsPositive ∨ value = .float .nan := by
  simp only [Number.Quantity.not_atMost_iff, Setting.IsPositive, Setting.value?,
    Option.bind_eq_some_iff]
  constructor
  · rintro ⟨q, hq, rfl | rfl | ⟨v, hv, hpos⟩⟩
    · exact .inl (.inl (Setting.quantity?_eq_real_iff.mp hq))
    · exact .inr (Setting.quantity?_eq_real_iff.mp hq)
    · exact .inl (.inr ⟨v, ⟨q, hq, hv⟩, by exact_mod_cast hpos⟩)
  · rintro ((rfl | ⟨v, ⟨q, hq, hv⟩, hpos⟩) | rfl)
    · exact ⟨_, rfl, .inl rfl⟩
    · exact ⟨q, hq, .inr (.inr ⟨v, hv, by exact_mod_cast hpos⟩)⟩
    · exact ⟨_, rfl, .inr (.inl rfl)⟩

theorem ite_refuse_eq_ok_iff {value : Setting} {error : String → InvalidSetting} {c : Prop}
    [Decidable c] {rest : Except InvalidSetting Unit} :
    (if c then (do refuse value error; rest) else rest) = .ok () ↔ ¬ c ∧ rest = .ok () := by
  by_cases hc : c
  · simp [hc, bind_eq_ok_iff, refuse_ne_ok]
  · simp [hc]

theorem ite_model_eq_ok_iff {empty : Bool} :
    (if empty then .error .model else pure () : Except InvalidSetting Unit) = .ok () ↔
      empty = false := by
  cases empty <;> simp [pure, Except.pure]

theorem validate_eq_ok_iff {s : Settings} : s.validate = .ok () ↔ s.Accepted := by
  simp only [validate, bind_eq_ok_iff, quantity_eq_ok_iff, ite_refuse_eq_ok_iff,
    checkRange_eq_ok_iff, ite_model_eq_ok_iff, exists_const]
  constructor
  · rintro ⟨q, hq, hnot, hfindings, hthreshold, hmodel⟩
    exact ⟨exists_not_atMost_zero_iff.mp ⟨q, hq, hnot⟩, hfindings, hthreshold, hmodel⟩
  · rintro ⟨htimeout, hfindings, hthreshold, hmodel⟩
    obtain ⟨q, hq, hnot⟩ := exists_not_atMost_zero_iff.mpr htimeout
    exact ⟨q, hq, hnot, hfindings, hthreshold, hmodel⟩

theorem load_eq_ok_iff {read : DocumentReader} {files : Files} {path : Option String}
    {env : Environment} {s : Settings} :
    load read files path env = .ok s ↔
      ∃ entries, fileLayer read files path = .ok entries ∧ layered entries (overrides env) = s ∧
        s.Accepted := by
  simp only [load, bind_eq_ok_iff, ← validate_eq_ok_iff]
  refine exists_congr fun entries => and_congr_right fun _ => ?_
  generalize layered entries (overrides env) = settings
  cases hcheck : settings.validate with
  | error e =>
    simp only [reduceCtorEq, false_iff, not_and]
    rintro rfl hok
    simp [hcheck] at hok
  | ok u =>
    simp only [pure, Except.pure, Except.ok.injEq, iff_self_and]
    rintro rfl
    exact hcheck

/-- Whatever the reader makes of the file, settings are loaded just when the layers together are
accepted. They can be used unless a value is of a kind that the check does not look at. -/
theorem load_usable_iff (read : DocumentReader) (files : Files) (path : Option String)
    (env : Environment) (s : Settings) :
    (load read files path env = .ok s ↔
      ∃ entries, fileLayer read files path = .ok entries ∧ layered entries (overrides env) = s ∧
        s.Accepted) ∧
    (load read files path env = .ok s →
      (s.Usable ↔ ¬ s.Misfit) ∧ (s.options.Usable ↔ ∀ x, s.maxFindings ≠ .float x)) := by
  refine ⟨load_eq_ok_iff, ?_⟩
  intro hload
  obtain ⟨_, _, _, haccepted⟩ := load_eq_ok_iff.mp hload
  exact ⟨haccepted.usable_iff, haccepted.options_usable_iff⟩

/-- A timeout that is no number and a limit of one and a half are accepted, and can be used neither
for calls nor for an audit. -/
theorem load_usable_iff_half_limit :
    let half : Number.Double := .finite false (3 * 2 ^ 51) (-52)
    let read : DocumentReader := fun _ => .ok (.map [(.str "ai_max_findings", .float half)])
    let files : Files := fun _ => some (.file .empty)
    ∃ s, load read files none [("CHAINAUDIT_AI_TIMEOUT", "nan")] = .ok s ∧
      s.timeout = .float .nan ∧ s.maxFindings = .float half ∧ ¬ s.Usable ∧ ¬ s.options.Usable := by
  intro half read files
  let s : Settings := { timeout := .float .nan, maxFindings := .float half }
  have haccepted : s.Accepted := by
    refine ⟨.inr rfl, ⟨3 / 2, ?_, by norm_num [maxEnhanced]⟩, ⟨80, rfl, by norm_num⟩, by decide⟩
    simp only [s, half, Setting.value?, Setting.quantity?, Option.bind_some,
      Number.Quantity.value?, Number.Double.value?, Option.some.injEq]
    norm_num
  have hvariable :
      overrides [("CHAINAUDIT_AI_TIMEOUT", "nan")] = [("ai_timeout", .float .nan)] := by
    have hnan : Text.readDouble? ['n', 'a', 'n'] = some .nan := by decide
    simp [overrides, watched, override?, Conversion.convert?, hnan]
  have hload : load read files none [("CHAINAUDIT_AI_TIMEOUT", "nan")] = .ok s := by
    refine (load_usable_iff read files none _ s).1.mpr
      ⟨[("ai_max_findings", .float half)], ?_, ?_, haccepted⟩
    · simp [fileLayer, files, ofFile, read, ofDocument, Setting.isEmpty, Setting.isText,
        knownEntries, unknownNames, names]
    · rw [hvariable]
      rfl
  obtain ⟨husable, hoptions⟩ := (load_usable_iff read files none _ s).2 hload
  exact ⟨s, hload, rfl, rfl, fun h => husable.mp h (.timeout rfl), fun h => hoptions.mp h half rfl⟩

end Settings

end ContractAudit
