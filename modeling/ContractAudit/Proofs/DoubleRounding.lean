import ContractAudit.Number.Double
import ContractAudit.Proofs.Rounding
import ContractAudit.Proofs.UsableSettings

/-!
# Doubles and rounded fractions

A number of at most 53 binary digits is rounded to itself, so rounding never moves another number
past it. Doubles are rounded in the same way, except that their units have a least size: quotients
and sums of ordinary size are the fractions rounded to 53 digits.
-/
namespace ContractAudit.Number

/-! ## Numbers of few digits -/

theorem RoundsTo.unique {x y y' : ℚ} {m m' : ℕ} {e e' : ℤ} (h : RoundsTo x y m e)
    (h' : RoundsTo x y' m' e') : y = y' :=
  le_antisymm (h.mono h' le_rfl) (h'.mono h le_rfl)

theorem exists_roundsTo_self {n : ℕ} (hn : 0 < n) (hdigits : n < 2 ^ 53) (k : ℤ) :
    ∃ m e, RoundsTo (n * 2 ^ k) (n * 2 ^ k) m e := by
  obtain ⟨j, hj⟩ : ∃ j : ℕ, j = 52 - Nat.log2 n := ⟨_, rfl⟩
  have hlog : Nat.log2 n < 53 := (Nat.log2_lt hn.ne').mpr hdigits
  obtain ⟨hlow, hhigh⟩ := log2_bounds hn
  have hself : ((n * 2 ^ j : ℕ) : ℚ) * 2 ^ (k - j) = n * 2 ^ k := by
    rw [Nat.cast_mul, Nat.cast_pow, Nat.cast_ofNat, mul_assoc, two_pow_mul_zpow,
      add_sub_cancel]
  refine ⟨n * 2 ^ j, k - j, hself.symm, ?_, ?_, ?_⟩
  · rw [← hself, mul_div_cancel_right₀ _ (by positivity)]
    exact nearestEven_natCast _
  · calc (2 : ℚ) ^ 52 * 2 ^ (k - j) = 2 ^ (Nat.log2 n : ℤ) * 2 ^ k := by
          rw [two_pow_mul_zpow, ← zpow_add₀ two_ne_zero]
          congr 1
          push_cast
          omega
      _ ≤ n * 2 ^ k := by gcongr
  · calc (n : ℚ) * 2 ^ k < 2 ^ (Nat.log2 n + 1 : ℤ) * 2 ^ k := by gcongr
      _ = 2 ^ 53 * 2 ^ (k - j) := by
        rw [two_pow_mul_zpow, ← zpow_add₀ two_ne_zero]
        congr 1
        push_cast
        omega

theorem RoundsTo.floor_eq_zero {x y : ℚ} {m : ℕ} {e : ℤ} (h : RoundsTo x y m e)
    (hx : x ≤ 3 / 4) : ⌊y⌋ = 0 := by
  obtain ⟨m', e', hself⟩ := exists_roundsTo_self three_pos (by norm_num) (-2)
  have hvalue : ((3 : ℕ) : ℚ) * 2 ^ (-2 : ℤ) = 3 / 4 := by norm_num
  rw [hvalue] at hself
  have hle : y ≤ 3 / 4 := h.mono hself hx
  have hnonneg : 0 ≤ y := by
    rw [h.eq]
    positivity
  rw [Int.floor_eq_zero_iff, Set.mem_Ico]
  exact ⟨hnonneg, by linarith⟩

namespace Fraction

variable {x : Fraction} {n : ℕ} {k : ℤ}

theorem exists_roundsTo_round (hx : 0 < x.den) (hpos : 0 < x.value) :
    ∃ m e, RoundsTo x.value x.round.value m e := by
  have hden : (0 : ℚ) < x.den := by exact_mod_cast hx
  have hnum : 0 < x.num := by
    have hcast : (0 : ℚ) < x.num := (div_pos_iff_of_pos_right hden).mp hpos
    exact_mod_cast hcast
  rw [value_round, value_eq_natAbs, if_neg hnum.not_gt, if_neg hnum.not_gt]
  exact roundsTo_roundNat (Int.natAbs_pos.mpr hnum.ne') hx

def ofUnits (n : ℕ) (k : ℤ) : Fraction :=
  ⟨n * (2 ^ k.toNat : ℕ), 2 ^ (-k).toNat⟩

theorem den_ofUnits_pos (n : ℕ) (k : ℤ) : 0 < (ofUnits n k).den :=
  Nat.two_pow_pos _

theorem value_ofUnits (n : ℕ) (k : ℤ) : (ofUnits n k).value = n * 2 ^ k := by
  rw [value, ofUnits, two_zpow_eq]
  push_cast
  rw [mul_div_assoc]

theorem value_round_ofUnits (hdigits : n < 2 ^ 53) (k : ℤ) :
    (ofUnits n k).round.value = n * 2 ^ k := by
  rcases Nat.eq_zero_or_pos n with rfl | hn
  · simp [ofUnits, round, roundNat, value]
  have hvalue := value_ofUnits n k
  have hpos : 0 < (ofUnits n k).value := by
    rw [hvalue]
    positivity
  obtain ⟨m, e, hround⟩ := exists_roundsTo_round (den_ofUnits_pos n k) hpos
  obtain ⟨m', e', hself⟩ := exists_roundsTo_self hn hdigits k
  rw [hvalue] at hround
  exact hround.unique hself

theorem round_le_ofUnits (hdigits : n < 2 ^ 53) (hx : 0 < x.den)
    (h : x.value ≤ n * 2 ^ k) : x.round.value ≤ n * 2 ^ k := by
  rw [← value_ofUnits] at h
  rw [← value_round_ofUnits hdigits]
  exact round_mono hx (den_ofUnits_pos n k) h

theorem ofUnits_le_round (hdigits : n < 2 ^ 53) (hx : 0 < x.den)
    (h : n * 2 ^ k ≤ x.value) : n * 2 ^ k ≤ x.round.value := by
  rw [← value_ofUnits] at h
  rw [← value_round_ofUnits hdigits]
  exact round_mono (den_ofUnits_pos n k) hx h

end Fraction

/-! ## Doubles -/

section Exponents

variable {n d : ℕ} {k : ℤ}

theorem le_lastDigitExponent (hn : 0 < n) (hd : 0 < d) (h : (2 : ℚ) ^ (52 + k) ≤ n / d) :
    k ≤ lastDigitExponent n d := by
  have hlt := lt_of_le_of_lt h (lastDigitExponent_bounds hn hd).2
  rw [two_pow_mul_zpow] at hlt
  have hexponent := (zpow_lt_zpow_iff_right₀ one_lt_two).mp hlt
  push_cast at hexponent
  omega

theorem lastDigitExponent_lt (hn : 0 < n) (hd : 0 < d) (h : (n : ℚ) / d < 2 ^ (52 + k)) :
    lastDigitExponent n d < k := by
  have hlt := lt_of_le_of_lt (lastDigitExponent_bounds hn hd).1 h
  rw [two_pow_mul_zpow] at hlt
  have hexponent := (zpow_lt_zpow_iff_right₀ one_lt_two).mp hlt
  push_cast at hexponent
  omega

end Exponents

namespace Double

/-- A quotient is rounded to a whole number of units, which have a least size. -/
theorem exists_ofRatio_eq {n d : ℕ} (hn : 0 < n) (hd : 0 < d) {e : ℤ}
    (he : e = max leastExponent (lastDigitExponent n d)) (hneg : e < 0) :
    ∃ (units : ℕ) (exponent : ℤ) (m : ℕ), ofRatio false n d = finite false units exponent ∧
      (units * 2 ^ exponent : ℚ) = m * 2 ^ e ∧ NearestEven ((n : ℚ) / d / 2 ^ e) m := by
  obtain ⟨m, hm⟩ : ∃ m, m = roundHalfEven (n * Nat.pow 2 (-e).toNat) (d * Nat.pow 2 e.toNat) :=
    ⟨_, rfl⟩
  have hnearest : NearestEven ((n : ℚ) / d / 2 ^ e) m := by
    rw [hm, ← cast_div_cast_eq]
    exact nearestEven_roundHalfEven _ (Nat.mul_pos hd (Nat.two_pow_pos _))
  have hunits : m ≤ 2 ^ 53 := by
    apply hnearest.mono (nearestEven_natCast (2 ^ 53))
    rw [div_le_iff₀ (by positivity)]
    calc (n : ℚ) / d ≤ 2 ^ 53 * 2 ^ lastDigitExponent n d := (lastDigitExponent_bounds hn hd).2.le
      _ ≤ (2 ^ 53 : ℕ) * 2 ^ e := by
        have hle : lastDigitExponent n d ≤ e := by
          rw [he]
          exact le_max_right _ _
        push_cast
        exact mul_le_mul_of_nonneg_left (zpow_le_zpow_right₀ one_le_two hle) (by positivity)
  have hfinite : ¬ Nat.pow 2 1024 ≤ m * Nat.pow 2 e.toNat := by
    have hpow : ∀ j, 53 < j → Nat.pow 2 53 < Nat.pow 2 j :=
      fun j hj => Nat.pow_lt_pow_right Nat.one_lt_two hj
    rw [Int.toNat_of_nonpos hneg.le, Nat.not_le]
    exact Nat.lt_of_le_of_lt (Nat.le_of_eq (Nat.mul_one m))
      (Nat.lt_of_le_of_lt hunits (hpow 1024 (by decide)))
  have hratio : ofRatio false n d =
      if Nat.pow 2 1024 ≤ m * Nat.pow 2 e.toNat then infinite false
      else if m = 0 then zero false
      else if m = Nat.pow 2 53 then finite false (Nat.pow 2 52) (e + 1)
      else finite false m e := by
    rw [hm, he]
    rfl
  rw [hratio, if_neg hfinite]
  split_ifs with hzero htop
  · exact ⟨0, 0, m, rfl, by simp [hzero], hnearest⟩
  · refine ⟨2 ^ 52, e + 1, m, rfl, ?_, hnearest⟩
    rw [htop, zpow_add_one₀ two_ne_zero]
    norm_num
    ring
  · exact ⟨m, e, m, rfl, rfl, hnearest⟩

theorem exists_roundsTo_ofRatio {n d : ℕ} (hn : 0 < n) (hd : 0 < d)
    (hlow : leastExponent ≤ lastDigitExponent n d) (hhigh : lastDigitExponent n d < 0) :
    ∃ (units : ℕ) (exponent : ℤ) (m : ℕ) (e : ℤ), ofRatio false n d = finite false units exponent ∧
      RoundsTo ((n : ℚ) / d) (units * 2 ^ exponent) m e := by
  obtain ⟨units, exponent, m, hratio, hvalue, hnearest⟩ :=
    exists_ofRatio_eq hn hd (max_eq_right hlow).symm hhigh
  obtain ⟨hlower, hupper⟩ := lastDigitExponent_bounds hn hd
  exact ⟨units, exponent, m, _, hratio, hvalue, hnearest, hlower, hupper⟩

theorem unitsAbove_mul {least exponent : ℤ} (h : least ≤ exponent) (units : ℕ) :
    (unitsAbove least false units exponent : ℚ) * 2 ^ least = units * 2 ^ exponent := by
  have hsplit : exponent = ((exponent - least).toNat : ℤ) + least := by omega
  simp only [unitsAbove, Bool.false_eq_true, if_false, Nat.pow_eq]
  push_cast
  rw [mul_assoc, two_pow_mul_zpow, ← hsplit]

theorem exists_add_eq (m n : ℕ) (hn : 0 < n) (d e : ℤ) :
    ∃ num den : ℕ, 0 < num ∧ 0 < den ∧
      (finite false m d).add (finite false n e) = ofRatio false num den ∧
      (num : ℚ) / den = m * 2 ^ d + n * 2 ^ e := by
  obtain ⟨least, hleast⟩ : ∃ least, least = min d e := ⟨_, rfl⟩
  obtain ⟨sum, hsum⟩ : ∃ sum, sum = unitsAbove least false m d + unitsAbove least false n e :=
    ⟨_, rfl⟩
  have hpos : 0 < sum := by
    have hm : 0 ≤ unitsAbove least false m d := by
      simp only [unitsAbove, Bool.false_eq_true, if_false]
      positivity
    have hn' : 0 < unitsAbove least false n e := by
      simp only [unitsAbove, Bool.false_eq_true, if_false, Nat.pow_eq]
      positivity
    omega
  have hadd : (finite false m d).add (finite false n e) =
      ofRatio false (sum.natAbs * Nat.pow 2 least.toNat) (Nat.pow 2 (-least).toNat) := by
    simp only [add, ← hleast, ← hsum, ofUnits, if_neg hpos.ne', decide_eq_false hpos.not_gt]
  refine ⟨_, _, ?_, ?_, hadd, ?_⟩
  · exact Nat.mul_pos (Int.natAbs_pos.mpr hpos.ne') (Nat.two_pow_pos _)
  · exact Nat.two_pow_pos _
  · rw [← unitsAbove_mul (hleast ▸ min_le_left d e), ← unitsAbove_mul (hleast ▸ min_le_right d e),
      ← add_mul, ← Int.cast_add, ← hsum, two_zpow_eq]
    simp only [Nat.pow_eq, Nat.cast_mul, Nat.cast_natAbs, abs_of_pos hpos]
    rw [mul_div_assoc]

theorem ofRatio_zero (d : ℕ) : ofRatio false 0 d = zero false := by
  have hunits : ∀ k, roundHalfEven 0 k = 0 := by
    intro k
    simp [roundHalfEven]
  have hpow : ∀ j, ¬ Nat.pow 2 j ≤ 0 := fun j => Nat.not_le.mpr (Nat.two_pow_pos j)
  simp only [ofRatio, Nat.zero_mul, hunits, hpow, if_false, if_true]

def half : Double :=
  ofDecimal false 5 (-1)

theorem half_eq : half = finite false (2 ^ 52) (-53) := by decide +kernel

theorem exists_roundsTo_add_half {units : ℕ} {exponent : ℤ}
    (h : (units * 2 ^ exponent : ℚ) ≤ 100) :
    ∃ v m e, ((finite false units exponent).add half).value? = some v ∧
      RoundsTo (units * 2 ^ exponent + 1 / 2) v m e := by
  have hhalf : ((2 ^ 52 : ℕ) : ℚ) * 2 ^ (-53 : ℤ) = 1 / 2 := by norm_num
  obtain ⟨num, den, hnum, hden, hadd, hsum⟩ :=
    exists_add_eq units (2 ^ 52) (by norm_num) exponent (-53)
  rw [hhalf] at hsum
  have hlow : -53 ≤ lastDigitExponent num den := by
    apply le_lastDigitExponent hnum hden
    have hnonneg : (0 : ℚ) ≤ units * 2 ^ exponent := by positivity
    rw [hsum]
    norm_num
    linarith
  have hhigh : lastDigitExponent num den < 0 := by
    apply lastDigitExponent_lt hnum hden
    rw [hsum]
    norm_num
    linarith
  obtain ⟨units', exponent', m, e, hratio, hround⟩ :=
    exists_roundsTo_ofRatio hnum hden (le_trans (by decide) hlow) hhigh
  rw [hsum] at hround
  refine ⟨_, m, e, ?_, hround⟩
  rw [half_eq, hadd, hratio]
  simp [value?]

/-- A quotient below one unit of a double of 53 digits is small, and so is its double. -/
theorem exists_ofRatio_small {n d : ℕ} (hn : 0 < n) (hd : 0 < d)
    (h : lastDigitExponent n d < leastExponent) :
    (n : ℚ) / d ≤ 1 / 4 ∧ ∃ (units : ℕ) (exponent : ℤ),
      ofRatio false n d = finite false units exponent ∧ (units * 2 ^ exponent : ℚ) ≤ 1 / 4 := by
  obtain ⟨units, exponent, m, hratio, hvalue, hnearest⟩ :=
    exists_ofRatio_eq hn hd (max_eq_left h.le).symm (by decide)
  have hunits : (n : ℚ) / d ≤ (2 ^ 52 : ℕ) * 2 ^ leastExponent := by
    have hle : (53 : ℤ) + lastDigitExponent n d ≤ 52 + leastExponent := by omega
    rw [Nat.cast_pow, Nat.cast_ofNat, two_pow_mul_zpow]
    refine (lastDigitExponent_bounds hn hd).2.le.trans ?_
    rw [two_pow_mul_zpow]
    exact zpow_le_zpow_right₀ one_le_two (by exact_mod_cast hle)
  have hsmall : ((2 ^ 52 : ℕ) : ℚ) * 2 ^ leastExponent ≤ 1 / 4 := by
    have hquarter : (1 / 4 : ℚ) = 2 ^ (-2 : ℤ) := by norm_num
    rw [Nat.cast_pow, Nat.cast_ofNat, two_pow_mul_zpow, hquarter]
    exact zpow_le_zpow_right₀ one_le_two (by decide)
  refine ⟨hunits.trans hsmall, units, exponent, hratio, ?_⟩
  have hm : m ≤ 2 ^ 52 := by
    apply hnearest.mono (nearestEven_natCast (2 ^ 52))
    rwa [div_le_iff₀ (by positivity)]
  rw [hvalue]
  refine le_trans ?_ hsmall
  have hm' : (m : ℚ) ≤ (2 ^ 52 : ℕ) := by exact_mod_cast hm
  gcongr

end Double

end ContractAudit.Number
