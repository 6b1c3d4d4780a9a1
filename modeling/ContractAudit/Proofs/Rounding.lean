import ContractAudit.Number.Binary
import Mathlib.Algebra.Order.Field.Power
import Mathlib.Data.Nat.Log
import Mathlib.Data.Rat.Floor
import Mathlib.Tactic.Linarith
import Mathlib.Tactic.Positivity

/-!
# Rounding keeps the order

Fractions are read as rational numbers. A positive number is rounded on the grid of its binade, the
range from one power of two to the next: within a binade the nearest point of a grid is monotone, a
tie going to the even neighbour included, and a number of a lower binade is rounded at most to the
power of two at which the next one starts.
-/
namespace ContractAudit.Number

def Fraction.value (x : Fraction) : ℚ :=
  x.num / x.den

/-! ## The nearest whole number -/

/-- No whole number is nearer, and of two that are as near this is the even one. -/
def NearestEven (x : ℚ) (m : ℕ) : Prop :=
  |(m : ℚ) - x| ≤ 1 / 2 ∧ (|(m : ℚ) - x| = 1 / 2 → Even m)

theorem nearestEven_natCast (m : ℕ) : NearestEven m m := by
  simp [NearestEven]

theorem NearestEven.mono {x y : ℚ} {m n : ℕ} (hm : NearestEven x m) (hn : NearestEven y n)
    (hxy : x ≤ y) : m ≤ n := by
  by_contra! hlt
  obtain ⟨hm, hmeven⟩ := hm
  obtain ⟨hn, hneven⟩ := hn
  have hle : (n : ℚ) + 1 ≤ m := by exact_mod_cast hlt
  have hm' := abs_le.mp hm
  have hn' := abs_le.mp hn
  -- Both numbers lie halfway between `n` and `n + 1`, and only one of these is even.
  have hx : (m : ℚ) - x = 1 / 2 := by linarith
  have hy : (n : ℚ) - y = -(1 / 2) := by linarith
  have hsucc : m = n + 1 := by
    have : (m : ℚ) = n + 1 := by linarith
    exact_mod_cast this
  have hmeven := hmeven (by rw [hx]; norm_num)
  have hneven := hneven (by rw [hy]; norm_num)
  rw [hsucc, Nat.even_add_one] at hmeven
  exact hmeven hneven

theorem nearestEven_roundHalfEven (n : ℕ) {d : ℕ} (hd : 0 < d) :
    NearestEven ((n : ℚ) / d) (roundHalfEven n d) := by
  have hd' : (0 : ℚ) < d := by exact_mod_cast hd
  obtain ⟨t, ht⟩ : ∃ t : ℚ, t = (n % d : ℕ) / d := ⟨_, rfl⟩
  have hn : (n : ℚ) / d = (n / d : ℕ) + t := by
    rw [ht, div_eq_iff hd'.ne', add_mul, div_mul_cancel₀ _ hd'.ne']
    exact_mod_cast (Nat.div_add_mod' n d).symm
  have hnonneg : 0 ≤ t := by rw [ht]; positivity
  have hone : t < 1 := by
    rw [ht, div_lt_one hd']
    exact_mod_cast Nat.mod_lt n hd
  have hbelow : 2 * (n % d) < d ↔ t < 1 / 2 := by
    rw [ht, div_lt_iff₀ hd', ← Nat.cast_lt (α := ℚ)]
    push_cast
    constructor <;> intro h <;> linarith
  have habove : d < 2 * (n % d) ↔ 1 / 2 < t := by
    rw [ht, lt_div_iff₀ hd', ← Nat.cast_lt (α := ℚ)]
    push_cast
    constructor <;> intro h <;> linarith
  unfold roundHalfEven NearestEven
  simp only [hbelow, habove, hn]
  by_cases hlow : t < 1 / 2
  · have hdist : |((n / d : ℕ) : ℚ) - ((n / d : ℕ) + t)| = t := by
      rw [sub_add_cancel_left, abs_neg, abs_of_nonneg hnonneg]
    rw [if_pos hlow, hdist]
    exact ⟨hlow.le, fun h => absurd h hlow.ne⟩
  have hdist : |((n / d + 1 : ℕ) : ℚ) - ((n / d : ℕ) + t)| = 1 - t := by
    rw [Nat.cast_succ, add_sub_add_left_eq_sub, abs_of_pos (by linarith)]
  by_cases hhigh : 1 / 2 < t
  · rw [if_neg hlow, if_pos hhigh, hdist]
    exact ⟨by linarith, fun h => by linarith⟩
  have htie : t = 1 / 2 := by linarith
  rw [if_neg hlow, if_neg hhigh]
  by_cases heven : n / d % 2 = 0
  · rw [if_pos heven, sub_add_cancel_left, abs_neg, abs_of_nonneg hnonneg]
    exact ⟨htie.le, fun _ => Nat.even_iff.mpr heven⟩
  · rw [if_neg heven, hdist]
    refine ⟨by linarith, fun _ => ?_⟩
    rw [Nat.even_add_one, Nat.even_iff]
    exact heven

/-! ## Binades -/

theorem two_zpow_eq (e : ℤ) : (2 : ℚ) ^ e = (2 ^ e.toNat : ℕ) / (2 ^ (-e).toNat : ℕ) := by
  have hsplit : e = (e.toNat : ℤ) - ((-e).toNat : ℤ) := by omega
  conv_lhs => rw [hsplit, zpow_sub₀ two_ne_zero, zpow_natCast, zpow_natCast]
  push_cast
  rfl

theorem two_pow_mul_zpow (k : ℕ) (e : ℤ) : (2 : ℚ) ^ k * 2 ^ e = 2 ^ (k + e : ℤ) := by
  rw [zpow_add₀ two_ne_zero, zpow_natCast]

theorem cast_div_cast_eq (n d : ℕ) (e : ℤ) :
    ((n * Nat.pow 2 (-e).toNat : ℕ) : ℚ) / (d * Nat.pow 2 e.toNat : ℕ) = (n : ℚ) / d / 2 ^ e := by
  rw [two_zpow_eq]
  simp only [Nat.pow_eq]
  push_cast
  rw [div_div_eq_mul_div, div_mul_eq_mul_div, div_div]

theorem log2_bounds {n : ℕ} (hn : 0 < n) :
    (2 : ℚ) ^ (Nat.log2 n : ℤ) ≤ n ∧ (n : ℚ) < 2 ^ (Nat.log2 n + 1 : ℤ) := by
  constructor
  · rw [zpow_natCast]
    exact_mod_cast Nat.log2_self_le hn.ne'
  · have hlt := Nat.lt_log2_self (n := n)
    rw [← Nat.cast_succ, zpow_natCast]
    exact_mod_cast hlt

theorem lastDigitExponent_bounds {n d : ℕ} (hn : 0 < n) (hd : 0 < d) :
    2 ^ 52 * (2 : ℚ) ^ lastDigitExponent n d ≤ n / d ∧
      (n : ℚ) / d < 2 ^ 53 * (2 : ℚ) ^ lastDigitExponent n d := by
  have hd' : (0 : ℚ) < d := by exact_mod_cast hd
  obtain ⟨hnlow, hnhigh⟩ := log2_bounds hn
  obtain ⟨hdlow, hdhigh⟩ := log2_bounds hd
  -- The logarithms fix the quotient up to a factor of four.
  have hlow : (2 : ℚ) ^ (Nat.log2 n - Nat.log2 d - 1 : ℤ) ≤ n / d := by
    rw [le_div_iff₀ hd']
    calc (2 : ℚ) ^ (Nat.log2 n - Nat.log2 d - 1 : ℤ) * d
        ≤ 2 ^ (Nat.log2 n - Nat.log2 d - 1 : ℤ) * 2 ^ (Nat.log2 d + 1 : ℤ) := by gcongr
      _ = 2 ^ (Nat.log2 n : ℤ) := by
        rw [← zpow_add₀ two_ne_zero]
        congr 1
        ring
      _ ≤ n := hnlow
  have hhigh : (n : ℚ) / d < 2 ^ (Nat.log2 n - Nat.log2 d + 1 : ℤ) := by
    rw [div_lt_iff₀ hd']
    calc (n : ℚ) < 2 ^ (Nat.log2 n + 1 : ℤ) := hnhigh
      _ = 2 ^ (Nat.log2 n - Nat.log2 d + 1 : ℤ) * 2 ^ (Nat.log2 d : ℤ) := by
        rw [← zpow_add₀ two_ne_zero]
        congr 1
        ring
      _ ≤ 2 ^ (Nat.log2 n - Nat.log2 d + 1 : ℤ) * d := by gcongr
  obtain ⟨guess, hguess⟩ : ∃ g : ℤ, g = Nat.log2 n - Nat.log2 d - 52 := ⟨_, rfl⟩
  have hcond : n * Nat.pow 2 (-guess).toNat < Nat.pow 2 52 * d * Nat.pow 2 guess.toNat ↔
      (n : ℚ) / d < 2 ^ 52 * 2 ^ guess := by
    have hpos : (0 : ℚ) < (d * Nat.pow 2 guess.toNat : ℕ) := by
      simp only [Nat.pow_eq]
      exact_mod_cast Nat.mul_pos hd (Nat.two_pow_pos _)
    rw [← div_lt_iff₀ (by positivity), ← cast_div_cast_eq, div_lt_iff₀ hpos, mul_assoc,
      ← Nat.cast_lt (α := ℚ)]
    simp only [Nat.pow_eq]
    push_cast
    rfl
  unfold lastDigitExponent
  simp only [← hguess, hcond]
  split
  · rename_i hbelow
    refine ⟨?_, ?_⟩
    · rw [two_pow_mul_zpow, hguess]
      convert hlow using 2
      push_cast
      ring
    · convert hbelow using 1
      rw [two_pow_mul_zpow, two_pow_mul_zpow]
      congr 1
      push_cast
      ring
  · rename_i hnot
    refine ⟨not_lt.mp hnot, ?_⟩
    rw [two_pow_mul_zpow, hguess]
    convert hhigh using 2
    push_cast
    ring

/-! ## Rounding to 53 digits -/

/-- `y` is `x` rounded to `m` units of two to the power `e`, the units of its binade. -/
structure RoundsTo (x y : ℚ) (m : ℕ) (e : ℤ) : Prop where
  eq : y = m * 2 ^ e
  nearest : NearestEven (x / 2 ^ e) m
  lower : 2 ^ 52 * 2 ^ e ≤ x
  upper : x < 2 ^ 53 * 2 ^ e

namespace RoundsTo

variable {x y x' y' : ℚ} {m m' : ℕ} {e e' : ℤ}

/-- Numbers of a binade are rounded into it or up to its end. -/
theorem units_bounds (h : RoundsTo x y m e) : 2 ^ 52 ≤ m ∧ m ≤ 2 ^ 53 := by
  have hpos : (0 : ℚ) < 2 ^ e := by positivity
  constructor
  · apply (nearestEven_natCast (2 ^ 52)).mono h.nearest
    rw [le_div_iff₀ hpos]
    exact_mod_cast h.lower
  · apply h.nearest.mono (nearestEven_natCast (2 ^ 53))
    rw [div_le_iff₀ hpos]
    exact_mod_cast h.upper.le

theorem exponent_le (h : RoundsTo x y m e) (h' : RoundsTo x' y' m' e') (hx : x ≤ x') : e ≤ e' := by
  have hlt : (2 : ℚ) ^ (52 + e : ℤ) < 2 ^ (53 + e' : ℤ) := by
    have := (h.lower.trans hx).trans_lt h'.upper
    rwa [two_pow_mul_zpow, two_pow_mul_zpow] at this
  have := (zpow_lt_zpow_iff_right₀ one_lt_two).mp hlt
  omega

theorem mono (h : RoundsTo x y m e) (h' : RoundsTo x' y' m' e') (hx : x ≤ x') : y ≤ y' := by
  rw [h.eq, h'.eq]
  rcases (h.exponent_le h' hx).eq_or_lt with rfl | hlt
  · have hm : m ≤ m' := h.nearest.mono h'.nearest (by gcongr)
    gcongr
  · have hm : (m : ℚ) ≤ 2 ^ 53 := by exact_mod_cast h.units_bounds.2
    have hm' : (2 : ℚ) ^ 52 ≤ m' := by exact_mod_cast h'.units_bounds.1
    calc (m : ℚ) * 2 ^ e ≤ 2 ^ 53 * 2 ^ e := by gcongr
      _ = 2 ^ 52 * 2 ^ (e + 1) := by
        rw [two_pow_mul_zpow, two_pow_mul_zpow]
        congr 1
        push_cast
        ring
      _ ≤ 2 ^ 52 * 2 ^ e' := by
        gcongr
        · exact one_le_two
        · exact hlt
      _ ≤ m' * 2 ^ e' := by gcongr

end RoundsTo

theorem roundsTo_roundNat {n d : ℕ} (hn : 0 < n) (hd : 0 < d) :
    ∃ m e, RoundsTo ((n : ℚ) / d) (roundNat n d).value m e := by
  obtain ⟨hlower, hupper⟩ := lastDigitExponent_bounds hn hd
  set e := lastDigitExponent n d
  set m := roundHalfEven (n * Nat.pow 2 (-e).toNat) (d * Nat.pow 2 e.toNat)
  have hround : roundNat n d = ⟨m * Nat.pow 2 e.toNat, Nat.pow 2 (-e).toNat⟩ := by
    rw [roundNat, if_neg hn.ne']
  have hvalue : (roundNat n d).value = m * 2 ^ e := by
    rw [hround, Fraction.value, two_zpow_eq]
    simp only [Nat.pow_eq]
    push_cast
    rw [mul_div_assoc]
  have hnearest : NearestEven ((n : ℚ) / d / 2 ^ e) m := by
    rw [← cast_div_cast_eq]
    apply nearestEven_roundHalfEven
    exact Nat.mul_pos hd (Nat.two_pow_pos _)
  exact ⟨m, e, hvalue, hnearest, hlower, hupper⟩

theorem value_roundNat_nonneg (n d : ℕ) : 0 ≤ (roundNat n d).value := by
  unfold roundNat Fraction.value
  split
  · simp
  · positivity

theorem value_roundNat_mono {n d n' d' : ℕ} (hd : 0 < d) (hd' : 0 < d')
    (h : (n : ℚ) / d ≤ n' / d') : (roundNat n d).value ≤ (roundNat n' d').value := by
  rcases Nat.eq_zero_or_pos n with rfl | hn
  · have hzero : (roundNat 0 d).value = 0 := by simp [roundNat, Fraction.value]
    rw [hzero]
    exact value_roundNat_nonneg n' d'
  have hn' : 0 < n' := by
    have hpos : (0 : ℚ) < n' / d' := lt_of_lt_of_le (by positivity) h
    rw [div_pos_iff_of_pos_right (by exact_mod_cast hd')] at hpos
    exact_mod_cast hpos
  obtain ⟨m, e, hround⟩ := roundsTo_roundNat hn hd
  obtain ⟨m', e', hround'⟩ := roundsTo_roundNat hn' hd'
  exact hround.mono hround' h

namespace Fraction

variable {x y : Fraction}

theorem den_round_pos (x : Fraction) : 0 < x.round.den := by
  simp only [round, roundNat]
  split
  · exact Nat.one_pos
  · exact Nat.two_pow_pos _

theorem value_round (x : Fraction) :
    x.round.value = if x.num < 0 then -(roundNat x.num.natAbs x.den).value
      else (roundNat x.num.natAbs x.den).value := by
  unfold round value
  split
  · push_cast
    rw [neg_div]
  · rfl

theorem value_eq_natAbs (x : Fraction) :
    x.value = if x.num < 0 then -((x.num.natAbs : ℚ) / x.den) else (x.num.natAbs : ℚ) / x.den := by
  unfold value
  rw [Nat.cast_natAbs]
  split
  · rename_i hneg
    rw [abs_of_neg hneg]
    push_cast
    rw [neg_div, neg_neg]
  · rename_i hnonneg
    rw [abs_of_nonneg (not_lt.mp hnonneg)]

theorem round_mono (hx : 0 < x.den) (hy : 0 < y.den) (h : x.value ≤ y.value) :
    x.round.value ≤ y.round.value := by
  have hxround := value_roundNat_nonneg x.num.natAbs x.den
  have hyround := value_roundNat_nonneg y.num.natAbs y.den
  have hxabs : (0 : ℚ) ≤ x.num.natAbs / x.den := by positivity
  have hyabs : (0 : ℚ) ≤ y.num.natAbs / y.den := by positivity
  rw [value_eq_natAbs, value_eq_natAbs y] at h
  rw [value_round, value_round]
  by_cases hxneg : x.num < 0 <;> by_cases hyneg : y.num < 0
  · rw [if_pos hxneg, if_pos hyneg, neg_le_neg_iff] at h ⊢
    exact value_roundNat_mono hy hx h
  · rw [if_pos hxneg, if_neg hyneg]
    linarith
  · have hpos : (0 : ℚ) < y.num.natAbs / y.den := by
      have := Int.natAbs_pos.mpr hyneg.ne
      positivity
    rw [if_neg hxneg, if_pos hyneg] at h
    linarith
  · rw [if_neg hxneg, if_neg hyneg] at h ⊢
    exact value_roundNat_mono hx hy h

theorem value_addHalf (hx : 0 < x.den) : x.addHalf.value = x.value + 1 / 2 := by
  have hden : (x.den : ℚ) ≠ 0 := by exact_mod_cast hx.ne'
  unfold addHalf value
  push_cast
  field_simp

theorem floor_eq (x : Fraction) : x.floor = ⌊x.value⌋ :=
  (Rat.floor_intCast_div_natCast x.num x.den).symm

end Fraction

end ContractAudit.Number
