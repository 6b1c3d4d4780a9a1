import ContractAudit.Compliance
import ContractAudit.Proofs.DoubleRounding
import ContractAudit.Proofs.VerdictOrder

/-!
# The whole percentage

The percentage of controls that pass is rounded twice, once as a quotient and once as a sum, before
its whole part is taken. Neither rounding moves a number past one of at most 53 binary digits. The
halves are such numbers, and so are their neighbours at a distance of two to the power -41. For a
total of at most two to the power 40, a quotient below a half is not above the neighbour below it.
So for these totals the result is the exact quotient with a half rounded up.

The fractions that are rounded have no least unit, as doubles do. That makes no difference: a
quotient that is too small for a double of 53 digits is lost in the sum.
-/
namespace ContractAudit

namespace Compliance

open Number

variable {passed total : Int} {c : ℕ}

theorem percentageOf_eq_floor (htotal : 0 < total) :
    percentageOf passed total = ⌊(ratio passed total).addHalf.round.value⌋ := by
  rw [percentageOf, if_neg htotal.not_ge, Fraction.floor_eq]

theorem value_quotient (htotal : 0 < total) :
    (⟨100 * passed, total.toNat⟩ : Fraction).value = 100 * passed / total := by
  have hcast : ((total.toNat : ℤ) : ℚ) = total := by rw [Int.toNat_of_nonneg htotal.le]
  rw [Fraction.value]
  push_cast at hcast ⊢
  rw [hcast]

theorem quotient_le_hundred (hle : passed ≤ total) (htotal : 0 < total) :
    (100 * passed / total : ℚ) ≤ 100 := by
  have hle' : (passed : ℚ) ≤ total := by exact_mod_cast hle
  have hcast : (0 : ℚ) < total := by exact_mod_cast htotal
  rw [div_le_iff₀ hcast]
  gcongr

theorem ratio_nonneg (hpassed : 0 ≤ passed) (htotal : 0 < total) :
    0 ≤ (ratio passed total).value := by
  have hquotient : ((0 : ℕ) : ℚ) * 2 ^ (0 : ℤ) ≤
      (⟨100 * passed, total.toNat⟩ : Fraction).value := by
    rw [value_quotient htotal, Nat.cast_zero, zero_mul]
    positivity
  have hround := Fraction.ofUnits_le_round (by norm_num) (by simpa using htotal) hquotient
  rwa [Nat.cast_zero, zero_mul] at hround

theorem ratio_le_hundred (hle : passed ≤ total) (htotal : 0 < total) :
    (ratio passed total).value ≤ 100 := by
  have hunits : ((100 : ℕ) : ℚ) * 2 ^ (0 : ℤ) = 100 := by norm_num
  have hquotient := quotient_le_hundred hle htotal
  rw [← value_quotient htotal, ← hunits] at hquotient
  rw [← hunits]
  exact Fraction.round_le_ofUnits (by norm_num) (by simpa using htotal) hquotient

theorem not_isHuge_of_value_le {x : Fraction} (hden : 0 < x.den) (hnonneg : 0 ≤ x.value)
    (hle : x.value ≤ 100) : x.isHuge = false := by
  have hcast : (0 : ℚ) < x.den := by exact_mod_cast hden
  rw [Fraction.value, div_le_iff₀ hcast] at hle
  rw [Fraction.value, le_div_iff₀ hcast, zero_mul] at hnonneg
  have hnum : 0 ≤ x.num := by exact_mod_cast hnonneg
  have hbound : x.num ≤ 100 * x.den := by exact_mod_cast hle
  rw [Fraction.isHuge, decide_eq_false_iff_not, not_le]
  have hexponent : 7 ≤ 1024 := by norm_num
  generalize 1024 = exponent at hexponent ⊢
  have hpower : 2 ^ 7 ≤ Nat.pow 2 exponent := Nat.pow_le_pow_right two_pos hexponent
  have hlarge : 2 ^ 7 * x.den ≤ Nat.pow 2 exponent * x.den := Nat.mul_le_mul_right _ hpower
  omega

/-- A share of a total is never too large for a double. -/
theorem percentage?_eq_some (hpassed : 0 ≤ passed) (hle : passed ≤ total) :
    percentage? passed total = some (percentageOf passed total) := by
  by_cases htotal : 0 < total
  · have hsmall := not_isHuge_of_value_le (ratio_den_pos passed total)
      (ratio_nonneg hpassed htotal) (ratio_le_hundred hle htotal)
    simp [percentage?, hsmall]
  · simp [percentage?, htotal]

theorem percentage?_evaluate (findings : List Finding) (controls : List Registry.Control) :
    percentage? (evaluate findings controls).passed (evaluate findings controls).total =
      some (evaluate findings controls).percentage := by
  apply percentage?_eq_some
  · omega
  · exact_mod_cast List.countP_le_length

/-- A half is `2 ^ 40` of the units in which numbers next to a half are counted. -/
theorem unit_mul : (2 : ℚ) ^ 40 * 2 ^ (-41 : ℤ) = 1 / 2 := by
  norm_num

theorem sum_le (htotal : 0 < total) (hdigits : c + 2 ^ 40 < 2 ^ 53)
    (h : (100 * passed / total : ℚ) ≤ c * 2 ^ (-41 : ℤ)) :
    (ratio passed total).addHalf.round.value ≤ (c + 2 ^ 40 : ℕ) * 2 ^ (-41 : ℤ) := by
  have hden : 0 < (ratio passed total).den := ratio_den_pos passed total
  rw [← value_quotient htotal] at h
  have hratio : (ratio passed total).value ≤ c * 2 ^ (-41 : ℤ) :=
    Fraction.round_le_ofUnits (by omega) (by simpa using htotal) h
  apply Fraction.round_le_ofUnits hdigits (Nat.mul_pos two_pos hden)
  rw [Fraction.value_addHalf hden, Nat.cast_add, Nat.cast_pow, Nat.cast_ofNat, add_mul, unit_mul]
  gcongr

theorem le_sum (htotal : 0 < total) (hdigits : c + 2 ^ 40 < 2 ^ 53)
    (h : (c * 2 ^ (-41 : ℤ) : ℚ) ≤ 100 * passed / total) :
    (c + 2 ^ 40 : ℕ) * 2 ^ (-41 : ℤ) ≤ (ratio passed total).addHalf.round.value := by
  have hden : 0 < (ratio passed total).den := ratio_den_pos passed total
  rw [← value_quotient htotal] at h
  have hratio : c * 2 ^ (-41 : ℤ) ≤ (ratio passed total).value :=
    Fraction.ofUnits_le_round (by omega) (by simpa using htotal) h
  apply Fraction.ofUnits_le_round hdigits (Nat.mul_pos two_pos hden)
  rw [Fraction.value_addHalf hden, Nat.cast_add, Nat.cast_pow, Nat.cast_ofNat, add_mul, unit_mul]
  gcongr

theorem percentageOf_nonneg (htotal : 0 < total) (hpassed : 0 ≤ passed) :
    0 ≤ percentageOf passed total := by
  have hquotient : ((0 : ℕ) * 2 ^ (-41 : ℤ) : ℚ) ≤ 100 * passed / total := by
    rw [Nat.cast_zero, zero_mul]
    positivity
  have hsum := le_sum htotal (by norm_num) hquotient
  rw [percentageOf_eq_floor htotal, Int.floor_nonneg]
  exact le_trans (by positivity) hsum

theorem percentageOf_le_hundred (htotal : 0 < total) (hle : passed ≤ total) :
    percentageOf passed total ≤ 100 := by
  have hunits : ((100 * 2 ^ 41 : ℕ) : ℚ) * 2 ^ (-41 : ℤ) = 100 := by norm_num
  have hquotient := (quotient_le_hundred hle htotal).trans_eq hunits.symm
  have hsum := sum_le htotal (by norm_num) hquotient
  rw [percentageOf_eq_floor htotal, ← Int.lt_add_one_iff, Int.floor_lt]
  refine lt_of_le_of_lt hsum ?_
  norm_num

theorem le_percentageOf (htotal : 0 < total) {k : ℕ} (hk : 0 < k) (hbound : k ≤ 100)
    (h : (2 * k - 1) * total ≤ 200 * passed) : (k : ℤ) ≤ percentageOf passed total := by
  have hcast : (0 : ℚ) < total := by exact_mod_cast htotal
  have hquotient : (((2 * k - 1) * 2 ^ 40 : ℕ) * 2 ^ (-41 : ℤ) : ℚ) ≤ 100 * passed / total := by
    have h' : ((2 * k - 1) * total : ℚ) ≤ 200 * passed := by exact_mod_cast h
    rw [Nat.cast_mul, Nat.cast_pow, Nat.cast_ofNat, mul_assoc, unit_mul, Nat.cast_sub (by omega),
      le_div_iff₀ hcast]
    push_cast
    linarith
  have hsum := le_sum htotal (by omega) hquotient
  rw [percentageOf_eq_floor htotal, Int.le_floor]
  refine le_trans (le_of_eq ?_) hsum
  have hunits : (2 * k - 1) * 2 ^ 40 + 2 ^ 40 = k * 2 * 2 ^ 40 := by omega
  rw [hunits, Nat.cast_mul, Nat.cast_pow, Nat.cast_ofNat, mul_assoc, unit_mul]
  push_cast
  ring

theorem percentageOf_le (htotal : 0 < total) (hsmall : total ≤ 2 ^ 40) {k : ℕ} (hbound : k ≤ 100)
    (h : 200 * passed < (2 * k + 1) * total) : percentageOf passed total ≤ k := by
  have hcast : (0 : ℚ) < total := by exact_mod_cast htotal
  have hquotient : (100 * passed / total : ℚ) ≤
      ((2 * k + 1) * 2 ^ 40 - 1 : ℕ) * 2 ^ (-41 : ℤ) := by
    -- The quotient misses the half by at least one part in twice the total.
    have h' : (200 * passed + 1 : ℚ) ≤ (2 * k + 1) * total := by exact_mod_cast h
    have hgap : (2 : ℚ) ^ (-41 : ℤ) * total ≤ 1 / 2 := by
      have hsmall' : (total : ℚ) ≤ 2 ^ 40 := by exact_mod_cast hsmall
      rw [← unit_mul, mul_comm]
      gcongr
    rw [Nat.cast_sub (by omega), Nat.cast_mul, Nat.cast_pow, Nat.cast_ofNat, sub_mul, mul_assoc,
      unit_mul, div_le_iff₀ hcast, sub_mul, Nat.cast_one, one_mul]
    push_cast
    linarith
  have hsum := sum_le htotal (by omega) hquotient
  rw [percentageOf_eq_floor htotal, ← Int.lt_add_one_iff, Int.floor_lt]
  refine lt_of_le_of_lt hsum ?_
  calc (((2 * k + 1) * 2 ^ 40 - 1 + 2 ^ 40 : ℕ) : ℚ) * 2 ^ (-41 : ℤ)
      < ((k + 1) * 2 * 2 ^ 40 : ℕ) * 2 ^ (-41 : ℤ) := by
        gcongr
        omega
    _ = ((k + 1 : ℤ) : ℚ) := by
        rw [Nat.cast_mul, Nat.cast_pow, Nat.cast_ofNat, mul_assoc, unit_mul]
        push_cast
        ring

theorem percentageOf_exact (hpassed : 0 ≤ passed) (hle : passed ≤ total) (htotal : 0 < total)
    (hsmall : total ≤ 2 ^ 40) :
    percentageOf passed total = (200 * passed + total) / (2 * total) := by
  obtain ⟨k, hk⟩ : ∃ k : ℕ, (200 * passed + total) / (2 * total) = k :=
    Int.eq_ofNat_of_zero_le (Int.ediv_nonneg (by omega) (by omega))
  have hlow : (k : ℤ) * (2 * total) ≤ 200 * passed + total := by
    rw [← hk]
    exact Int.ediv_mul_le _ (by omega)
  have hhigh : 200 * passed + total < (k + 1) * (2 * total) := by
    rw [← hk]
    exact Int.lt_ediv_add_one_mul_self _ (by omega)
  have hbound : k ≤ 100 := by
    by_contra hgt
    have hmul : (101 : ℤ) * (2 * total) ≤ k * (2 * total) := by
      gcongr
      omega
    omega
  rw [hk]
  apply le_antisymm
  · exact percentageOf_le htotal hsmall hbound (by linarith)
  · rcases Nat.eq_zero_or_pos k with rfl | hpos
    · exact percentageOf_nonneg htotal hpassed
    · exact le_percentageOf htotal hpos hbound (by linarith)

theorem percentageOf_self (htotal : 0 < total) : percentageOf total total = 100 := by
  apply le_antisymm
  · exact percentageOf_le_hundred htotal le_rfl
  · exact le_percentageOf (k := 100) htotal (by norm_num) le_rfl (by push_cast; linarith)

theorem natCast_quotient (hpassed : 0 ≤ passed) (htotal : 0 < total) :
    ((100 * passed).toNat : ℚ) / total.toNat = 100 * passed / total := by
  have hcast : (((100 * passed).toNat : ℤ) : ℚ) = ((100 * passed : ℤ) : ℚ) := by
    rw [Int.toNat_of_nonneg (by omega)]
  rw [← value_quotient htotal, Fraction.value, ← hcast, Int.cast_natCast]

/-- The quotient in double precision is the rounded fraction, or both are too small to matter. -/
theorem exists_double_quotient (hpassed : 0 ≤ passed) (hle : passed ≤ total) (htotal : 0 < total) :
    ∃ (units : ℕ) (exponent : ℤ),
      Double.ofRatio false (100 * passed).toNat total.toNat = .finite false units exponent ∧
      (units * 2 ^ exponent : ℚ) ≤ 100 ∧
      ((ratio passed total).value = units * 2 ^ exponent ∨
        (ratio passed total).value ≤ 1 / 4 ∧ (units * 2 ^ exponent : ℚ) ≤ 1 / 4) := by
  have hd : 0 < total.toNat := by omega
  rcases hpassed.eq_or_lt with rfl | hpos
  · refine ⟨0, 0, Double.ofRatio_zero _, by norm_num, .inl ?_⟩
    simp [ratio, Fraction.round, roundNat, Fraction.value]
  have hn : 0 < (100 * passed).toNat := by omega
  have hquotient := natCast_quotient hpos.le htotal
  have hhigh : lastDigitExponent (100 * passed).toNat total.toNat < 0 := by
    apply lastDigitExponent_lt hn hd
    rw [hquotient]
    refine lt_of_le_of_lt (quotient_le_hundred hle htotal) ?_
    norm_num
  rcases le_or_gt Double.leastExponent (lastDigitExponent (100 * passed).toNat total.toNat)
    with hlow | hlow
  · obtain ⟨units, exponent, m, e, hdouble, hround⟩ :=
      Double.exists_roundsTo_ofRatio hn hd hlow hhigh
    have hpositive : 0 < (⟨100 * passed, total.toNat⟩ : Fraction).value := by
      rw [value_quotient htotal]
      positivity
    obtain ⟨m', e', hround'⟩ := Fraction.exists_roundsTo_round hd hpositive
    rw [hquotient, ← value_quotient htotal] at hround
    have hsame : (ratio passed total).value = units * 2 ^ exponent := hround'.unique hround
    exact ⟨units, exponent, hdouble, hsame ▸ ratio_le_hundred hle htotal, .inl hsame⟩
  · obtain ⟨hsmall, units, exponent, hdouble, hvalue⟩ := Double.exists_ofRatio_small hn hd hlow
    rw [hquotient, ← value_quotient htotal] at hsmall
    refine ⟨units, exponent, hdouble, by linarith, .inr ⟨?_, hvalue⟩⟩
    have hquarter : ((1 : ℕ) : ℚ) * 2 ^ (-2 : ℤ) = 1 / 4 := by norm_num
    rw [← hquarter] at hsmall ⊢
    exact Fraction.round_le_ofUnits (by norm_num) hd hsmall

theorem percentageOf_eq_floor_double (hpassed : 0 ≤ passed) (hle : passed ≤ total)
    (htotal : 0 < total) :
    ∃ v, ((Double.ofRatio false (100 * passed).toNat total.toNat).add Double.half).value? = some v ∧
      percentageOf passed total = ⌊v⌋ := by
  obtain ⟨units, exponent, hdouble, hbound, hquotient⟩ :=
    exists_double_quotient hpassed hle htotal
  obtain ⟨v, m, e, hv, hround⟩ := Double.exists_roundsTo_add_half hbound
  refine ⟨v, by rw [hdouble, hv], ?_⟩
  have hden : 0 < (ratio passed total).den := ratio_den_pos passed total
  have hnonneg : 0 ≤ (ratio passed total).value := ratio_nonneg hpassed htotal
  have hsum := Fraction.value_addHalf hden
  obtain ⟨m', e', hround'⟩ := Fraction.exists_roundsTo_round
    (x := (ratio passed total).addHalf) (Nat.mul_pos two_pos hden) (by rw [hsum]; linarith)
  rw [hsum] at hround'
  rw [percentageOf_eq_floor htotal]
  rcases hquotient with hsame | ⟨hsmall, hsmall'⟩
  · rw [hsame] at hround'
    rw [hround'.unique hround]
  · rw [hround.floor_eq_zero (by linarith), hround'.floor_eq_zero (by linarith)]

/-- The percentage is what double precision gives. It lies between 0 and 100, grows with the number
of controls that pass, is 100 when all do, and is rounded from the exact quotient, a half going up,
for all totals up to two to the power 40. -/
theorem percentageOf_rounds_half_up (passed total : ℤ) (hpassed : 0 ≤ passed)
    (hle : passed ≤ total) (htotal : 0 < total) :
    (∃ v, ((Double.ofRatio false (100 * passed).toNat total.toNat).add Double.half).value? =
        some v ∧ percentageOf passed total = ⌊v⌋) ∧
      (0 ≤ percentageOf passed total ∧ percentageOf passed total ≤ 100) ∧
      (∀ more, passed ≤ more → more ≤ total →
        percentageOf passed total ≤ percentageOf more total) ∧
      percentageOf total total = 100 ∧
      (total ≤ 2 ^ 40 →
        percentageOf passed total = (200 * passed + total) / (2 * total)) :=
  ⟨percentageOf_eq_floor_double hpassed hle htotal,
    ⟨percentageOf_nonneg htotal hpassed, percentageOf_le_hundred htotal hle⟩,
    fun _ hmore _ => percentageOf_mono total hmore,
    percentageOf_self htotal,
    percentageOf_exact hpassed hle htotal⟩

/-- A quotient that is as close below a half as it can be for its total. -/
theorem percentageOf_rounds_half_up_close :
    (0 : ℤ) ≤ 5497558138 ∧ (5497558138 : ℤ) ≤ 1099511627601 ∧
      200 * (5497558138 : ℤ) + 1 = 1099511627601 ∧
      percentageOf 5497558138 1099511627601 = 0 ∧
      percentageOf 5497558139 1099511627601 = 1 := by
  obtain ⟨-, -, -, -, hbelow⟩ := percentageOf_rounds_half_up 5497558138 1099511627601
    (by norm_num) (by norm_num) (by norm_num)
  obtain ⟨-, -, -, -, habove⟩ := percentageOf_rounds_half_up 5497558139 1099511627601
    (by norm_num) (by norm_num) (by norm_num)
  refine ⟨by norm_num, by norm_num, by norm_num, ?_, ?_⟩
  · rw [hbelow (by norm_num)]
    norm_num
  · rw [habove (by norm_num)]
    norm_num

end Compliance

end ContractAudit
