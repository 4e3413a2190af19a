/-
  Tagdown.Proofs.Numeric.Extent

  How small and how large the shortest decimals of finite numbers are: their
  exponents have three digits (`IsShortest.neg_le_exponent`, `IsShortest.exponent_le`),
  and a decimal without a fraction can be multiplied out. The product of its
  significand and its power of ten, both rounded first, is finite
  (`IsShortest.isFinite_mul_pow10`).

  The decimal can lie above the number, and both roundings can go upwards, so this
  is not clear for the largest numbers. It follows from the size of the interval for
  all but the two largest, whose decimals are worked out.
-/

import Tagdown.Proofs.Numeric.Shortest

namespace Tagdown
namespace Binary64

/-! ## Small numbers -/

/-- The least number has a digit in front of the point after 400 more places, and a
    decimal has no more than seventeen digits. -/
theorem IsShortest.neg_le_exponent {mantissa unit significand : Nat} {exponent : Int}
    (h : IsShortest mantissa unit significand exponent) (hm : 0 < mantissa) : -500 ≤ exponent := by
  by_contra hsmall
  have hlow : (1 : ℚ) ≤ (interval mantissa unit).low := by
    exact_mod_cast low_interval_pos unit hm
  have hgrain : (grain : ℚ) ≤ 10 ^ 400 := by
    rw [← cast_pow10]
    exact_mod_cast (pow2_le_pow2 (show 1074 ≤ 3 * 400 by decide)).trans (pow2_le_pow10 400)
  have hdecimal : (significand : ℚ) * 10 ^ exponent ≤ 10 ^ (-483 : Int) := by
    calc (significand : ℚ) * 10 ^ exponent ≤ pow10 17 * 10 ^ (-500 : Int) := by
          apply mul_le_mul (by exact_mod_cast h.lt.le) _ (by positivity) (by positivity)
          exact zpow_le_zpow_right₀ (by norm_num) (by omega)
      _ = 10 ^ (-483 : Int) := pow10_mul_zpow rfl
  have htiny : (significand : ℚ) * 10 ^ exponent * (4 * grain) ≤ 10 ^ (-82 : Int) := by
    calc (significand : ℚ) * 10 ^ exponent * (4 * grain)
        ≤ 10 ^ (-483 : Int) * (10 * 10 ^ 400) := by
          apply mul_le_mul hdecimal _ (mul_nonneg (by norm_num) cast_grain_pos.le) (by positivity)
          exact mul_le_mul (by norm_num) hgrain cast_grain_pos.le (by norm_num)
      _ = 10 ^ (-82 : Int) := by
          rw [← pow_succ', ← zpow_natCast, ← zpow_add₀ (by norm_num)]
          rfl
  have hone : (10 : ℚ) ^ (-82 : Int) < 1 := zpow_lt_one_of_neg₀ (by norm_num) (by decide)
  linarith [h.contains.low_le]

/-! ## Large numbers -/

variable {mantissa unit significand exponent : Nat}

/-- The upper end of the interval, in terms of the decimal without its fraction. -/
theorem IsShortest.mul_pow10_le (h : IsShortest mantissa unit significand exponent) :
    significand * pow10 exponent * pow2 1076 ≤ (4 * mantissa + 2) * pow2 unit := by
  have hhigh : (interval mantissa unit).high = (4 * mantissa + 2) * pow2 unit := rfl
  have hfour : pow2 1076 = 4 * grain := by
    have hfour : pow2 2 = 4 := rfl
    rw [grain, ← hfour, ← pow2_add]
  have hle := h.contains.le_high
  rw [hhigh, zpow_natCast, ← cast_pow10] at hle
  rw [hfour]
  exact_mod_cast hle

theorem IsShortest.mul_pow10_le_largest (h : IsShortest mantissa unit significand exponent)
    (hunit : unit ≤ 2045) : significand * pow10 exponent ≤ (2 * mantissa + 1) * pow2 970 := by
  have hle := h.mul_pow10_le
  have hsplit : pow2 2045 = pow2 969 * pow2 1076 := by rw [← pow2_add]
  have hdouble : pow2 970 = 2 * pow2 969 := by rw [pow2_succ, Nat.mul_comm]
  have hpow : (4 * mantissa + 2) * pow2 unit ≤ (4 * mantissa + 2) * pow2 2045 :=
    Nat.mul_le_mul_left _ (pow2_le_pow2 hunit)
  apply Nat.le_of_mul_le_mul_right _ (pow2_pos 1076)
  calc significand * pow10 exponent * pow2 1076 ≤ (4 * mantissa + 2) * pow2 2045 := hle.trans hpow
    _ = (2 * mantissa + 1) * pow2 970 * pow2 1076 := by
        rw [hsplit, hdouble]
        ring

/-- No finite number is as large as the power of ten that is too large. -/
theorem IsShortest.exponent_le (h : IsShortest mantissa unit significand exponent)
    (hm : mantissa < 2 ^ 53) (hunit : unit ≤ 2045) : exponent ≤ 308 := by
  by_contra hlarge
  have hle := h.mul_pow10_le_largest hunit
  have hlimit : pow2 1024 ≤ pow10 309 := by decide +kernel
  have hpow : pow10 309 ≤ pow10 exponent := pow10_le_pow10 (by omega)
  have hone : pow10 exponent ≤ significand * pow10 exponent := Nat.le_mul_of_pos_left _ h.pos
  have hsplit : pow2 1024 = 18014398509481984 * pow2 970 := by
    have hfactor : pow2 54 = 18014398509481984 := rfl
    rw [← hfactor, ← pow2_add]
  have hm' : (2 * mantissa + 1) * pow2 970 ≤ 18014398509481983 * pow2 970 :=
    Nat.mul_le_mul_right _ (by omega)
  have := pow2_pos 970
  omega

/-! ## The two largest numbers -/

theorem shortest_largest :
    shortest .even 9007199254740991 2045 = ⟨Text.ofNat 17976931348623157, 309⟩ := by
  decide +kernel

theorem shortest_second_largest :
    shortest .even 9007199254740990 2045 = ⟨Text.ofNat 17976931348623155, 309⟩ := by
  decide +kernel

theorem isFinite_mul_largest :
    ((ofNat 17976931348623157).mul (ofNat (pow10 292))).isFinite = true := by
  decide +kernel

theorem isFinite_mul_second_largest :
    ((ofNat 17976931348623155).mul (ofNat (pow10 292))).isFinite = true := by
  decide +kernel

/-- Digits and point fix the decimal. -/
theorem eq_of_digits_eq {digits digits' : Nat}
    (h : (⟨Text.ofNat digits, (Text.ofNat digits).length + exponent⟩ : Digits) =
      ⟨Text.ofNat digits', 309⟩) (hlength : (Text.ofNat digits').length = 17) :
    digits = digits' ∧ exponent = 292 := by
  obtain ⟨hdigits, hpoint⟩ := Digits.mk.inj h
  have hvalue := congrArg (Text.digitsValue 0) hdigits
  rw [Text.digitsValue_ofNat, Text.digitsValue_ofNat] at hvalue
  rw [hdigits, hlength] at hpoint
  exact ⟨hvalue, by omega⟩

/-- The decimal of a finite number can be multiplied out. -/
theorem IsShortest.isFinite_mul_pow10 (h : IsShortest mantissa unit significand exponent)
    (hm : mantissa < 2 ^ 53) (hunit : unit ≤ 2045)
    (hshortest : shortest .even mantissa unit =
      ⟨Text.ofNat significand, (Text.ofNat significand).length + exponent⟩) :
    ((ofNat significand).mul (ofNat (pow10 exponent))).isFinite = true := by
  by_cases hlargest : unit = 2045 ∧ 9007199254740990 ≤ mantissa
  · obtain ⟨rfl, hmantissa⟩ := hlargest
    obtain rfl | rfl : mantissa = 9007199254740991 ∨ mantissa = 9007199254740990 := by omega
    · obtain ⟨rfl, rfl⟩ := eq_of_digits_eq (hshortest.symm.trans shortest_largest) (by decide)
      exact isFinite_mul_largest
    · obtain ⟨rfl, rfl⟩ := eq_of_digits_eq (hshortest.symm.trans shortest_second_largest) (by decide)
      exact isFinite_mul_second_largest
  · apply isFinite_mul_ofNat h.pos (pow10_pos exponent)
    by_cases hmax : unit = 2045
    · have hle := h.mul_pow10_le_largest hunit
      exact hle.trans (Nat.mul_le_mul_right _ (by omega))
    · -- The unit is at most half that of the largest numbers.
      have hsplit : pow2 2044 = pow2 968 * pow2 1076 := by rw [← pow2_add]
      have hdouble : pow2 970 = 4 * pow2 968 := by
        have hfour : pow2 2 = 4 := rfl
        rw [← hfour, ← pow2_add]
      have hpow : (4 * mantissa + 2) * pow2 unit ≤ 36028797018963966 * pow2 2044 :=
        Nat.mul_le_mul (by omega) (pow2_le_pow2 (by omega))
      apply Nat.le_of_mul_le_mul_right _ (pow2_pos 1076)
      calc significand * pow10 exponent * pow2 1076 ≤ 36028797018963966 * pow2 2044 :=
            h.mul_pow10_le.trans hpow
        _ = 36028797018963966 * pow2 968 * pow2 1076 := by rw [hsplit, Nat.mul_assoc]
        _ ≤ 18014398509481979 * pow2 970 * pow2 1076 := by
            apply Nat.mul_le_mul_right
            omega

end Binary64
end Tagdown
