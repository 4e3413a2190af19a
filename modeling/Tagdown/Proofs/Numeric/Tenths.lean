/-
  Tagdown.Proofs.Numeric.Tenths

  The binary64 numbers nearest to the tenths from zero to one hundred, which are the
  values that ratios take. Their shortest digits are those of the tenth itself
  (`IsShortest.eq_tenth`), and the quotient of the number of tenths by ten gives them
  back (`ofNat_div_ten`).
-/

import Tagdown.Proofs.Numeric.Shortest

namespace Tagdown
namespace Binary64

/-- The number is the one nearest to a tenth from zero to one hundred. -/
def IsTenth (x : Binary64) : Prop :=
  ∃ k ≤ 1000, x = ofRatio false k 10

theorem cast_tenth (k : Nat) : ((k * grain : Nat) : ℚ) / ((10 : Nat) * grain) = k / 10 := by
  have hgrain := cast_grain_pos
  push_cast
  field_simp

/-- No tenth is near the largest numbers. -/
theorem tenth_lt {k : Nat} (hk : k ≤ 1000) :
    ((k * grain : Nat) : ℚ) / ((10 : Nat) * grain) < 18014398509481983 * pow2 970 := by
  have hk' : (k : ℚ) ≤ 1000 := by exact_mod_cast hk
  have hpow : (1 : ℚ) ≤ pow2 970 := by exact_mod_cast pow2_pos 970
  rw [cast_tenth]
  linarith

/-- Zero has the least unit, so its interval ends half a grain above it. -/
theorem IsCanonical.high_interval_zero {unit : Nat} (h : IsCanonical 0 unit) :
    (interval 0 unit).high = 2 := by
  have hunit : unit = 0 := by
    by_contra hne
    have hlow := h.le hne
    omega
  rw [hunit]
  rfl

/-- Where the tenth lies: in the interval of a positive finite number. -/
theorem exists_tenth_eq {k : Nat} (hk : 0 < k) (hk' : k ≤ 1000) :
    ∃ mantissa unit, ofRatio false k 10 = finite false mantissa unit ∧ 0 < mantissa ∧
      IsCanonical mantissa unit ∧ (interval mantissa unit).Contains (k * 10 ^ (-1 : Int)) := by
  obtain ⟨mantissa, unit, hcanonical, -, hcontains, heq⟩ :=
    exists_finite_ofGrains false (show 0 < 10 by omega) (tenth_lt hk')
  have hplace : (k : ℚ) / 10 = k * 10 ^ (-1 : Int) := by
    rw [zpow_neg_one]
    rfl
  rw [cast_tenth, hplace] at hcontains
  refine ⟨mantissa, unit, heq, ?_, hcanonical, hcontains⟩
  by_contra hzero
  obtain rfl : mantissa = 0 := Nat.eq_zero_of_not_pos hzero
  -- A tenth has far more grains than a half.
  have hhigh := hcontains.le_high
  have hk'' : (1 : ℚ) ≤ k := by exact_mod_cast hk
  have hbound : (131072 : ℚ) ≤ grain := by
    exact_mod_cast (pow2_le_pow2 (show 17 ≤ 1074 by omega) : pow2 17 ≤ grain)
  rw [hcanonical.high_interval_zero, zpow_neg_one] at hhigh
  nlinarith

/-- The ends of an interval are four quarters of a unit apart. -/
theorem high_interval_le (mantissa unit : Nat) :
    (interval mantissa unit).high ≤ (interval mantissa unit).low + 4 * pow2 unit := by
  have hle : 4 * mantissa + 2 ≤
      4 * mantissa - (if mantissa = pow2 52 ∧ unit ≠ 0 then 1 else 2) + 4 := by
    split <;> omega
  calc (interval mantissa unit).high
      ≤ (4 * mantissa - (if mantissa = pow2 52 ∧ unit ≠ 0 then 1 else 2) + 4) * pow2 unit :=
        Nat.mul_le_mul_right _ hle
    _ = (interval mantissa unit).low + 4 * pow2 unit := Nat.add_mul _ _ _

/-- Rationals up to two thousand that round to the same number differ by less than the
    fifth decimal place. -/
theorem sub_lt_of_contains {mantissa unit : Nat} (hcanonical : IsCanonical mantissa unit)
    {x y : ℚ} (hx : (interval mantissa unit).Contains x)
    (hy : (interval mantissa unit).Contains y) (hle : y ≤ 2000) : |x - y| < 10 ^ (-5 : Int) := by
  have hgrain : (0 : ℚ) < 4 * grain := mul_pos (by norm_num) cast_grain_pos
  have hwidth : |x - y| * (4 * grain) ≤ 4 * pow2 unit := by
    have hhigh : ((interval mantissa unit).high : ℚ) ≤ (interval mantissa unit).low + 4 * pow2 unit := by
      exact_mod_cast high_interval_le mantissa unit
    rw [← abs_of_pos hgrain, ← abs_mul, abs_le, sub_mul]
    constructor
    · linarith only [hx.low_le, hy.le_high, hhigh]
    · linarith only [hy.low_le, hx.le_high, hhigh]
  by_cases hunit : unit = 0
  · -- The least gap is far smaller than that.
    have hbound : (131072 : ℚ) ≤ grain := by
      exact_mod_cast (pow2_le_pow2 (show 17 ≤ 1074 by decide) : pow2 17 ≤ grain)
    have hone : (pow2 unit : ℚ) = 1 := by
      rw [hunit]
      rfl
    rw [hone] at hwidth
    have := mul_le_mul_of_nonneg_left hbound (abs_nonneg (x - y))
    norm_num
    linarith
  · have hlow : (18014398509481983 * pow2 unit : ℚ) ≤ (interval mantissa unit).low := by
      exact_mod_cast le_low_interval hcanonical hunit
    have hsmall : (18014398509481983 : ℚ) * pow2 unit ≤ 2000 * (4 * grain) :=
      hlow.trans (hy.low_le.trans (mul_le_mul_of_nonneg_right hle hgrain.le))
    have hlt : |x - y| * (4 * grain) < 1 / 100000 * (4 * grain) := by linarith
    have := lt_of_mul_lt_mul_right hlt hgrain.le
    norm_num
    linarith

/-- Points of a grid that differ by less than its width are the same. -/
theorem eq_of_sub_lt_width {a b : Nat} {e : Int}
    (h : |(a : ℚ) * 10 ^ e - b * 10 ^ e| < 10 ^ e) : a = b := by
  have hwidth : (0 : ℚ) < 10 ^ e := by positivity
  rw [← sub_mul, abs_mul, abs_of_pos hwidth] at h
  have hone := lt_of_mul_lt_mul_right (h.trans_eq (one_mul _).symm) hwidth.le
  have hint : |(a : Int) - b| < 1 := by exact_mod_cast hone
  have hzero := Int.abs_lt_one_iff.mp hint
  omega

/-- A significand without zeros at its end has the larger power of ten. -/
theorem exists_shift {significand k n m : Nat} (hndvd : ¬ 10 ∣ significand)
    (h : significand * pow10 n = k * pow10 m) :
    ∃ shift, n = m + shift ∧ k = significand * pow10 shift := by
  rcases Nat.lt_or_ge n m with hlt | hge
  · obtain ⟨more, rfl⟩ := Nat.exists_eq_add_of_lt hlt
    have hten : significand = k * pow10 more * 10 := by
      apply Nat.eq_of_mul_eq_mul_right (pow10_pos n)
      rw [h, Nat.add_assoc, pow10_add, pow10_succ]
      ring
    exact absurd (hten ▸ Nat.dvd_mul_left 10 _) hndvd
  · obtain ⟨shift, rfl⟩ := Nat.exists_eq_add_of_le hge
    refine ⟨shift, rfl, ?_⟩
    apply Nat.eq_of_mul_eq_mul_right (pow10_pos m)
    rw [← h, pow10_add]
    ring

/-- The shortest decimal that rounds to the number nearest to a tenth is that tenth. -/
theorem IsShortest.eq_tenth {mantissa unit significand k : Nat} {exponent : Int}
    (h : IsShortest mantissa unit significand exponent) (hcanonical : IsCanonical mantissa unit)
    (hk : 0 < k) (hk' : k ≤ 1000)
    (hcontains : (interval mantissa unit).Contains (k * 10 ^ (-1 : Int))) :
    ∃ shift : Nat, exponent = shift - 1 ∧ k = significand * pow10 shift := by
  -- The tenth has at most four digits, so the decimal has no more.
  have hdigits : significand < pow10 4 := by
    rw [← Text.length_ofNat_le_iff (by decide)]
    refine (h.length_le hcontains).trans ?_
    rw [Text.length_ofNat_le_iff (by decide)]
    exact hk'.trans_lt (by decide)
  have hlow : (1 : ℚ) ≤ k := by exact_mod_cast hk
  have hhigh : (k : ℚ) * 10 ^ (-1 : Int) ≤ 2000 := by
    have : (k : ℚ) ≤ 1000 := by exact_mod_cast hk'
    rw [zpow_neg_one]
    linarith
  have hnear := sub_lt_of_contains hcanonical h.contains hcontains hhigh
  -- It is not small, so it is a multiple of the fifth decimal place, as the tenth is.
  have hexponent : -5 ≤ exponent := by
    by_contra hsmall
    have htiny : (significand : ℚ) * 10 ^ exponent ≤ pow10 4 * 10 ^ (-6 : Int) := by
      apply mul_le_mul (by exact_mod_cast hdigits.le) _ (by positivity) (by positivity)
      exact zpow_le_zpow_right₀ (by norm_num) (by omega)
    rw [pow10_mul_zpow (show ((4 : Nat) : Int) + -6 = -2 from rfl)] at htiny
    rw [abs_lt] at hnear
    norm_num at hnear htiny
    linarith [hnear.1]
  obtain ⟨n, hn⟩ := Int.eq_ofNat_of_zero_le (show 0 ≤ exponent + 5 by omega)
  rw [← mul_pow10_zpow significand (show (n : Int) + -5 = exponent by omega),
    ← mul_pow10_zpow k (show ((4 : Nat) : Int) + -5 = -1 from rfl)] at hnear
  obtain ⟨shift, rfl, hshift⟩ := exists_shift h.not_dvd (eq_of_sub_lt_width hnear)
  exact ⟨shift, by omega, hshift⟩

/-- The number of tenths over ten, both exact, is the number nearest to the tenth. -/
theorem ofNat_div_ten {k : Nat} (hk : k ≤ 1000) :
    (ofNat k).div (ofNat 10) = ofRatio false k 10 := by
  obtain ⟨m, u, hm, hgrains⟩ := exists_ofNat_eq (show k < 2 ^ 53 by omega)
  obtain ⟨n, v, hn, hgrains'⟩ := exists_ofNat_eq (show 10 < 2 ^ 53 by decide)
  have hne : n ≠ 0 := by
    rintro rfl
    rw [grains, Nat.zero_mul] at hgrains'
    have := grain_pos
    omega
  rw [hm, hn, div, if_neg hne, hgrains, hgrains']
  exact ofGrains_mul_right _ _ _ grain_pos

end Binary64
end Tagdown
