/-
  Tagdown.Proofs.Numeric.Order

  Rounding to a binary64 number keeps the order. The interval of a number ends where that
  of a larger one begins, or before (`high_le_low`); so a quotient that a number bounds is
  rounded to one that it bounds as well (`ofGrains_le`), and natural numbers that are
  rounded stay in order (`ofNat_le`).

  So the difference of a natural number and one that is not larger is not negative, however
  large both are (`isNegative_ofNat_sub_ofNat`), and up to 53 bits it is exact
  (`ofNat_sub_ofNat`). A percentage goes through four roundings. None of them leaves its
  bounds, so a part of the whole comes out as a tenth from zero to one hundred
  (`isTenth_percent`).
-/

import Tagdown.Proofs.Numeric.Tenths

namespace Tagdown
namespace Binary64

variable {mantissa unit mantissa' unit' : Nat}

/-! ## Numbers in order -/

/-- A number that is not larger has no larger unit. -/
theorem unit_le_of_grains_le (hcanonical : IsCanonical mantissa unit)
    (hcanonical' : IsCanonical mantissa' unit') (h : grains mantissa unit ≤ grains mantissa' unit') :
    unit ≤ unit' := by
  by_contra hlarger
  have hlow : 2 ^ 52 ≤ mantissa := hcanonical.le (by omega)
  have hpow : 2 * pow2 unit' ≤ pow2 unit := by
    rw [Nat.mul_comm, ← pow2_succ]
    exact pow2_le_pow2 (by omega)
  -- The larger unit makes up for any mantissa.
  have hlarge : grains mantissa' unit' < grains mantissa unit := by
    calc mantissa' * pow2 unit' < 2 ^ 53 * pow2 unit' :=
          Nat.mul_lt_mul_of_pos_right hcanonical'.lt (pow2_pos unit')
      _ = 2 ^ 52 * (2 * pow2 unit') := by ring
      _ ≤ mantissa * pow2 unit := Nat.mul_le_mul hlow hpow
  exact absurd h (Nat.not_le_of_lt hlarge)

/-- The interval of a number ends in the middle between it and any larger one, or below. -/
theorem high_interval_le_add (hcanonical : IsCanonical mantissa unit)
    (hcanonical' : IsCanonical mantissa' unit')
    (hlt : grains mantissa unit < grains mantissa' unit') :
    (interval mantissa unit).high ≤ 2 * grains mantissa unit + 2 * grains mantissa' unit' := by
  have hunit := unit_le_of_grains_le hcanonical hcanonical' hlt.le
  obtain ⟨shift, rfl⟩ := Nat.exists_eq_add_of_le hunit
  -- In the smaller unit the larger number is larger by one at least.
  have hsplit : grains mantissa' (unit + shift) = mantissa' * pow2 shift * pow2 unit := by
    rw [grains, pow2_add]
    ring
  rw [hsplit, grains] at hlt
  have hm : mantissa < mantissa' * pow2 shift := Nat.lt_of_mul_lt_mul_right hlt
  calc (interval mantissa unit).high = (4 * mantissa + 2) * pow2 unit := rfl
    _ ≤ (2 * mantissa + 2 * (mantissa' * pow2 shift)) * pow2 unit :=
      Nat.mul_le_mul_right _ (by omega)
    _ = 2 * grains mantissa unit + 2 * grains mantissa' (unit + shift) := by
      rw [hsplit, grains]
      ring

/-- The interval of a number begins in the middle between it and any smaller one, or above. -/
theorem add_le_low_interval (hcanonical : IsCanonical mantissa unit)
    (hcanonical' : IsCanonical mantissa' unit')
    (hlt : grains mantissa' unit' < grains mantissa unit) :
    2 * grains mantissa unit + 2 * grains mantissa' unit' ≤ (interval mantissa unit).low := by
  have hunit := unit_le_of_grains_le hcanonical' hcanonical hlt.le
  have hpow := pow2_pos unit
  rcases Nat.eq_or_lt_of_le hunit with rfl | hless
  · -- In the same unit the smaller mantissa is less by one at least.
    have hm : mantissa' < mantissa := Nat.lt_of_mul_lt_mul_right hlt
    have hle : 2 * mantissa + 2 * mantissa' ≤
        4 * mantissa - (if mantissa = pow2 52 ∧ unit' ≠ 0 then 1 else 2) := by
      split <;> omega
    calc 2 * grains mantissa unit' + 2 * grains mantissa' unit'
        = (2 * mantissa + 2 * mantissa') * pow2 unit' := by
          rw [grains, grains]
          ring
      _ ≤ (interval mantissa unit').low := Nat.mul_le_mul_right _ hle
  · -- In a smaller unit the largest mantissa is still half a unit short of the least one here.
    have hlow := hcanonical.le (by omega)
    have hm' := hcanonical'.lt
    have hdouble : 2 * pow2 unit' ≤ pow2 unit := by
      rw [Nat.mul_comm, ← pow2_succ]
      exact pow2_le_pow2 hless
    have hsmall : 2 * grains mantissa' unit' ≤ 9007199254740991 * pow2 unit := by
      calc 2 * grains mantissa' unit' = mantissa' * (2 * pow2 unit') := by
            rw [grains]
            ring
        _ ≤ 9007199254740991 * pow2 unit := Nat.mul_le_mul (by omega) hdouble
    have hle : 2 * mantissa + 9007199254740991 ≤
        4 * mantissa - (if mantissa = pow2 52 ∧ unit ≠ 0 then 1 else 2) := by
      split
      · omega
      · rename_i hpower
        have hne : mantissa ≠ 2 ^ 52 := fun heq => hpower ⟨heq, by omega⟩
        omega
    calc 2 * grains mantissa unit + 2 * grains mantissa' unit'
        ≤ 2 * grains mantissa unit + 9007199254740991 * pow2 unit := Nat.add_le_add_left hsmall _
      _ = (2 * mantissa + 9007199254740991) * pow2 unit := by
          rw [grains]
          ring
      _ ≤ (interval mantissa unit).low := Nat.mul_le_mul_right _ hle

/-- The interval of a number ends before that of a larger one begins, or where it begins. -/
theorem high_le_low (hcanonical : IsCanonical mantissa unit)
    (hcanonical' : IsCanonical mantissa' unit')
    (hlt : grains mantissa unit < grains mantissa' unit') :
    (interval mantissa unit).high ≤ (interval mantissa' unit').low := by
  have hends := high_interval_le_add hcanonical hcanonical' hlt
  have hbegins := add_le_low_interval hcanonical' hcanonical hlt
  omega

theorem four_mul_grains_lt_high (mantissa unit : Nat) :
    4 * grains mantissa unit < (interval mantissa unit).high := by
  have hpow := pow2_pos unit
  have hhigh : (interval mantissa unit).high = (4 * mantissa + 2) * pow2 unit := rfl
  rw [hhigh, grains, Nat.add_mul, ← Nat.mul_assoc]
  omega

/-- A rational that is at most a number is rounded to at most that number. -/
theorem grains_le_of_contains {x : ℚ} (hcanonical : IsCanonical mantissa unit)
    (hcanonical' : IsCanonical mantissa' unit') (hcontains : (interval mantissa' unit').Contains x)
    (hx : x * grain ≤ grains mantissa unit) : grains mantissa' unit' ≤ grains mantissa unit := by
  by_contra hlarger
  have hends := high_le_low hcanonical hcanonical' (Nat.lt_of_not_le hlarger)
  have hcenter := four_mul_grains_lt_high mantissa unit
  have hlow : ((interval mantissa' unit').low : ℚ) ≤ 4 * grains mantissa unit := by
    linarith [hcontains.low_le]
  have hlow' : (interval mantissa' unit').low ≤ 4 * grains mantissa unit := by exact_mod_cast hlow
  omega

/-! ## Numbers up to a size -/

/-- The size is that of a finite number, in grains. -/
def IsSize (size : Nat) : Prop :=
  ∃ mantissa unit, IsCanonical mantissa unit ∧ unit ≤ 2045 ∧ grains mantissa unit = size

/-- The number is finite, has no minus sign and is at most `size` grains large. -/
def IsAtMost (size : Nat) (x : Binary64) : Prop :=
  ∃ mantissa unit, x = finite false mantissa unit ∧ grains mantissa unit ≤ size

variable {num den size a b : Nat} {x whole : Binary64}

/-- A quotient that the size of a number bounds is rounded to a number that it bounds. -/
theorem ofGrains_le (hden : 0 < den) (hsize : IsSize size) (h : num ≤ size * den) :
    IsAtMost size (ofGrains false num den) := by
  obtain ⟨mantissa, unit, hcanonical, hunit, rfl⟩ := hsize
  obtain ⟨m, u, hcanonical', hcontains, heq⟩ := ofGrains_contains false num hden
  have hquotient : (num : ℚ) / (den * grain) * grain ≤ grains mantissa unit := by
    have hgrain := cast_grain_pos
    have hden' : (0 : ℚ) < den := by exact_mod_cast hden
    rw [div_mul_eq_mul_div, div_le_iff₀ (mul_pos hden' hgrain), ← mul_assoc]
    apply mul_le_mul_of_nonneg_right _ hgrain.le
    exact_mod_cast h
  have hle := grains_le_of_contains hcanonical hcanonical' hcontains hquotient
  -- The rounded number is finite, as its unit is not larger than that of the bound.
  have hsmall := unit_le_of_grains_le hcanonical' hcanonical hle
  exact ⟨m, u, heq.trans (if_neg (by omega)), hle⟩

/-- A natural number lies in the interval of the number that it is rounded to. -/
theorem exists_interval_ofNat (n : Nat) :
    ∃ mantissa unit, IsCanonical mantissa unit ∧
      ofNat n = (if 2045 < unit then infinite false else finite false mantissa unit) ∧
        (interval mantissa unit).low ≤ 4 * (n * grain) ∧
          4 * (n * grain) ≤ (interval mantissa unit).high := by
  obtain ⟨m, u, hcanonical, hcontains, heq⟩ := ofGrains_contains false (n * grain) Nat.one_pos
  have hcast : ((n * grain : Nat) : ℚ) / ((1 : Nat) * grain) * (4 * grain) =
      ((4 * (n * grain) : Nat) : ℚ) := by
    have hgrain := cast_grain_pos
    push_cast
    field_simp
  refine ⟨m, u, hcanonical, heq, ?_, ?_⟩
  · exact_mod_cast hcast ▸ hcontains.low_le
  · exact_mod_cast hcast ▸ hcontains.le_high

/-- A natural number that is not too large is rounded to a finite number. -/
theorem exists_canonical_ofNat {n : Nat} (hn : n < 18014398509481983 * pow2 970) :
    ∃ mantissa unit, IsCanonical mantissa unit ∧ unit ≤ 2045 ∧
      ofNat n = finite false mantissa unit ∧
        (interval mantissa unit).low ≤ 4 * (n * grain) ∧
          4 * (n * grain) ≤ (interval mantissa unit).high := by
  obtain ⟨m, u, hcanonical, heq, hlow, hhigh⟩ := exists_interval_ofNat n
  have hfinite := isFinite_ofNat hn
  have hunit : ¬ 2045 < u := by
    intro hlarge
    rw [heq, if_pos hlarge] at hfinite
    cases hfinite
  exact ⟨m, u, hcanonical, Nat.le_of_not_lt hunit, heq.trans (if_neg hunit), hlow, hhigh⟩

theorem isSize_ofNat {n : Nat} (hn : n < 2 ^ 53) : IsSize (n * grain) := by
  have hpow := pow2_pos 970
  obtain ⟨m, u, hcanonical, hunit, heq, -, -⟩ := exists_canonical_ofNat (n := n) (by omega)
  obtain ⟨m', u', heq', hgrains⟩ := exists_ofNat_eq hn
  rw [heq] at heq'
  cases heq'
  exact ⟨m, u, hcanonical, hunit, hgrains⟩

/-- Of two natural numbers the smaller one is not rounded to the larger number. It would
    begin behind the end of the interval that the other one lies in. -/
theorem grains_le_of_lt {part total : Nat} (hlt : part < total) (hcanonical : IsCanonical mantissa unit)
    (hcanonical' : IsCanonical mantissa' unit')
    (hhigh : 4 * (total * grain) ≤ (interval mantissa unit).high)
    (hlow : (interval mantissa' unit').low ≤ 4 * (part * grain)) :
    grains mantissa' unit' ≤ grains mantissa unit := by
  by_contra hlarger
  have hends := high_le_low hcanonical hcanonical' (Nat.lt_of_not_le hlarger)
  have hless : part * grain < total * grain := Nat.mul_lt_mul_of_pos_right hlt grain_pos
  omega

/-- Natural numbers that are rounded stay in order. -/
theorem ofNat_le {part total : Nat} (h : part ≤ total)
    (hcanonical : IsCanonical mantissa unit) (heq : ofNat total = finite false mantissa unit)
    (hhigh : 4 * (total * grain) ≤ (interval mantissa unit).high)
    (hpart : part < 18014398509481983 * pow2 970) :
    IsAtMost (grains mantissa unit) (ofNat part) := by
  rcases Nat.eq_or_lt_of_le h with rfl | hlt
  · exact ⟨mantissa, unit, heq, Nat.le_refl _⟩
  · obtain ⟨m, u, hcanonical', -, heq', hlow, -⟩ := exists_canonical_ofNat hpart
    exact ⟨m, u, heq', grains_le_of_lt hlt hcanonical hcanonical' hhigh hlow⟩

/-! ## Differences -/

theorem finite_sub_finite (m u n v : Nat) :
    (finite false m u).sub (finite false n v) =
      if grains n v < grains m u then ofGrains false (grains m u - grains n v) 1
      else if grains m u < grains n v then ofGrains true (grains n v - grains m u) 1
      else zero :=
  rfl

theorem ofNat_zero : ofNat 0 = zero := by
  rw [ofNat, ofRatio, Nat.zero_mul]
  rfl

/-- Up to 53 bits a difference of natural numbers is exact. -/
theorem ofNat_sub_ofNat (h : b ≤ a) (ha : a < 2 ^ 53) : (ofNat a).sub (ofNat b) = ofNat (a - b) := by
  obtain ⟨m, u, heq, hgrains⟩ := exists_ofNat_eq ha
  obtain ⟨n, v, heq', hgrains'⟩ := exists_ofNat_eq (show b < 2 ^ 53 by omega)
  have hdifference : grains m u - grains n v = (a - b) * grain := by
    rw [hgrains, hgrains', Nat.sub_mul]
  rw [heq, heq', finite_sub_finite, hdifference, hgrains, hgrains']
  rcases Nat.eq_or_lt_of_le h with rfl | hlt
  · rw [if_neg (Nat.lt_irrefl _), if_neg (Nat.lt_irrefl _), Nat.sub_self, ofNat_zero]
  · rw [if_pos (Nat.mul_lt_mul_of_pos_right hlt grain_pos)]
    rfl

theorem isNegative_ofGrains (negative : Bool) (num den : Nat) :
    (ofGrains negative num den).isNegative = negative := by
  rw [ofGrains, apply_ite isNegative]
  exact ite_self negative

/-- Of a natural number one that is not larger can be taken away, however both are rounded. -/
theorem isNegative_ofNat_sub_ofNat (h : b ≤ a) : ((ofNat a).sub (ofNat b)).isNegative = false := by
  obtain ⟨m, u, hcanonical, heq, -, hhigh⟩ := exists_interval_ofNat a
  obtain ⟨n, v, hcanonical', heq', hlow, -⟩ := exists_interval_ofNat b
  rcases Nat.eq_or_lt_of_le h with rfl | hlt
  · rw [heq]
    split
    · rfl
    · rw [finite_sub_finite, if_neg (Nat.lt_irrefl _), if_neg (Nat.lt_irrefl _)]
      rfl
  · have hle := grains_le_of_lt hlt hcanonical hcanonical' hhigh hlow
    have hunit := unit_le_of_grains_le hcanonical' hcanonical hle
    rw [heq, heq']
    by_cases hlarge : 2045 < u
    · rw [if_pos hlarge]
      split <;> rfl
    · -- The smaller number is finite as well.
      rw [if_neg hlarge, if_neg (by omega), finite_sub_finite]
      split
      · exact isNegative_ofGrains false _ 1
      · rw [if_neg (Nat.not_lt_of_le hle)]
        rfl

theorem isZero_ofNat {n : Nat} (hn : 0 < n) : (ofNat n).isZero = false := by
  obtain ⟨m, u, hcanonical, heq, -, hhigh⟩ := exists_interval_ofNat n
  rw [heq]
  split
  · rfl
  · -- Zero is too far away from one grain.
    have hm : m ≠ 0 := by
      rintro rfl
      have hend := hcanonical.high_interval_zero
      have hlarge : 0 < n * grain := Nat.mul_pos hn grain_pos
      omega
    exact beq_eq_false_iff_ne.mpr hm

/-! ## Percentages -/

theorem IsAtMost.div (h : IsAtMost (grains mantissa unit) x) (hpos : 0 < grains mantissa unit) :
    IsAtMost (1 * grain) (x.div (finite false mantissa unit)) := by
  obtain ⟨m, u, rfl, hle⟩ := h
  have hm : mantissa ≠ 0 := by
    rintro rfl
    rw [grains, Nat.zero_mul] at hpos
    exact Nat.lt_irrefl 0 hpos
  rw [Binary64.div, if_neg hm]
  apply ofGrains_le hpos (isSize_ofNat (by decide))
  rw [Nat.one_mul, Nat.mul_comm grain]
  exact Nat.mul_le_mul_right _ hle

theorem IsAtMost.mul (h : IsAtMost (a * grain) x) (hb : b < 2 ^ 53) (hab : a * b < 2 ^ 53) :
    IsAtMost (a * b * grain) (x.mul (ofNat b)) := by
  obtain ⟨m, u, rfl, hle⟩ := h
  obtain ⟨n, v, heq, hgrains⟩ := exists_ofNat_eq hb
  rw [heq, finite_mul_finite, hgrains]
  apply ofGrains_le grain_pos (isSize_ofNat hab)
  calc grains m u * (b * grain) ≤ a * grain * (b * grain) := Nat.mul_le_mul_right _ hle
    _ = a * b * grain * grain := by ring

/-- A number up to a natural number is rounded to a natural number up to that. -/
theorem IsAtMost.exists_round (h : IsAtMost (a * grain) x) : ∃ k ≤ a, x.round = ofNat k := by
  obtain ⟨m, u, rfl, hle⟩ := h
  refine ⟨roundHalfUp (grains m u) grain, ?_, rfl⟩
  have hgrain := grain_pos
  rw [roundHalfUp, ← Nat.lt_succ_iff, Nat.div_lt_iff_lt_mul (by omega)]
  calc 2 * grains m u + grain ≤ 2 * (a * grain) + grain := by omega
    _ < (a + 1) * (2 * grain) := by
        have hnext : (a + 1) * (2 * grain) = 2 * (a * grain) + 2 * grain := by ring
        omega

/-- A number up to one hundred is rounded to a tenth. -/
theorem IsAtMost.isTenth_roundToTenth (h : IsAtMost (100 * grain) x) : IsTenth x.roundToTenth := by
  obtain ⟨k, hk, hround⟩ := (h.mul (b := 10) (by decide) (by decide)).exists_round
  exact ⟨k, hk, by rw [roundToTenth, hround, ofNat_div_ten hk]⟩

/-- What is left of the whole without a part is no larger than the whole. -/
theorem IsAtMost.sub (hcanonical : IsCanonical mantissa unit) (hunit : unit ≤ 2045)
    (h : IsAtMost (grains mantissa unit) x) :
    IsAtMost (grains mantissa unit) ((finite false mantissa unit).sub x) := by
  obtain ⟨m, u, rfl, hle⟩ := h
  rw [finite_sub_finite]
  by_cases hlt : grains m u < grains mantissa unit
  · rw [if_pos hlt]
    apply ofGrains_le Nat.one_pos ⟨mantissa, unit, hcanonical, hunit, rfl⟩
    omega
  · rw [if_neg hlt, if_neg (Nat.not_lt_of_le hle)]
    exact ⟨0, 0, rfl, by simp [grains]⟩

/-- The percentage of a number that is no larger than the whole is a tenth. -/
theorem IsAtMost.isTenth_percent (h : IsAtMost (grains mantissa unit) x)
    (hpos : 0 < grains mantissa unit) :
    IsTenth (((x.div (finite false mantissa unit)).mul (ofNat 100)).roundToTenth) := by
  have hpercent := (h.div hpos).mul (b := 100) (by decide) (by decide)
  rw [Nat.one_mul] at hpercent
  exact hpercent.isTenth_roundToTenth

theorem isTenth_zero : IsTenth zero :=
  ⟨0, Nat.zero_le _, by decide +kernel⟩

/-- The percentages of a part and of the rest are tenths, whatever is rounded on the way. -/
theorem isTenth_percentages {part total : Nat} (hpos : 0 < total) (h : part ≤ total)
    (htotal : total < 18014398509481983 * pow2 970) :
    let whole := ofNat total
    IsTenth ((((whole.sub (ofNat part)).div whole).mul (ofNat 100)).roundToTenth) ∧
      IsTenth ((((ofNat part).div whole).mul (ofNat 100)).roundToTenth) := by
  intro whole
  obtain ⟨m, u, hcanonical, hunit, heq, -, hhigh⟩ := exists_canonical_ofNat htotal
  have hpart : IsAtMost (grains m u) (ofNat part) :=
    ofNat_le h hcanonical heq hhigh (h.trans_lt htotal)
  -- The whole is at least as large as one, so it can be divided by.
  have hgrains : 0 < grains m u := by
    have hone : 1 < 18014398509481983 * pow2 970 := Nat.lt_of_le_of_lt hpos htotal
    obtain ⟨n, v, hone', hle⟩ := ofNat_le hpos hcanonical heq hhigh hone
    obtain ⟨n', v', hone'', hgrains⟩ := exists_ofNat_eq (show 1 < 2 ^ 53 by decide)
    rw [hone''] at hone'
    cases hone'
    have hgrain := grain_pos
    omega
  have hwhole : whole = finite false m u := heq
  rw [hwhole]
  exact ⟨(hpart.sub hcanonical hunit).isTenth_percent hgrains, hpart.isTenth_percent hgrains⟩

end Binary64
end Tagdown
