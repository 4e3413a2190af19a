/-
  Tagdown.Proofs.Numeric.Shortest

  The shortest digits of a binary64 number. They stand for a decimal that lies in
  the interval of the number and ends in no zero, and no decimal in the interval
  has fewer digits (`IsShortest`, `exists_isShortest`).

  If a point of a decimal grid lies in the interval, then one of the two points
  next to the number does (`neighbour?_isSome`). The grid of seventeen digits is
  narrower than the interval, so it always has such a point.
-/

import Mathlib.Algebra.Order.Field.Power
import Tagdown.Proofs.Numeric.Rounding
import Tagdown.Proofs.Text.Numeral

namespace Tagdown
namespace Binary64

/-! ## Grids -/

theorem cast_pow10 (n : Nat) : (pow10 n : ℚ) = 10 ^ n := by
  exact Nat.cast_pow 10 n

theorem cast_pow10_pos (n : Nat) : (0 : ℚ) < pow10 n := by
  exact_mod_cast pow10_pos n

theorem pow10_mul_zpow {n : Nat} {e e' : Int} (h : n + e = e') :
    (pow10 n : ℚ) * 10 ^ e = 10 ^ e' := by
  rw [cast_pow10, ← zpow_natCast, ← zpow_add₀ (by norm_num), h]

/-- Zeros at the end of a significand can be moved into the exponent. -/
theorem mul_pow10_zpow (significand : Nat) {n : Nat} {e e' : Int} (h : n + e = e') :
    ((significand * pow10 n : Nat) : ℚ) * 10 ^ e = significand * 10 ^ e' := by
  rw [Nat.cast_mul, mul_assoc, pow10_mul_zpow h]

/-- The width of a grid as the two powers of ten that stand for it. -/
theorem pow10_div_pow10 (places : Int) :
    (pow10 (-places).toNat : ℚ) / pow10 places.toNat = 10 ^ (-places) := by
  rw [cast_pow10, cast_pow10]
  rcases Int.le_total 0 places with h | h
  · obtain ⟨n, rfl⟩ := Int.eq_ofNat_of_zero_le h
    rw [Int.toNat_natCast, Int.toNat_of_nonpos (by omega), zpow_neg, zpow_natCast, pow_zero,
      one_div]
  · obtain ⟨n, hn⟩ := Int.eq_ofNat_of_zero_le (Int.neg_nonneg_of_nonpos h)
    rw [hn, Int.toNat_natCast, Int.toNat_of_nonpos h, zpow_natCast, pow_zero, div_one]

namespace Interval

/-- The number that the interval belongs to. -/
def center (i : Interval) : ℚ :=
  i.value / (4 * grain)

/-- The grid point at or below the center, as a number of grid steps. -/
def floorSteps (i : Interval) (places : Int) : Nat :=
  i.value * pow10 places.toNat / (4 * grain * pow10 (-places).toNat)

theorem floorSteps_le (i : Interval) (places : Int) :
    i.floorSteps places * (10 : ℚ) ^ (-places) ≤ i.center := by
  have hnum := cast_pow10_pos places.toNat
  have hgrain : (0 : ℚ) < 4 * grain := mul_pos (by norm_num) cast_grain_pos
  have hle : i.floorSteps places * (4 * grain * pow10 (-places).toNat) ≤
      i.value * pow10 places.toNat := Nat.div_mul_le_self _ _
  have hcast : (i.floorSteps places * (4 * grain * pow10 (-places).toNat) : ℚ) ≤
      i.value * pow10 places.toNat := by
    exact_mod_cast hle
  rw [← pow10_div_pow10, center, ← mul_div_assoc, div_le_div_iff₀ hnum hgrain]
  linarith

theorem lt_floorSteps_succ (i : Interval) (places : Int) :
    i.center < (i.floorSteps places + 1) * (10 : ℚ) ^ (-places) := by
  have hnum := cast_pow10_pos places.toNat
  have hgrain : (0 : ℚ) < 4 * grain := mul_pos (by norm_num) cast_grain_pos
  have hstep : 0 < 4 * grain * pow10 (-places).toNat :=
    Nat.mul_pos (Nat.mul_pos (by decide) grain_pos) (pow10_pos _)
  have hlt : i.value * pow10 places.toNat <
      (i.floorSteps places + 1) * (4 * grain * pow10 (-places).toNat) := by
    rw [Nat.succ_mul]
    exact Nat.lt_div_mul_add hstep
  have hcast : (i.value * pow10 places.toNat : ℚ) <
      (i.floorSteps places + 1) * (4 * grain * pow10 (-places).toNat) := by
    exact_mod_cast hlt
  rw [← pow10_div_pow10, center, ← mul_div_assoc, div_lt_div_iff₀ hgrain hnum]
  linarith

theorem holds_grid (i : Interval) (steps : Nat) (places : Int) :
    i.holds (steps * pow10 (-places).toNat) (pow10 places.toNat) = true ↔
      i.Contains (steps * 10 ^ (-places)) := by
  rw [holds_iff (pow10_pos _), ← pow10_div_pow10]
  push_cast
  rw [mul_div_assoc]

/-- The neighbour that is found is one of the two next to the center and lies in the
    interval. -/
theorem neighbour?_eq_some {i : Interval} {tie : Tie} {places : Int} {steps : Nat}
    (h : i.neighbour? tie places = some steps) :
    (steps = i.floorSteps places ∨ steps = i.floorSteps places + 1) ∧
      i.Contains (steps * 10 ^ (-places)) := by
  rw [← holds_grid]
  unfold neighbour? at h
  dsimp only at h
  rw [← floorSteps] at h
  -- Both neighbours lie in the interval, or one of them, or none.
  split at h
  · rename_i hboth
    rw [Bool.and_eq_true] at hboth
    split at h
    · cases h
      exact ⟨.inl rfl, hboth.1⟩
    · split at h
      · cases h
        exact ⟨.inr rfl, hboth.2⟩
      · cases tie with
        | up =>
          cases h
          exact ⟨.inr rfl, hboth.2⟩
        | even =>
          cases h
          rcases Nat.mod_two_eq_zero_or_one (i.floorSteps places) with heven | hodd
          · rw [heven, Nat.add_zero]
            exact ⟨.inl rfl, hboth.1⟩
          · rw [hodd]
            exact ⟨.inr rfl, hboth.2⟩
  · split at h
    · rename_i hlower
      cases h
      exact ⟨.inl rfl, hlower⟩
    · split at h
      · rename_i hupper
        cases h
        exact ⟨.inr rfl, hupper⟩
      · cases h

/-- If a grid point lies in the interval, so does a neighbour of the center. -/
theorem neighbour?_isSome {i : Interval} (hcenter : i.Contains i.center) (tie : Tie)
    {places : Int} (steps : Nat) (h : i.Contains (steps * 10 ^ (-places))) :
    (i.neighbour? tie places).isSome = true := by
  have hwidth : (0 : ℚ) ≤ 10 ^ (-places) := by positivity
  have hsome : i.holds (i.floorSteps places * pow10 (-places).toNat) (pow10 places.toNat) = true ∨
      i.holds ((i.floorSteps places + 1) * pow10 (-places).toNat) (pow10 places.toNat) = true := by
    rw [holds_grid, holds_grid]
    -- The grid point is on one side of the center, and a neighbour stands between the two.
    rcases Nat.lt_or_ge (i.floorSteps places) steps with hlt | hge
    · right
      refine hcenter.between h ?_ ?_
      · rw [Nat.cast_add, Nat.cast_one]
        exact (i.lt_floorSteps_succ places).le
      · exact mul_le_mul_of_nonneg_right (by exact_mod_cast hlt) hwidth
    · left
      refine h.between hcenter ?_ (i.floorSteps_le places)
      exact mul_le_mul_of_nonneg_right (by exact_mod_cast hge) hwidth
  unfold neighbour?
  dsimp only
  rw [← floorSteps]
  split
  · split
    · rfl
    · split
      · rfl
      · cases tie <;> rfl
  · split
    · rfl
    · rename_i hlower
      split
      · rfl
      · rename_i hupper
        rcases hsome with h | h
        · exact absurd h hlower
        · exact absurd h hupper

end Interval

/-! ## The number in its interval -/

section Interval

variable {mantissa unit : Nat}

/-- The interval is as wide as the gap between numbers, but for a power of two, where
    it is a quarter narrower. -/
theorem interval_bounds (unit : Nat) (hm : 0 < mantissa) :
    (interval mantissa unit).low + pow2 unit ≤ (interval mantissa unit).value ∧
      (mantissa ≠ pow2 52 →
        (interval mantissa unit).low + 2 * pow2 unit ≤ (interval mantissa unit).value) ∧
      (interval mantissa unit).high = (interval mantissa unit).value + 2 * pow2 unit := by
  have hpos := pow2_pos unit
  have hle : 4 * pow2 unit ≤ 4 * mantissa * pow2 unit := Nat.mul_le_mul_right _ (by omega)
  have hhigh : (4 * mantissa + 2) * pow2 unit = 4 * mantissa * pow2 unit + 2 * pow2 unit :=
    Nat.add_mul _ _ _
  simp only [interval, hhigh, and_true]
  split
  · rename_i hpower
    rw [Nat.sub_mul, Nat.one_mul]
    exact ⟨by omega, fun hne => absurd hpower.1 hne⟩
  · rw [Nat.sub_mul]
    exact ⟨by omega, fun _ => by omega⟩

/-- What lies strictly between the ends lies in the interval. -/
theorem Interval.contains_of_lt {i : Interval} {x : ℚ} (hlow : i.low < x * (4 * grain))
    (hhigh : x * (4 * grain) < i.high) : i.Contains x := by
  rw [Contains]
  split
  · exact ⟨hlow.le, hhigh.le⟩
  · exact ⟨hlow, hhigh⟩

theorem Interval.center_mul (i : Interval) : i.center * (4 * grain) = i.value := by
  have hgrain := cast_grain_pos
  rw [center]
  field_simp

theorem contains_center (unit : Nat) (hm : 0 < mantissa) :
    (interval mantissa unit).Contains (interval mantissa unit).center := by
  obtain ⟨hlow, -, hhigh⟩ := interval_bounds unit hm
  have hpos := pow2_pos unit
  apply Interval.contains_of_lt
  · rw [Interval.center_mul]
    exact_mod_cast (show (interval mantissa unit).low < (interval mantissa unit).value by omega)
  · rw [Interval.center_mul]
    exact_mod_cast (show (interval mantissa unit).value < (interval mantissa unit).high by omega)

theorem low_interval_pos (unit : Nat) (hm : 0 < mantissa) : 0 < (interval mantissa unit).low := by
  apply Nat.mul_pos _ (pow2_pos unit)
  split <;> omega

/-- All reals that round to a positive number are positive. -/
theorem pos_of_contains (hm : 0 < mantissa) {x : ℚ} (h : (interval mantissa unit).Contains x) :
    0 < x := by
  have hlow := low_interval_pos unit hm
  have hgrain : (0 : ℚ) < 4 * grain := mul_pos (by norm_num) cast_grain_pos
  have hmul : (0 : ℚ) < x * (4 * grain) := lt_of_lt_of_le (by exact_mod_cast hlow) h.low_le
  exact (mul_pos_iff_of_pos_right hgrain).mp hmul

theorem pow2_le_pow10 (n : Nat) : pow2 (3 * n) ≤ pow10 n :=
  (Nat.pow_mul 2 3 n).trans_le (Nat.pow_le_pow_left (by decide) n)

/-- The digits in front of the point, after 400 more places. -/
theorem floorSteps_400 (i : Interval) :
    i.floorSteps 400 = i.value * pow10 400 / (4 * grain) := by
  have hone : pow10 (-400 : Int).toNat = 1 := rfl
  have hplaces : (400 : Int).toNat = 400 := rfl
  rw [Interval.floorSteps, hone, hplaces, Nat.mul_one]

/-- The point is the power of ten just above the number. -/
theorem point_spec (unit : Nat) (hm : 0 < mantissa) :
    (10 : ℚ) ^ ((interval mantissa unit).point - 1) ≤ (interval mantissa unit).center ∧
      (interval mantissa unit).center < 10 ^ (interval mantissa unit).point := by
  have hpoint : (interval mantissa unit).point =
      ((Text.ofNat ((interval mantissa unit).floorSteps 400)).length : Int) - 400 := by
    rw [floorSteps_400, Interval.point]
  -- Even the least number has a digit in front of the point after 400 more places.
  have hpos : 0 < (interval mantissa unit).floorSteps 400 := by
    have hvalue : 4 ≤ (interval mantissa unit).value :=
      Nat.le_trans (show 4 ≤ 4 * mantissa by omega) (Nat.le_mul_of_pos_right _ (pow2_pos unit))
    have hgrain : grain ≤ pow10 400 :=
      (pow2_le_pow2 (show 1074 ≤ 3 * 400 by decide)).trans (pow2_le_pow10 400)
    rw [floorSteps_400]
    exact Nat.div_pos (Nat.mul_le_mul hvalue hgrain) (Nat.mul_pos (by decide) grain_pos)
  have hle := (interval mantissa unit).floorSteps_le 400
  have hlt := (interval mantissa unit).lt_floorSteps_succ 400
  rw [hpoint]
  generalize (interval mantissa unit).floorSteps 400 = steps at hpos hle hlt ⊢
  have hwidth : (0 : ℚ) < 10 ^ (-400 : Int) := by positivity
  constructor
  · have hlower : (pow10 ((Text.ofNat steps).length - 1) : ℚ) ≤ steps := by
      exact_mod_cast Text.pow10_le_of_length_ofNat hpos
    have hlength := List.length_pos_of_ne_nil (Text.ofNat_ne_nil steps)
    calc (10 : ℚ) ^ (((Text.ofNat steps).length : Int) - 400 - 1)
        = pow10 ((Text.ofNat steps).length - 1) * 10 ^ (-400 : Int) :=
          (pow10_mul_zpow (by omega)).symm
      _ ≤ steps * 10 ^ (-400 : Int) := mul_le_mul_of_nonneg_right hlower hwidth.le
      _ ≤ (interval mantissa unit).center := hle
  · have hupper : (steps + 1 : ℚ) ≤ pow10 (Text.ofNat steps).length := by
      exact_mod_cast Text.lt_pow10_length_ofNat steps
    calc (interval mantissa unit).center < (steps + 1) * 10 ^ (-400 : Int) := hlt
      _ ≤ pow10 (Text.ofNat steps).length * 10 ^ (-400 : Int) :=
          mul_le_mul_of_nonneg_right hupper hwidth.le
      _ = 10 ^ (((Text.ofNat steps).length : Int) - 400) := pow10_mul_zpow (by omega)

/-! ## Seventeen digits -/

/-- A grid that is finer than the sixteenth digit of a number is narrower than its
    interval. -/
theorem width_lt (unit : Nat) (hm : 0 < mantissa) (hlt : mantissa < 2 ^ 53) {width : ℚ}
    (hfine : width * 10 ^ 16 ≤ (interval mantissa unit).center) :
    width * (4 * grain) <
      (interval mantissa unit).high - ((interval mantissa unit).low : ℚ) := by
  obtain ⟨hlow, hlow', hhigh⟩ := interval_bounds unit hm
  have hgrain : (0 : ℚ) < 4 * grain := mul_pos (by norm_num) cast_grain_pos
  have hpow : (0 : ℚ) < pow2 unit := by exact_mod_cast pow2_pos unit
  have hvalue : ((interval mantissa unit).value : ℚ) = 4 * mantissa * pow2 unit := by
    exact_mod_cast (rfl : (interval mantissa unit).value = 4 * mantissa * pow2 unit)
  have hhigh' : ((interval mantissa unit).high : ℚ) =
      (interval mantissa unit).value + 2 * pow2 unit := by
    exact_mod_cast hhigh
  have hfine' : width * (4 * grain) * 10 ^ 16 ≤ 4 * mantissa * pow2 unit := by
    rw [← hvalue, ← Interval.center_mul]
    linarith only [mul_le_mul_of_nonneg_right hfine hgrain.le]
  by_cases hpower : mantissa = pow2 52
  · -- The interval is three quarters as wide, but the mantissa is half as large.
    have hlow'' : ((interval mantissa unit).low : ℚ) + pow2 unit ≤
        (interval mantissa unit).value := by
      exact_mod_cast hlow
    have hm' : (mantissa : ℚ) = 4503599627370496 := by
      rw [hpower]
      rfl
    rw [hm'] at hfine'
    linarith only [hfine', hlow'', hhigh', hpow]
  · have hlow'' : ((interval mantissa unit).low : ℚ) + 2 * pow2 unit ≤
        (interval mantissa unit).value := by
      exact_mod_cast hlow' hpower
    have hm' : (mantissa : ℚ) * pow2 unit ≤ 9007199254740992 * pow2 unit :=
      mul_le_mul_of_nonneg_right (by exact_mod_cast hlt.le) hpow.le
    linarith only [hfine', hlow'', hhigh', hm', hpow]

/-- One of two grid points around a number lies in its interval if the interval is wider
    than the gap between them. -/
theorem exists_contains_of_lt (unit : Nat) (hm : 0 < mantissa) {floor : Nat} {width : ℚ}
    (hle : floor * width ≤ (interval mantissa unit).center)
    (hsucc : (interval mantissa unit).center < (floor + 1) * width)
    (hwide : width * (4 * grain) <
      (interval mantissa unit).high - ((interval mantissa unit).low : ℚ)) :
    ∃ steps : Nat, (interval mantissa unit).Contains (steps * width) := by
  obtain ⟨hlow, -, hhigh⟩ := interval_bounds unit hm
  have hgrain : (0 : ℚ) < 4 * grain := mul_pos (by norm_num) cast_grain_pos
  have hpow := pow2_pos unit
  have hlow' : ((interval mantissa unit).low : ℚ) ≤ (interval mantissa unit).value := by
    exact_mod_cast Nat.le_trans (Nat.le_add_right _ _) hlow
  have hhigh' : ((interval mantissa unit).value : ℚ) < (interval mantissa unit).high := by
    exact_mod_cast (show (interval mantissa unit).value < (interval mantissa unit).high by omega)
  have hle' := mul_le_mul_of_nonneg_right hle hgrain.le
  have hsucc' := mul_lt_mul_of_pos_right hsucc hgrain
  rw [Interval.center_mul] at hle' hsucc'
  by_cases hin : ((interval mantissa unit).low : ℚ) < floor * width * (4 * grain)
  · exact ⟨floor, Interval.contains_of_lt hin (by linarith only [hle', hhigh'])⟩
  · -- The lower point lies outside, so the upper one is less than the width above the low end.
    refine ⟨floor + 1, Interval.contains_of_lt ?_ ?_⟩
    · push_cast
      linarith only [hlow', hsucc']
    · push_cast
      linarith only [hin, hwide]

/-- The grid of seventeen digits has a point in the interval. -/
theorem exists_contains_grid (unit : Nat) (hm : 0 < mantissa) (hlt : mantissa < 2 ^ 53) :
    ∃ steps : Nat, (interval mantissa unit).Contains
      (steps * 10 ^ (-(17 - (interval mantissa unit).point))) := by
  have hexponent : ((16 : Nat) : Int) + -(17 - (interval mantissa unit).point) =
      (interval mantissa unit).point - 1 := by
    push_cast
    ring
  have hfine : (10 : ℚ) ^ (-(17 - (interval mantissa unit).point)) * 10 ^ 16 ≤
      (interval mantissa unit).center := by
    rw [mul_comm, ← cast_pow10, pow10_mul_zpow hexponent]
    exact (point_spec unit hm).1
  exact exists_contains_of_lt unit hm ((interval mantissa unit).floorSteps_le _)
    ((interval mantissa unit).lt_floorSteps_succ _) (width_lt unit hm hlt hfine)

end Interval

/-! ## The search -/

/-- A search over the numbers below a bound finds the first one if there is one. -/
theorem exists_findSome?_range {α : Type} {f : Nat → Option α} {n k : Nat} (hk : k < n)
    (hf : (f k).isSome = true) :
    ∃ j a, (List.range n).findSome? f = some a ∧ f j = some a ∧ j < n ∧
      ∀ i < n, (f i).isSome = true → j ≤ i := by
  have hfound : ((List.range n).findSome? f).isSome = true :=
    List.findSome?_isSome_iff.mpr ⟨k, List.mem_range.mpr hk, hf⟩
  obtain ⟨a, ha⟩ := Option.isSome_iff_exists.mp hfound
  obtain ⟨before, j, after, hrange, hj, hnone⟩ := List.findSome?_eq_some_iff.mp ha
  have hmem : ∀ {i}, i < n ↔ i ∈ before ∨ i = j ∨ i ∈ after := by
    intro i
    rw [← List.mem_range, hrange, List.mem_append, List.mem_cons]
  have hsorted : (before ++ j :: after).Pairwise (· < ·) := hrange ▸ List.pairwise_lt_range
  refine ⟨j, a, ha, hj, hmem.mpr (.inr (.inl rfl)), fun i hi hsome => ?_⟩
  -- What stands in front of the one that is found gives nothing.
  rcases hmem.mp hi with hbefore | rfl | hafter
  · rw [hnone i hbefore] at hsome
    cases hsome
  · exact Nat.le_refl i
  · exact Nat.le_of_lt (List.rel_of_pairwise_cons (List.pairwise_append.mp hsorted).2.1 hafter)

/-- The decimal `significand * 10 ^ exponent` rounds to the number, and no decimal that
    does has fewer digits. -/
structure IsShortest (mantissa unit significand : Nat) (exponent : Int) : Prop where
  pos : 0 < significand
  not_dvd : ¬ 10 ∣ significand
  lt : significand < pow10 17
  contains : (interval mantissa unit).Contains (significand * 10 ^ exponent)
  length_le : ∀ {other : Nat} {e : Int}, (interval mantissa unit).Contains (other * 10 ^ e) →
    (Text.ofNat significand).length ≤ (Text.ofNat other).length

section Search

variable {mantissa unit : Nat}

/-- The neighbours on the grid of some digits have no more, but for a power of ten. -/
theorem floorSteps_lt (unit : Nat) (hm : 0 < mantissa) (n : Nat) :
    (interval mantissa unit).floorSteps (n - (interval mantissa unit).point) < pow10 n := by
  have hle := (interval mantissa unit).floorSteps_le (n - (interval mantissa unit).point)
  have hpoint := (point_spec unit hm).2
  generalize (interval mantissa unit).point = point at hle hpoint ⊢
  generalize (interval mantissa unit).floorSteps (n - point) = floor at hle ⊢
  have hwidth : (0 : ℚ) < 10 ^ (-((n : Int) - point)) := by positivity
  have hlt : (floor : ℚ) < pow10 n := by
    rw [← mul_lt_mul_iff_of_pos_right hwidth]
    calc (floor : ℚ) * 10 ^ (-((n : Int) - point)) < 10 ^ point := hle.trans_lt hpoint
      _ = pow10 n * 10 ^ (-((n : Int) - point)) := (pow10_mul_zpow (by omega)).symm
  exact_mod_cast hlt

/-- A decimal of some digits that rounds to the number says that the grid of as many
    digits has a neighbour that does. -/
theorem neighbour?_isSome_of_contains (hm : 0 < mantissa) (tie : Tie) {other : Nat} {e : Int}
    (h : (interval mantissa unit).Contains (other * 10 ^ e)) :
    ((interval mantissa unit).neighbour? tie
      ((Text.ofNat other).length - (interval mantissa unit).point)).isSome = true := by
  have hcenter := contains_center unit hm
  have hpoint := (point_spec unit hm).1
  generalize interval mantissa unit = i at h hcenter hpoint ⊢
  have hlength := List.length_pos_of_ne_nil (Text.ofNat_ne_nil other)
  have hlt : (other : ℚ) ≤ pow10 (Text.ofNat other).length := by
    exact_mod_cast (Text.lt_pow10_length_ofNat other).le
  generalize (Text.ofNat other).length = length at hlength hlt ⊢
  by_cases he : i.point - length ≤ e
  · -- The decimal is a point of that grid.
    obtain ⟨k, hk⟩ := Int.eq_ofNat_of_zero_le (show 0 ≤ e - (i.point - length) by omega)
    refine Interval.neighbour?_isSome hcenter tie (other * pow10 k) ?_
    rw [mul_pow10_zpow other (show k + -((length : Int) - i.point) = e by omega)]
    exact h
  · -- The decimal is so small that the power of ten below the number lies in between.
    refine Interval.neighbour?_isSome hcenter tie (pow10 (length - 1)) ?_
    have hpower : (pow10 (length - 1) : ℚ) * 10 ^ (-((length : Int) - i.point)) =
        10 ^ (i.point - 1) := pow10_mul_zpow (by omega)
    rw [hpower]
    refine h.between hcenter ?_ hpoint
    calc (other : ℚ) * 10 ^ e ≤ pow10 length * 10 ^ e :=
          mul_le_mul_of_nonneg_right hlt (by positivity)
      _ = 10 ^ ((length : Int) + e) := pow10_mul_zpow rfl
      _ ≤ 10 ^ (i.point - 1) := zpow_le_zpow_right₀ (by norm_num) (by omega)

/-- The digits of a number without its zeros at the end are no more than those of the
    grid on which it was found. -/
theorem length_core_le {steps core zeros n : Nat} (hsteps : steps ≤ pow10 (n + 1))
    (hcore : steps = core * pow10 zeros) (hndvd : ¬ 10 ∣ core)
    (hlength : (Text.ofNat steps).length = (Text.ofNat core).length + zeros) :
    (Text.ofNat core).length ≤ n + 1 := by
  rcases Nat.lt_or_ge steps (pow10 (n + 1)) with hlt | hge
  · have := (Text.length_ofNat_le_iff (Nat.succ_pos n)).mpr hlt
    omega
  · -- The power of ten has a digit more, and it is a zero.
    have heq : steps = pow10 (n + 1) := Nat.le_antisymm hsteps hge
    have hzeros : zeros ≠ 0 := by
      rintro rfl
      apply hndvd
      have hone : core = pow10 (n + 1) := by rw [← heq, hcore]; exact (Nat.mul_one core).symm
      rw [hone]
      exact Nat.dvd_mul_left 10 (pow10 n)
    have hlong : (Text.ofNat steps).length ≤ n + 2 := by
      rw [Text.length_ofNat_le_iff (Nat.succ_pos _), heq, pow10_succ (n + 1)]
      have := pow10_pos (n + 1)
      omega
    omega

/-- The first grid with a neighbour in the interval: it is found, and all grids with a
    neighbour have at least as many digits. -/
theorem exists_first_grid (tie : Tie) (unit : Nat) (hm : 0 < mantissa) (hlt : mantissa < 2 ^ 53) :
    ∃ n steps : Nat, n < 17 ∧
      (interval mantissa unit).neighbour? tie (n + 1 - (interval mantissa unit).point) = some steps ∧
      shortest tie mantissa unit = ⟨Text.dropEndWhile (· == '0') (Text.ofNat steps),
        (Text.ofNat steps).length - (n + 1 - (interval mantissa unit).point)⟩ ∧
      ∀ i : Nat, i < 17 → ((interval mantissa unit).neighbour? tie
        (i + 1 - (interval mantissa unit).point)).isSome = true → n ≤ i := by
  obtain ⟨grid, hgrid⟩ := exists_contains_grid unit hm hlt
  have hlast : (((interval mantissa unit).neighbour? tie
      (((16 : Nat) : Int) + 1 - (interval mantissa unit).point)).map fun steps =>
        (steps, ((16 : Nat) : Int) + 1 - (interval mantissa unit).point)).isSome = true := by
    rw [Option.isSome_map]
    exact Interval.neighbour?_isSome (contains_center unit hm) tie grid hgrid
  -- The last grid is fine enough, so the search ends there or before.
  obtain ⟨n, found, hfound, hn, hbound, hfirst⟩ := exists_findSome?_range
    (f := fun (n : Nat) => ((interval mantissa unit).neighbour? tie
      ((n : Int) + 1 - (interval mantissa unit).point)).map fun steps =>
        (steps, (n : Int) + 1 - (interval mantissa unit).point)) (show 16 < 17 by decide) hlast
  obtain ⟨steps, hsteps, rfl⟩ := Option.map_eq_some_iff.mp hn
  refine ⟨n, steps, hbound, hsteps, ?_, fun i hi hsome => hfirst i hi ?_⟩
  · unfold shortest
    dsimp only
    rw [hfound]
  · rw [Option.isSome_map]
    exact hsome

/-- The shortest digits of a number are those of a shortest decimal. -/
theorem exists_isShortest (tie : Tie) (unit : Nat) (hm : 0 < mantissa) (hlt : mantissa < 2 ^ 53) :
    ∃ significand exponent, IsShortest mantissa unit significand exponent ∧
      shortest tie mantissa unit =
        ⟨Text.ofNat significand, (Text.ofNat significand).length + exponent⟩ := by
  obtain ⟨n, steps, hbound, hsteps, hshortest, hfirst⟩ := exists_first_grid tie unit hm hlt
  obtain ⟨hnext, hcontains⟩ := Interval.neighbour?_eq_some hsteps
  have hpos : 0 < steps := by
    have := pos_of_contains hm hcontains
    rcases Nat.eq_zero_or_pos steps with rfl | h
    · rw [Nat.cast_zero, zero_mul] at this
      exact absurd this (lt_irrefl 0)
    · exact h
  have hle : steps ≤ pow10 (n + 1) := by
    have := floorSteps_lt unit hm (n + 1)
    rw [Nat.cast_succ] at this
    omega
  -- The zeros at the end of the steps go into the exponent.
  obtain ⟨core, zeros, hcore, hndvd, hdrop, hlength⟩ := Text.exists_dropEndWhile_ofNat hpos
  have hdigits := length_core_le hle hcore hndvd hlength
  have hcorepos : 0 < core := Nat.pos_of_ne_zero fun h => hndvd (h ▸ Nat.dvd_zero 10)
  refine ⟨core, zeros - ((n : Int) + 1 - (interval mantissa unit).point),
    ⟨hcorepos, hndvd, ?_, ?_, fun {other e} h => ?_⟩, ?_⟩
  · rw [← Text.length_ofNat_le_iff (by decide)]
    omega
  · have hvalue : (core : ℚ) * 10 ^ ((zeros : Int) - (n + 1 - (interval mantissa unit).point)) =
        steps * 10 ^ (-((n : Int) + 1 - (interval mantissa unit).point)) := by
      rw [hcore]
      exact (mul_pow10_zpow core (sub_eq_add_neg _ _).symm).symm
    rw [hvalue]
    exact hcontains
  · -- No grid of fewer digits has a neighbour.
    by_contra hshort
    have hother := List.length_pos_of_ne_nil (Text.ofNat_ne_nil other)
    have hdigit : (((Text.ofNat other).length - 1 : Nat) : Int) + 1 = (Text.ofNat other).length := by
      omega
    have hearlier := hfirst ((Text.ofNat other).length - 1) (by omega)
    rw [hdigit] at hearlier
    have := hearlier (neighbour?_isSome_of_contains hm tie h)
    omega
  · rw [hshortest, hdrop, hlength]
    congr 1
    push_cast
    ring

end Search

end Binary64
end Tagdown
