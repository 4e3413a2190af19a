/-
  Tagdown.Proofs.Numeric.Nearest

  Rounding takes the nearest number. An interval does not reach beyond the middles to other
  numbers (`high_interval_le_add`, `add_le_low_interval`), so none of them is nearer to a
  rational of the interval (`abs_sub_le_of_contains`). A quotient lies in the interval of the
  number that it is rounded to, and so that number is nearest to it (`isNearest_ofGrains`).
-/

import Tagdown.Proofs.Numeric.Order

namespace Tagdown
namespace Binary64

/-! ## Values -/

/-- The rational that a finite number stands for. -/
def value : Binary64 → ℚ
  | finite false mantissa unit => grains mantissa unit / grain
  | finite true mantissa unit => -(grains mantissa unit / grain)
  | _ => 0

/-- No finite number lies nearer to the rational. -/
def IsNearest (x : Binary64) (q : ℚ) : Prop :=
  x.isFinite = true ∧ x.IsWellFormed ∧
    ∀ y : Binary64, y.isFinite = true → y.IsWellFormed → |x.value - q| ≤ |y.value - q|

variable {mantissa unit mantissa' unit' : Nat} {q : ℚ}

theorem value_nonneg (mantissa unit : Nat) : 0 ≤ (finite false mantissa unit).value :=
  div_nonneg (Nat.cast_nonneg _) cast_grain_pos.le

theorem value_mul_grain (mantissa unit : Nat) :
    (finite false mantissa unit).value * grain = grains mantissa unit :=
  div_mul_cancel₀ _ cast_grain_pos.ne'

/-- A number lies in its own interval. -/
theorem contains_value (mantissa unit : Nat) :
    (interval mantissa unit).Contains (finite false mantissa unit).value := by
  have hcenter : (finite false mantissa unit).value * (4 * grain) =
      ((4 * grains mantissa unit : Nat) : ℚ) := by
    rw [mul_left_comm, value_mul_grain]
    push_cast
    rfl
  have hlow : (interval mantissa unit).low ≤ 4 * grains mantissa unit := by
    rw [grains, ← Nat.mul_assoc]
    exact Nat.mul_le_mul_right _ (Nat.sub_le _ _)
  have hhigh := four_mul_grains_lt_high mantissa unit
  rw [Interval.Contains, hcenter]
  split
  · exact ⟨by exact_mod_cast hlow, by exact_mod_cast hhigh.le⟩
  · -- The mantissa is odd, so there is room below it.
    rename_i hclosed
    have hodd : mantissa ≠ 0 := by
      rintro rfl
      exact hclosed rfl
    have hless : (interval mantissa unit).low < 4 * grains mantissa unit := by
      rw [grains, ← Nat.mul_assoc]
      refine Nat.mul_lt_mul_of_pos_right ?_ (pow2_pos unit)
      split <;> omega
    exact ⟨by exact_mod_cast hless, by exact_mod_cast hhigh⟩

/-- A positive number is no nearer to a rational than the number whose interval it lies in. -/
theorem abs_sub_le_of_contains (hcanonical : IsCanonical mantissa unit)
    (hcanonical' : IsCanonical mantissa' unit') (hcontains : (interval mantissa unit).Contains q) :
    |(finite false mantissa unit).value - q| ≤ |(finite false mantissa' unit').value - q| := by
  have hgrain := cast_grain_pos
  -- From here on the two numbers are rationals with a known number of grains.
  have hvalue := value_mul_grain mantissa unit
  have hvalue' := value_mul_grain mantissa' unit'
  generalize (finite false mantissa unit).value = v at hvalue ⊢
  generalize (finite false mantissa' unit').value = v' at hvalue' ⊢
  rcases lt_trichotomy (grains mantissa unit) (grains mantissa' unit') with hlt | heq | hlt
  · -- The rational lies below the middle, so the distance to the larger number is larger.
    have hmiddle : q * (4 * grain) ≤
        (2 * grains mantissa unit + 2 * grains mantissa' unit' : Nat) := by
      refine hcontains.le_high.trans ?_
      exact_mod_cast high_interval_le_add hcanonical hcanonical' hlt
    have hsum : 2 * q ≤ v + v' := by
      apply le_of_mul_le_mul_right _ hgrain
      rw [add_mul, hvalue, hvalue']
      push_cast at hmiddle
      linarith
    have horder : v ≤ v' := by
      apply le_of_mul_le_mul_right _ hgrain
      rw [hvalue, hvalue']
      exact_mod_cast hlt.le
    rw [abs_le]
    constructor
    · linarith [neg_abs_le (v' - q), le_abs_self (v' - q)]
    · linarith [le_abs_self (v' - q)]
  · -- As large and positive as well: it is the same value.
    have hsame : v = v' := by
      apply mul_right_cancel₀ hgrain.ne'
      rw [hvalue, hvalue', heq]
    rw [hsame]
  · -- The rational lies above the middle.
    have hmiddle : ((2 * grains mantissa unit + 2 * grains mantissa' unit' : Nat) : ℚ) ≤
        q * (4 * grain) := by
      refine le_trans ?_ hcontains.low_le
      exact_mod_cast add_le_low_interval hcanonical hcanonical' hlt
    have hsum : v + v' ≤ 2 * q := by
      apply le_of_mul_le_mul_right _ hgrain
      rw [add_mul, hvalue, hvalue']
      push_cast at hmiddle
      linarith
    have horder : v' ≤ v := by
      apply le_of_mul_le_mul_right _ hgrain
      rw [hvalue, hvalue']
      exact_mod_cast hlt.le
    rw [abs_le]
    constructor
    · linarith [neg_abs_le (v' - q)]
    · linarith [neg_abs_le (v' - q)]

/-- A quotient is rounded to a number that none lies nearer to it than. -/
theorem isNearest_ofGrains {num den : Nat} (hden : 0 < den)
    (hsize : (num : ℚ) / (den * grain) < 18014398509481983 * pow2 970) :
    IsNearest (ofGrains false num den) (num / (den * grain)) := by
  obtain ⟨m, u, hcanonical, hunit, hcontains, heq⟩ := exists_finite_ofGrains false hden hsize
  rw [heq]
  refine ⟨rfl, ⟨hcanonical, hunit⟩, ?_⟩
  have hq : (0 : ℚ) ≤ num / (den * grain) :=
    div_nonneg (Nat.cast_nonneg _) (mul_nonneg (Nat.cast_nonneg _) cast_grain_pos.le)
  generalize (num : ℚ) / (den * grain) = q at hcontains hq
  intro y hy hwell
  cases y with
  | nan => cases hy
  | infinite _ => cases hy
  | finite negative m' u' =>
    have hle := abs_sub_le_of_contains hcanonical hwell.1 hcontains
    cases negative with
    | false => exact hle
    | true =>
      -- Below zero a number is farther away than without its sign.
      have hsign : (finite true m' u').value = -(finite false m' u').value := rfl
      have hvalue := value_nonneg m' u'
      rw [hsign]
      refine hle.trans ?_
      rw [abs_le, abs_of_nonpos (show -(finite false m' u').value - q ≤ 0 by linarith)]
      constructor <;> linarith

theorem isNearest_tenth {k : Nat} (hk : k ≤ 1000) : IsNearest (ofRatio false k 10) (k / 10) := by
  have hnearest := isNearest_ofGrains (by omega) (tenth_lt hk)
  rwa [cast_tenth] at hnearest

end Binary64
end Tagdown
