/-
  Tagdown.Proofs.Numeric.Error

  How far a number that several operations gave is from the rational that they would give
  exactly. Each operation adds the error of its own rounding, and a product multiplies the
  error that it gets. At the end of a percentage less than a twentieth of a tenth has come
  together, so the tenth that it is rounded to is hardly farther away than the nearest one
  (`exists_percent`).
-/

import Tagdown.Proofs.Numeric.Nearest

namespace Tagdown
namespace Binary64

/-! ## Errors -/

/-- The number is finite, has no minus sign and is at most `error` away from the rational. -/
def IsNear (error q : ℚ) (x : Binary64) : Prop :=
  ∃ mantissa unit, x = finite false mantissa unit ∧
    |(finite false mantissa unit).value - q| ≤ error

variable {error : ℚ} {x : Binary64}

/-- Rounding moves a quotient up to two thousand by less than the fifth decimal place. -/
theorem isNear_ofGrains {num den : Nat} (hden : 0 < den)
    (hsize : (num : ℚ) / (den * grain) ≤ 2000) :
    IsNear (1 / 100000) (num / (den * grain)) (ofGrains false num den) := by
  have hlt : (num : ℚ) / (den * grain) < 18014398509481983 * pow2 970 := by
    have hpow : (1 : ℚ) ≤ pow2 970 := by exact_mod_cast pow2_pos 970
    linarith
  obtain ⟨m, u, hcanonical, -, hcontains, heq⟩ := exists_finite_ofGrains false hden hlt
  have herror := sub_lt_of_contains hcanonical (contains_value m u) hcontains hsize
  have hplace : (10 : ℚ) ^ (-5 : Int) = 1 / 100000 := by norm_num
  rw [hplace] at herror
  exact ⟨m, u, heq, herror.le⟩

/-- A product with a natural number multiplies the error and adds that of its rounding. -/
theorem IsNear.mul (h : IsNear error q x) {a : Nat} (ha : a < 2 ^ 53)
    (hsize : a * (q + error) ≤ 2000) :
    IsNear (a * error + 1 / 100000) (a * q) (x.mul (ofNat a)) := by
  obtain ⟨m, u, rfl, herror⟩ := h
  obtain ⟨n, v, heq, hgrains⟩ := exists_ofNat_eq ha
  have hgrain := cast_grain_pos
  -- The natural number is exact, so what is rounded is `a` times the number itself.
  have hproduct : ((grains m u * (a * grain) : Nat) : ℚ) / (grain * grain) =
      a * (finite false m u).value := by
    rw [value]
    push_cast
    field_simp
  have ha' : (0 : ℚ) ≤ a := Nat.cast_nonneg a
  have herror' := abs_le.mp herror
  have hbound : a * (finite false m u).value ≤ 2000 :=
    (mul_le_mul_of_nonneg_left (by linarith [herror'.2]) ha').trans hsize
  rw [heq, finite_mul_finite, hgrains]
  obtain ⟨m', u', heq', hnear⟩ := isNear_ofGrains grain_pos (hproduct.trans_le hbound)
  rw [hproduct] at hnear
  refine ⟨m', u', heq', ?_⟩
  -- From the product to the number times `a`, and from there to the rational times `a`.
  have hscaled : |a * (finite false m u).value - a * q| ≤ a * error := by
    rw [← mul_sub, abs_mul, abs_of_nonneg ha']
    exact mul_le_mul_of_nonneg_left herror ha'
  have htriangle := abs_sub_le (finite false m' u').value (a * (finite false m u).value) (a * q)
  linarith

/-- The nearest natural number is a half away at most. -/
theorem abs_roundHalfUp_sub_le (num : Nat) {den : Nat} (hden : 0 < den) :
    |(roundHalfUp num den : ℚ) - num / den| ≤ 1 / 2 := by
  have hden' : (0 : ℚ) < den := by exact_mod_cast hden
  have hlow : roundHalfUp num den * (2 * den) ≤ 2 * num + den := Nat.div_mul_le_self _ _
  have hhigh : 2 * num + den < (roundHalfUp num den + 1) * (2 * den) := by
    have hlt := Nat.lt_div_mul_add (a := 2 * num + den) (show 0 < 2 * den by omega)
    rw [Nat.add_mul, Nat.one_mul]
    exact hlt
  -- The same two bounds over the rationals, where the quotient is exact.
  have hlow' : (roundHalfUp num den : ℚ) * (2 * den) ≤ 2 * num + den := by exact_mod_cast hlow
  have hhigh' : (2 * num + den : ℚ) < (roundHalfUp num den + 1) * (2 * den) := by
    exact_mod_cast hhigh
  have hquotient : (num : ℚ) / den * den = num := div_mul_cancel₀ _ hden'.ne'
  generalize (num : ℚ) / den = q at hquotient ⊢
  rw [abs_le]
  constructor
  · apply le_of_mul_le_mul_right _ hden'
    linarith
  · apply le_of_mul_le_mul_right _ hden'
    linarith

/-- Rounding to a natural number moves a number by a half at most. -/
theorem IsNear.exists_round (h : IsNear error q x) :
    ∃ k : Nat, x.round = ofNat k ∧ |(k : ℚ) - q| ≤ 1 / 2 + error := by
  obtain ⟨m, u, rfl, herror⟩ := h
  refine ⟨roundHalfUp (grains m u) grain, rfl, ?_⟩
  have hround := abs_roundHalfUp_sub_le (grains m u) grain_pos
  have htriangle := abs_sub_le (roundHalfUp (grains m u) grain : ℚ) (finite false m u).value q
  exact htriangle.trans (add_le_add hround herror)

/-! ## Percentages -/

/-- The quotient of two natural numbers of 53 bits is rounded once. -/
theorem isNear_ofNat_div_ofNat {part total : Nat} (hpos : 0 < total) (htotal : total < 2 ^ 53)
    (h : part ≤ total) : IsNear (1 / 100000) (part / total) ((ofNat part).div (ofNat total)) := by
  obtain ⟨m, u, heq, hgrains⟩ := exists_ofNat_eq (show part < 2 ^ 53 by omega)
  obtain ⟨n, v, heq', hgrains'⟩ := exists_ofNat_eq htotal
  have hgrain := cast_grain_pos
  have hgrain' := grain_pos
  have htotal' : (0 : ℚ) < total := by exact_mod_cast hpos
  have hwhole : 0 < total * grain := Nat.mul_pos hpos hgrain'
  have hn : n ≠ 0 := by
    rintro rfl
    rw [grains, Nat.zero_mul] at hgrains'
    omega
  -- Both numbers are exact, so the quotient that is rounded is that of the two.
  have hcast : ((part * grain * grain : Nat) : ℚ) / ((total * grain : Nat) * grain) =
      part / total := by
    push_cast
    field_simp
  have hone : (part : ℚ) / total ≤ 1 := by
    rw [div_le_one htotal']
    exact_mod_cast h
  have hnear : IsNear (1 / 100000) (part / total)
      (ofGrains false (part * grain * grain) (total * grain)) := by
    rw [← hcast]
    apply isNear_ofGrains hwhole
    rw [hcast]
    linarith
  rw [heq, heq', div, if_neg hn, hgrains, hgrains']
  exact hnear

/-- The percentage of a part, rounded to one decimal, is the tenth that it is nearest to, or
    another one that is hardly farther away. -/
theorem exists_percent {part total : Nat} (hpos : 0 < total) (htotal : total < 2 ^ 53)
    (h : part ≤ total) :
    ∃ k ≤ 1000,
      (((ofNat part).div (ofNat total)).mul (ofNat 100)).roundToTenth = ofRatio false k 10 ∧
        |(k : ℚ) - 1000 * (part / total)| ≤ 11 / 20 := by
  have htotal' : (0 : ℚ) < total := by exact_mod_cast hpos
  have hone : (part : ℚ) / total ≤ 1 := by
    rw [div_le_one htotal']
    exact_mod_cast h
  have hquotient := isNear_ofNat_div_ofNat hpos htotal h
  generalize (part : ℚ) / total = q at hone hquotient ⊢
  -- One error of a rounding, times one hundred and times ten, and two smaller ones.
  have hpercent := hquotient.mul (a := 100) (by omega) (by push_cast; linarith)
  have htenths := hpercent.mul (a := 10) (by omega) (by push_cast; linarith)
  obtain ⟨k, hround, herror⟩ := htenths.exists_round
  push_cast at herror
  -- The last rounding moves the number by a half, and all before it by less than a twentieth.
  have herror' : |(k : ℚ) - 1000 * q| ≤ 11 / 20 := by
    have hten : (1000 : ℚ) * q = 10 * (100 * q) := by ring
    rw [hten]
    linarith
  have hk : k ≤ 1000 := by
    have hlt : (k : ℚ) < 1001 := by linarith [(abs_le.mp herror').2]
    have hlt' : k < 1001 := by exact_mod_cast hlt
    omega
  exact ⟨k, hk, by rw [roundToTenth, hround, ofNat_div_ten hk], herror'⟩

end Binary64
end Tagdown
