/-
  Tagdown.Proofs.Numeric.Rounding

  What rounding to a binary64 number gives. `Interval.Contains` says of a rational
  that it lies in the interval of a number. A quotient lies in the interval of the
  number it is rounded to (`ofGrains_contains`), and how far that number can be
  from it, whether it is finite and which quotients it gives exactly all follow.
-/

import Mathlib.Algebra.Order.Field.Rat
import Mathlib.Tactic.FieldSimp
import Mathlib.Tactic.Linarith
import Mathlib.Tactic.NormNum
import Mathlib.Tactic.Positivity
import Mathlib.Tactic.Ring
import Tagdown.Numeric.Shortest

namespace Tagdown

/-! ## Rounding to a natural number -/

/-- The rounded quotient is at most a half away, and less than that if it is odd. -/
theorem roundHalfEven_spec (num : Nat) {den : Nat} (hden : 0 < den) :
    2 * (roundHalfEven num den * den) ≤ 2 * num + den ∧
      2 * num ≤ 2 * (roundHalfEven num den * den) + den ∧
      (roundHalfEven num den % 2 = 1 →
        2 * (roundHalfEven num den * den) < 2 * num + den ∧
          2 * num < 2 * (roundHalfEven num den * den) + den) := by
  have hdiv := Nat.div_add_mod num den
  have hmod := Nat.mod_lt num hden
  rw [Nat.mul_comm] at hdiv
  have hsucc : (num / den + 1) * den = num / den * den + den := Nat.succ_mul _ _
  unfold roundHalfEven
  dsimp only
  split
  · omega
  · split
    · rw [hsucc]
      omega
    · -- The quotient lies in the middle, so the even neighbour is taken.
      rcases Nat.mod_two_eq_zero_or_one (num / den) with heven | hodd
      · rw [heven, Nat.add_zero]
        omega
      · rw [hodd, hsucc]
        omega

/-- A quotient that is a natural number is not changed. -/
theorem roundHalfEven_mul (quotient : Nat) {den : Nat} (hden : 0 < den) :
    roundHalfEven (quotient * den) den = quotient := by
  unfold roundHalfEven
  dsimp only
  rw [Nat.mul_div_cancel _ hden, Nat.mul_mod_left, if_pos (by omega)]

theorem roundHalfEven_mul_right (num den : Nat) {factor : Nat} (hfactor : 0 < factor) :
    roundHalfEven (num * factor) (den * factor) = roundHalfEven num den := by
  unfold roundHalfEven
  dsimp only
  rw [Nat.mul_div_mul_right _ _ hfactor, Nat.mul_mod_mul_right, ← Nat.mul_assoc]
  simp only [Nat.mul_lt_mul_right hfactor]

theorem pow2_add (m n : Nat) : pow2 (m + n) = pow2 m * pow2 n :=
  Nat.pow_add 2 m n

theorem pow2_le_pow2 {m n : Nat} (h : m ≤ n) : pow2 m ≤ pow2 n :=
  Nat.pow_le_pow_right (by decide) h

theorem pow10_add (m n : Nat) : pow10 (m + n) = pow10 m * pow10 n :=
  Nat.pow_add 10 m n

theorem pow10_le_pow10 {m n : Nat} (h : m ≤ n) : pow10 m ≤ pow10 n :=
  Nat.pow_le_pow_right (by decide) h

namespace Binary64

theorem grain_pos : 0 < grain :=
  pow2_pos 1074

theorem cast_grain_pos : (0 : ℚ) < grain := by
  exact_mod_cast grain_pos

/-! ## Intervals -/

/-- The rational lies in the interval. -/
def Interval.Contains (i : Interval) (x : ℚ) : Prop :=
  if i.closed then i.low ≤ x * (4 * grain) ∧ x * (4 * grain) ≤ i.high
  else i.low < x * (4 * grain) ∧ x * (4 * grain) < i.high

theorem Interval.holds_iff {i : Interval} {num den : Nat} (hden : 0 < den) :
    i.holds num den = true ↔ i.Contains (num / den) := by
  have hden' : (0 : ℚ) < den := by exact_mod_cast hden
  have hcast : (num : ℚ) / den * (4 * grain) = ((num * (4 * grain) : Nat) : ℚ) / den := by
    push_cast
    ring
  rw [holds, Contains, hcast]
  split
  · simp only [Bool.and_eq_true, decide_eq_true_eq, le_div_iff₀ hden', div_le_iff₀ hden']
    norm_cast
  · simp only [Bool.and_eq_true, decide_eq_true_eq, lt_div_iff₀ hden', div_lt_iff₀ hden']
    norm_cast

theorem Interval.Contains.low_le {i : Interval} {x : ℚ} (h : i.Contains x) :
    i.low ≤ x * (4 * grain) := by
  rw [Contains] at h
  split at h
  · exact h.1
  · exact h.1.le

theorem Interval.Contains.le_high {i : Interval} {x : ℚ} (h : i.Contains x) :
    x * (4 * grain) ≤ i.high := by
  rw [Contains] at h
  split at h
  · exact h.2
  · exact h.2.le

/-- What lies between two numbers of an interval lies in it. -/
theorem Interval.Contains.between {i : Interval} {x y z : ℚ} (hx : i.Contains x)
    (hz : i.Contains z) (hxy : x ≤ y) (hyz : y ≤ z) : i.Contains y := by
  have hgrain : (0 : ℚ) ≤ 4 * grain := by positivity
  have hlow := mul_le_mul_of_nonneg_right hxy hgrain
  have hhigh := mul_le_mul_of_nonneg_right hyz hgrain
  rw [Contains] at hx hz ⊢
  split
  · rw [if_pos ‹_›] at hx hz
    exact ⟨hx.1.trans hlow, hhigh.trans hz.2⟩
  · rw [if_neg ‹_›] at hx hz
    exact ⟨hx.1.trans_le hlow, hhigh.trans_lt hz.2⟩

/-! ## Rounding to a binary64 number -/

/-- The mantissa and the unit of a binary64 number, if it is finite: the mantissa
    has 53 bits, and the highest of them is set unless the unit is the least. -/
structure IsCanonical (mantissa unit : Nat) : Prop where
  lt : mantissa < 2 ^ 53
  le : unit ≠ 0 → 2 ^ 52 ≤ mantissa

/-- The number has a mantissa and a unit that 64 bits can hold. -/
def IsWellFormed : Binary64 → Prop
  | finite _ mantissa unit => IsCanonical mantissa unit ∧ unit ≤ 2045
  | _ => True

/-- The unit is chosen so that the rounded mantissa has 53 bits. -/
theorem unit_spec (num : Nat) {den : Nat} (hden : 0 < den) :
    let unit := (num / den).log2 - 52
    num < 2 ^ 53 * (den * pow2 unit) ∧ (unit ≠ 0 → 2 ^ 52 * (den * pow2 unit) ≤ num) := by
  intro unit
  have hfloor : num < (num / den + 1) * den := by
    have := Nat.lt_div_mul_add (a := num) hden
    rw [Nat.succ_mul]
    exact this
  constructor
  · have hlog : num / den + 1 ≤ 2 ^ 53 * pow2 unit := by
      have hlt := Nat.lt_log2_self (n := num / den)
      have hle : 2 ^ ((num / den).log2 + 1) ≤ 2 ^ (53 + unit) :=
        Nat.pow_le_pow_right (by decide) (by omega)
      rw [Nat.pow_add 2 53] at hle
      exact hlt.trans_le hle
    calc num < (num / den + 1) * den := hfloor
      _ ≤ 2 ^ 53 * pow2 unit * den := Nat.mul_le_mul_right _ hlog
      _ = 2 ^ 53 * (den * pow2 unit) := by ring
  · -- A unit that is not the least is the one that the logarithm asks for.
    intro hunit
    have hne : num / den ≠ 0 := by
      intro hzero
      apply hunit
      show (num / den).log2 - 52 = 0
      rw [hzero]
      decide
    have hlog : 2 ^ 52 * pow2 unit ≤ num / den := by
      have hle := Nat.log2_self_le hne
      have hexp : (num / den).log2 = 52 + unit := by omega
      rw [hexp, Nat.pow_add] at hle
      exact hle
    calc 2 ^ 52 * (den * pow2 unit) = 2 ^ 52 * pow2 unit * den := by ring
      _ ≤ num / den * den := Nat.mul_le_mul_right _ hlog
      _ ≤ num := Nat.div_mul_le_self num den

/-- A quotient of grains lies in an interval if its bounds, times the divisor, say so. -/
theorem Interval.contains_div {i : Interval} {num den : Nat} (hden : 0 < den)
    (hlow : i.low * den ≤ 4 * num) (hhigh : 4 * num ≤ i.high * den)
    (hopen : i.closed = false → i.low * den < 4 * num ∧ 4 * num < i.high * den) :
    i.Contains (num / (den * grain)) := by
  have hden' : (0 : ℚ) < den := by exact_mod_cast hden
  have hgrain := cast_grain_pos
  have hcast : (num : ℚ) / (den * grain) * (4 * grain) = ((4 * num : Nat) : ℚ) / den := by
    push_cast
    field_simp
  rw [Contains, hcast]
  split
  · rw [le_div_iff₀ hden', div_le_iff₀ hden']
    exact ⟨by exact_mod_cast hlow, by exact_mod_cast hhigh⟩
  · rename_i hclosed
    obtain ⟨hlow', hhigh'⟩ := hopen (Bool.eq_false_iff.mpr hclosed)
    rw [lt_div_iff₀ hden', div_lt_iff₀ hden']
    exact ⟨by exact_mod_cast hlow', by exact_mod_cast hhigh'⟩

/-- The bounds of an interval, times a divisor, in terms of the scaled divisor. -/
theorem low_interval_mul (mantissa unit den : Nat) :
    (interval mantissa unit).low * den =
      (4 * mantissa - if mantissa = pow2 52 ∧ unit ≠ 0 then 1 else 2) * (den * pow2 unit) := by
  rw [Nat.mul_comm den, ← Nat.mul_assoc]
  rfl

theorem high_interval_mul (mantissa unit den : Nat) :
    (interval mantissa unit).high * den = (4 * mantissa + 2) * (den * pow2 unit) := by
  rw [Nat.mul_comm den, ← Nat.mul_assoc]
  rfl

section Rounded

variable {num den unit : Nat}

/-- A mantissa that is rounded up to the next power of two is halved, in twice the unit. -/
theorem contains_carry (hden : 0 < den) (hlt : num < 2 ^ 53 * (den * pow2 unit))
    (hcarry : roundHalfEven num (den * pow2 unit) = pow2 53) :
    (interval (pow2 52) (unit + 1)).Contains (num / (den * grain)) := by
  have hscale : 0 < den * pow2 unit := Nat.mul_pos hden (pow2_pos unit)
  obtain ⟨habove, -, -⟩ := roundHalfEven_spec num hscale
  have hpow : roundHalfEven num (den * pow2 unit) = 9007199254740992 := hcarry
  rw [hpow] at habove
  have htwice : den * pow2 (unit + 1) = 2 * (den * pow2 unit) := by
    rw [pow2_succ]
    ring
  apply Interval.contains_div hden
  · rw [low_interval_mul, if_pos ⟨rfl, Nat.succ_ne_zero unit⟩, htwice]
    show 18014398509481983 * (2 * (den * pow2 unit)) ≤ 4 * num
    omega
  · rw [high_interval_mul, htwice]
    show 4 * num ≤ 18014398509481986 * (2 * (den * pow2 unit))
    omega
  · -- A power of two is even, so its interval has its ends.
    intro hclosed
    have heven : (interval (pow2 52) (unit + 1)).closed = true := rfl
    rw [heven] at hclosed
    cases hclosed

/-- A rounded mantissa is canonical unless it is carried. -/
theorem isCanonical_rounded (hden : 0 < den) (hlt : num < 2 ^ 53 * (den * pow2 unit))
    (hge : unit ≠ 0 → 2 ^ 52 * (den * pow2 unit) ≤ num)
    (hcarry : roundHalfEven num (den * pow2 unit) ≠ pow2 53) :
    IsCanonical (roundHalfEven num (den * pow2 unit)) unit := by
  have hscale : 0 < den * pow2 unit := Nat.mul_pos hden (pow2_pos unit)
  obtain ⟨habove, hbelow, -⟩ := roundHalfEven_spec num hscale
  generalize roundHalfEven num (den * pow2 unit) = m at habove hbelow hcarry ⊢
  constructor
  · have hle : m ≤ 2 ^ 53 := by
      by_contra hgt
      have hmul := Nat.mul_le_mul_right (den * pow2 unit) (Nat.lt_of_not_le hgt)
      rw [Nat.succ_eq_add_one, Nat.succ_mul] at hmul
      omega
    exact Nat.lt_of_le_of_ne hle hcarry
  · intro hunit
    have hlarge := hge hunit
    by_contra hgt
    -- A mantissa below `2 ^ 52` would be a whole unit away from the quotient.
    have hmul := Nat.mul_le_mul_right (den * pow2 unit) (Nat.lt_of_not_le hgt)
    rw [Nat.succ_mul] at hmul
    omega

/-- A quotient is at most half a unit away from its rounded mantissa. -/
theorem contains_rounded (hden : 0 < den)
    (hge : unit ≠ 0 → 2 ^ 52 * (den * pow2 unit) ≤ num) :
    (interval (roundHalfEven num (den * pow2 unit)) unit).Contains (num / (den * grain)) := by
  have hscale : 0 < den * pow2 unit := Nat.mul_pos hden (pow2_pos unit)
  obtain ⟨habove, hbelow, hodd⟩ := roundHalfEven_spec num hscale
  generalize roundHalfEven num (den * pow2 unit) = m at habove hbelow hodd ⊢
  have hhigh : (4 * m + 2) * (den * pow2 unit) =
      4 * (m * (den * pow2 unit)) + 2 * (den * pow2 unit) := by
    ring
  have hlow : (4 * m - 2) * (den * pow2 unit) =
      4 * (m * (den * pow2 unit)) - 2 * (den * pow2 unit) := by
    rw [Nat.sub_mul, Nat.mul_assoc]
  apply Interval.contains_div hden
  · rw [low_interval_mul]
    split
    · -- Below a power of two nothing is rounded to it that was not rounded up.
      rename_i hpower
      have hlarge := hge hpower.2
      rw [hpower.1]
      show 18014398509481983 * (den * pow2 unit) ≤ 4 * num
      omega
    · rw [hlow]
      omega
  · rw [high_interval_mul, hhigh]
    omega
  · -- What lies at an end of the interval of an odd mantissa is rounded away from it.
    intro hclosed
    have hm : m % 2 = 1 := by
      have hne : (m % 2 == 0) = false := hclosed
      rw [beq_eq_false_iff_ne] at hne
      omega
    have hstrict := hodd hm
    have hscaled : den * pow2 unit ≤ m * (den * pow2 unit) :=
      Nat.le_mul_of_pos_left _ (by omega)
    have hpower : ¬ (m = pow2 52 ∧ unit ≠ 0) := by
      rintro ⟨rfl, -⟩
      cases hm
    rw [low_interval_mul, high_interval_mul, if_neg hpower, hlow, hhigh]
    omega

end Rounded

/-- A quotient lies in the interval of the number that it is rounded to. -/
theorem ofGrains_contains (negative : Bool) (num : Nat) {den : Nat} (hden : 0 < den) :
    ∃ mantissa unit, IsCanonical mantissa unit ∧
      (interval mantissa unit).Contains (num / (den * grain)) ∧
      ofGrains negative num den =
        if 2045 < unit then infinite negative else finite negative mantissa unit := by
  obtain ⟨hlt, hge⟩ := unit_spec num hden
  unfold ofGrains
  dsimp only
  generalize (num / den).log2 - 52 = unit at hlt hge ⊢
  -- A carry gives the least mantissa of the next unit, anything else is the rounded mantissa.
  by_cases hcarry : roundHalfEven num (den * pow2 unit) = pow2 53
  · refine ⟨pow2 52, unit + 1, ⟨by decide, fun _ => by decide⟩, contains_carry hden hlt hcarry, ?_⟩
    simp only [hcarry, if_true]
  · refine ⟨roundHalfEven num (den * pow2 unit), unit, isCanonical_rounded hden hlt hge hcarry,
      contains_rounded hden hge, ?_⟩
    simp only [if_neg hcarry]

/-- Rounding depends on the quotient only. -/
theorem ofGrains_mul_right (negative : Bool) (num den : Nat) {factor : Nat} (hfactor : 0 < factor) :
    ofGrains negative (num * factor) (den * factor) = ofGrains negative num den := by
  unfold ofGrains
  dsimp only
  rw [Nat.mul_div_mul_right _ _ hfactor, Nat.mul_right_comm den factor,
    roundHalfEven_mul_right _ _ hfactor]

/-! ## Natural numbers -/

theorem log2_mul_pow2 {n : Nat} (hn : 0 < n) (k : Nat) : (n * pow2 k).log2 = n.log2 + k := by
  have hne : n ≠ 0 := Nat.ne_of_gt hn
  rw [Nat.log2_eq_iff (Nat.ne_of_gt (Nat.mul_pos hn (pow2_pos k))), Nat.add_right_comm,
    Nat.pow_add, Nat.pow_add]
  exact ⟨Nat.mul_le_mul_right _ (Nat.log2_self_le hne),
    Nat.mul_lt_mul_of_pos_right Nat.lt_log2_self (pow2_pos k)⟩

/-- Natural numbers of 53 bits are binary64 numbers. -/
theorem exists_ofNat_eq {n : Nat} (hn : n < 2 ^ 53) :
    ∃ mantissa unit, ofNat n = finite false mantissa unit ∧ grains mantissa unit = n * grain := by
  rcases Nat.eq_zero_or_pos n with rfl | hpos
  · exact ⟨0, 0, by rw [ofNat, ofRatio, Nat.zero_mul]; rfl, by rw [grains, Nat.zero_mul, Nat.zero_mul]⟩
  · -- The mantissa is the number, shifted until it has 53 bits, so nothing is rounded.
    have hlog : n.log2 ≤ 52 := Nat.lt_succ_iff.mp ((Nat.log2_lt (Nat.ne_of_gt hpos)).mpr hn)
    have hgrain : grain = pow2 (52 - n.log2) * pow2 (n.log2 + 1022) := by
      rw [← pow2_add]
      exact congrArg pow2 (by omega)
    have hsplit : n * grain = n * pow2 (52 - n.log2) * pow2 (n.log2 + 1022) := by
      rw [hgrain, Nat.mul_assoc]
    have hlt : n * pow2 (52 - n.log2) < pow2 53 := by
      have hpow : pow2 53 = pow2 (n.log2 + 1) * pow2 (52 - n.log2) := by
        rw [← pow2_add]
        exact congrArg pow2 (by omega)
      rw [hpow]
      exact Nat.mul_lt_mul_of_pos_right Nat.lt_log2_self (pow2_pos _)
    have hunit : (n * grain / 1).log2 - 52 = n.log2 + 1022 := by
      rw [Nat.div_one, grain, log2_mul_pow2 hpos]
      omega
    have hmantissa : roundHalfEven (n * grain) (1 * pow2 (n.log2 + 1022)) =
        n * pow2 (52 - n.log2) := by
      rw [Nat.one_mul, hsplit]
      exact roundHalfEven_mul _ (pow2_pos _)
    refine ⟨n * pow2 (52 - n.log2), n.log2 + 1022, ?_, hsplit.symm⟩
    have hfits : ¬ 2045 < n.log2 + 1022 := by omega
    rw [ofNat, ofRatio, ofGrains]
    simp only [hunit, hmantissa, Nat.ne_of_lt hlt, if_false, if_neg hfits]

/-! ## Overflow -/

/-- The least number of a unit, but for the least unit, is a power of two, and half a
    step below it the interval starts. The factor is `2 ^ 54 - 1`. -/
theorem le_low_interval {mantissa unit : Nat} (h : IsCanonical mantissa unit) (hunit : unit ≠ 0) :
    18014398509481983 * pow2 unit ≤ (interval mantissa unit).low := by
  have hle := h.le hunit
  apply Nat.mul_le_mul_right
  split
  · omega
  · rename_i hpower
    have hne : mantissa ≠ 2 ^ 52 := fun heq => hpower ⟨heq, hunit⟩
    omega

/-- A quotient below the middle between the largest number, `(2 ^ 54 - 2) * 2 ^ 970`,
    and the next power of two is rounded to a finite number. -/
theorem isFinite_ofGrains {negative : Bool} {num den : Nat} (hden : 0 < den)
    (h : (num : ℚ) / (den * grain) < 18014398509481983 * pow2 970) :
    (ofGrains negative num den).isFinite = true := by
  obtain ⟨mantissa, unit, hcanonical, hcontains, heq⟩ := ofGrains_contains negative num hden
  rw [heq]
  split
  · rename_i hunit
    have hgrain : (0 : ℚ) < 4 * grain := mul_pos (by norm_num) cast_grain_pos
    have hlow : (18014398509481983 * pow2 unit : ℚ) ≤ (interval mantissa unit).low := by
      exact_mod_cast le_low_interval hcanonical (by omega)
    have hpow : (pow2 970 * (4 * grain) : ℚ) ≤ pow2 unit := by
      have hsplit : pow2 2046 = pow2 970 * (4 * grain) := by
        have hfour : pow2 2 = 4 := rfl
        rw [grain, ← hfour, ← pow2_add, ← pow2_add]
      have hle := pow2_le_pow2 (show 2046 ≤ unit by omega)
      rw [hsplit] at hle
      exact_mod_cast hle
    -- A number that is too large starts its interval at that middle or above.
    have hoverflow : (interval mantissa unit).low < ((interval mantissa unit).low : ℚ) :=
      calc ((interval mantissa unit).low : ℚ) ≤ num / (den * grain) * (4 * grain) := hcontains.low_le
        _ < 18014398509481983 * pow2 970 * (4 * grain) := mul_lt_mul_of_pos_right h hgrain
        _ = 18014398509481983 * (pow2 970 * (4 * grain)) := by ring
        _ ≤ 18014398509481983 * pow2 unit := mul_le_mul_of_nonneg_left hpow (by norm_num)
        _ ≤ (interval mantissa unit).low := hlow
    exact absurd hoverflow (lt_irrefl _)
  · rfl

/-- Such a quotient lies in the interval of the finite number that it is rounded to. -/
theorem exists_finite_ofGrains (negative : Bool) {num den : Nat} (hden : 0 < den)
    (h : (num : ℚ) / (den * grain) < 18014398509481983 * pow2 970) :
    ∃ mantissa unit, IsCanonical mantissa unit ∧ unit ≤ 2045 ∧
      (interval mantissa unit).Contains (num / (den * grain)) ∧
      ofGrains negative num den = finite negative mantissa unit := by
  obtain ⟨m, u, hcanonical, hcontains, heq⟩ := ofGrains_contains negative num hden
  have hfinite : (ofGrains negative num den).isFinite = true := isFinite_ofGrains hden h
  have hunit : ¬ 2045 < u := by
    intro hlarge
    rw [heq, if_pos hlarge] at hfinite
    cases hfinite
  exact ⟨m, u, hcanonical, Nat.le_of_not_lt hunit, hcontains, heq.trans (if_neg hunit)⟩

/-! ## Products of natural numbers -/

theorem isFinite_ofNat {n : Nat} (hn : n < 18014398509481983 * pow2 970) :
    (ofNat n).isFinite = true := by
  apply isFinite_ofGrains Nat.one_pos
  have hgrain := cast_grain_pos
  have hcast : ((n * grain : Nat) : ℚ) / ((1 : Nat) * grain) = n := by
    push_cast
    field_simp
  rw [hcast]
  exact_mod_cast hn

/-- A natural number is rounded up by less than one part in `2 ^ 53 - 1`. -/
theorem grains_ofNat_le {n mantissa unit : Nat} {negative : Bool} (hn : 0 < n)
    (h : ofNat n = finite negative mantissa unit) :
    grains mantissa unit * 9007199254740991 ≤ n * grain * 9007199254740992 := by
  obtain ⟨m, u, hcanonical, hcontains, heq⟩ := ofGrains_contains false (n * grain) Nat.one_pos
  have hsame : finite negative mantissa unit = if 2045 < u then infinite false else finite false m u :=
    h.symm.trans heq
  split at hsame
  · cases hsame
  · cases hsame
    have hgrain := cast_grain_pos
    have hcast : ((n * grain : Nat) : ℚ) / ((1 : Nat) * grain) * (4 * grain) =
        ((4 * (n * grain) : Nat) : ℚ) := by
      push_cast
      field_simp
    have hlow : (interval mantissa unit).low ≤ 4 * (n * grain) := by
      exact_mod_cast hcast ▸ hcontains.low_le
    have hhigh : 4 * (n * grain) ≤ (interval mantissa unit).high := by
      exact_mod_cast hcast ▸ hcontains.le_high
    have hlarge : grain ≤ n * grain := Nat.le_mul_of_pos_left grain hn
    -- Only numbers far below one have a short mantissa.
    have hmantissa : 4503599627370496 ≤ mantissa := by
      by_contra hsmall
      have hunit : unit = 0 := by
        by_contra hne
        exact hsmall (hcanonical.le hne)
      have hbound : 9007199254740992 ≤ grain := pow2_le_pow2 (show 53 ≤ 1074 by decide)
      have hone : (interval mantissa 0).high = (4 * mantissa + 2) * 1 := rfl
      rw [hunit, hone] at hhigh
      omega
    have hwide : (4 * mantissa - 2) * pow2 unit ≤ (interval mantissa unit).low := by
      apply Nat.mul_le_mul_right
      split <;> omega
    have hnormal : 4503599627370496 * pow2 unit ≤ mantissa * pow2 unit :=
      Nat.mul_le_mul_right _ hmantissa
    rw [Nat.sub_mul, Nat.mul_assoc] at hwide
    rw [grains]
    omega

/-- Two numbers that are rounded up a little have a product that is a little larger. -/
theorem product_lt {x y a b limit : Nat} (hx : x * 9007199254740991 ≤ a * 9007199254740992)
    (hy : y * 9007199254740991 ≤ b * 9007199254740992)
    (h : a * b ≤ 18014398509481979 * limit) (hlimit : 0 < limit) :
    x * y < 18014398509481983 * limit := by
  have hxy := Nat.mul_le_mul hx hy
  -- The factors are the squares of `2 ^ 53 - 1` and `2 ^ 53`.
  have hsquare : x * y * 81129638414606663681390495662081 ≤
      a * b * 81129638414606681695789005144064 := by
    calc x * y * 81129638414606663681390495662081
        = x * 9007199254740991 * (y * 9007199254740991) := by ring
      _ ≤ a * 9007199254740992 * (b * 9007199254740992) := hxy
      _ = a * b * 81129638414606681695789005144064 := by ring
  omega

theorem finite_mul_finite (negative negative' : Bool) (m u n v : Nat) :
    (finite negative m u).mul (finite negative' n v) =
      ofGrains (negative != negative') (grains m u * grains n v) grain := by
  rw [mul]

/-- The product of two natural numbers is finite if it is not above the third of the
    largest intervals. -/
theorem isFinite_mul_ofNat {a b : Nat} (ha : 0 < a) (hb : 0 < b)
    (h : a * b ≤ 18014398509481979 * pow2 970) : ((ofNat a).mul (ofNat b)).isFinite = true := by
  have hpow := pow2_pos 970
  have hale : a ≤ a * b := Nat.le_mul_of_pos_right a hb
  have hble : b ≤ a * b := Nat.le_mul_of_pos_left b ha
  have hafinite : (ofNat a).isFinite = true := isFinite_ofNat (by omega)
  have hbfinite : (ofNat b).isFinite = true := isFinite_ofNat (by omega)
  cases hx : ofNat a with
  | nan => rw [hx] at hafinite; cases hafinite
  | infinite _ => rw [hx] at hafinite; cases hafinite
  | finite negative m u =>
    cases hy : ofNat b with
    | nan => rw [hy] at hbfinite; cases hbfinite
    | infinite _ => rw [hy] at hbfinite; cases hbfinite
    | finite negative' n v =>
      -- Each factor is rounded up by a part that the bound on the product leaves room for.
      have hxle := grains_ofNat_le ha hx
      have hyle := grains_ofNat_le hb hy
      have hgrain := cast_grain_pos
      have hproduct : grains m u * grains n v < 18014398509481983 * (pow2 970 * (grain * grain)) := by
        apply product_lt hxle hyle _ (Nat.mul_pos hpow (Nat.mul_pos grain_pos grain_pos))
        calc a * grain * (b * grain) = a * b * (grain * grain) := by ring
          _ ≤ 18014398509481979 * pow2 970 * (grain * grain) := Nat.mul_le_mul_right _ h
          _ = 18014398509481979 * (pow2 970 * (grain * grain)) := by ring
      rw [finite_mul_finite]
      apply isFinite_ofGrains grain_pos
      rw [div_lt_iff₀ (mul_pos hgrain hgrain), mul_assoc]
      exact_mod_cast hproduct

end Binary64
end Tagdown
