/-
  Tagdown.Proofs.Text.Numeral

  Decimal numerals: they consist of digits, read back as their number
  (`digitsValue_ofNat`), have no leading zero (`head?_ofNat_ne_zero`) and lose only
  factors of ten with the zeros at their end (`exists_dropEndWhile_ofNat`).
-/

import Mathlib.Tactic.Ring
import Tagdown.Numeric.Power
import Tagdown.Proofs.Text.Trim

namespace Tagdown
namespace Text

/-! ## Numerals -/

theorem isDigit_of_mem_ofNat {n : Nat} {c : Char} (hc : c ∈ ofNat n) : c.isDigit = true :=
  Nat.isDigit_of_mem_toDigits (by decide) (by decide) hc

theorem ofNat_ne_nil (n : Nat) : ofNat n ≠ [] :=
  Nat.toDigits_ne_nil

theorem length_ofNat_le_iff {n k : Nat} (hk : 0 < k) : (ofNat n).length ≤ k ↔ n < pow10 k :=
  Nat.length_toDigits_le_iff (by decide) hk

theorem ofNat_of_lt {n : Nat} (hn : n < 10) : ofNat n = [Nat.digitChar n] :=
  Nat.toDigits_of_lt_base hn

/-- The last digit of a numeral is the remainder by ten. -/
theorem ofNat_of_le {n : Nat} (hn : 10 ≤ n) :
    ofNat n = ofNat (n / 10) ++ [Nat.digitChar (n % 10)] :=
  Nat.toDigits_of_base_le (by decide) hn

/-- A number has as many digits as powers of ten below it. -/
theorem pow10_le_of_length_ofNat {n : Nat} (hn : 0 < n) : pow10 ((ofNat n).length - 1) ≤ n := by
  by_cases hone : (ofNat n).length - 1 = 0
  · rw [hone]
    exact hn
  · have hlong : ¬ (ofNat n).length ≤ (ofNat n).length - 1 := by omega
    rw [length_ofNat_le_iff (Nat.pos_of_ne_zero hone)] at hlong
    exact Nat.not_lt.mp hlong

theorem lt_pow10_length_ofNat (n : Nat) : n < pow10 (ofNat n).length :=
  (length_ofNat_le_iff (List.length_pos_of_ne_nil (ofNat_ne_nil n))).mp (Nat.le_refl _)

theorem digitChar_ne_zero : ∀ d < 10, d ≠ 0 → Nat.digitChar d ≠ '0' := by
  decide

/-- Only the numeral of zero starts with a zero. -/
theorem head?_ofNat_ne_zero {n : Nat} (hn : n ≠ 0) : (ofNat n).head? ≠ some '0' := by
  induction n using Nat.strongRecOn with
  | _ n ih =>
    by_cases hlt : n < 10
    · rw [ofNat_of_lt hlt, List.head?_cons, Ne, Option.some.injEq]
      exact digitChar_ne_zero n hlt hn
    · rw [ofNat_of_le (Nat.not_lt.mp hlt), List.head?_append_of_ne_nil _ (ofNat_ne_nil _)]
      exact ih (n / 10) (by omega) (by omega)

/-! ## The value of digits -/

theorem digitsValue_append (start : Nat) (t u : Text) :
    digitsValue start (t ++ u) = digitsValue (digitsValue start t) u :=
  List.foldl_append

@[simp] theorem digitsValue_ofNat (n : Nat) : digitsValue 0 (ofNat n) = n :=
  Nat.ofDigitChars_ten_toDigits

/-- Two numbers do not have the same numeral. -/
theorem ofNat_injective : Function.Injective ofNat :=
  Function.LeftInverse.injective digitsValue_ofNat

theorem digitsValue_replicate_zero (start count : Nat) :
    digitsValue start (List.replicate count '0') = start * pow10 count := by
  induction count generalizing start with
  | zero => exact (Nat.mul_one start).symm
  | succ count ih =>
    rw [List.replicate_succ]
    show digitsValue (10 * start + 0) (List.replicate count '0') = _
    rw [ih, pow10_succ]
    ring

/-- Digits read later weigh as much as they are many. -/
theorem digitsValue_eq (start : Nat) (t : Text) :
    digitsValue start t = start * pow10 t.length + digitsValue 0 t := by
  induction t generalizing start with
  | nil => exact (Nat.mul_one start).symm
  | cons c t ih =>
    show digitsValue (10 * start + digitValue c) t =
      start * pow10 (t.length + 1) + digitsValue (10 * 0 + digitValue c) t
    rw [ih, ih (10 * 0 + digitValue c), pow10_succ]
    ring

/-! ## Zeros at the end -/

/-- Without the zeros at its end a numeral is that of the number without its
    factors of ten. -/
theorem exists_dropEndWhile_ofNat {n : Nat} (hn : 0 < n) :
    ∃ core zeros, n = core * pow10 zeros ∧ ¬ 10 ∣ core ∧
      dropEndWhile (· == '0') (ofNat n) = ofNat core ∧
      (ofNat n).length = (ofNat core).length + zeros := by
  induction n using Nat.strongRecOn with
  | _ n ih =>
    by_cases hdvd : 10 ∣ n
    · -- The numeral ends with a zero, in front of which stands that of the tenth.
      obtain ⟨tenth, rfl⟩ := hdvd
      have hpos : 0 < tenth := by omega
      obtain ⟨core, zeros, hcore, hndvd, hdrop, hlength⟩ := ih tenth (by omega) hpos
      have hdigits : ofNat (10 * tenth) = ofNat tenth ++ ['0'] := by
        rw [ofNat_of_le (by omega), Nat.mul_div_cancel_left tenth (by decide),
          Nat.mul_mod_right]
        rfl
      refine ⟨core, zeros + 1, ?_, hndvd, ?_, ?_⟩
      · rw [hcore, pow10_succ]
        ring
      · rw [hdigits, dropEndWhile_append_of_all (by simp), hdrop]
      · rw [hdigits, List.length_append, hlength, List.length_singleton, Nat.add_assoc]
    · -- The last digit is not zero, so nothing is dropped.
      refine ⟨n, 0, (Nat.mul_one n).symm, hdvd, ?_, rfl⟩
      apply dropEndWhile_eq_self_of_last
      have hlast : (ofNat n).getLast? = some (Nat.digitChar (n % 10)) := by
        by_cases hlt : n < 10
        · rw [ofNat_of_lt hlt, Nat.mod_eq_of_lt hlt]
          rfl
        · rw [ofNat_of_le (Nat.not_lt.mp hlt), List.getLast?_concat]
      rw [hlast]
      intro c hc
      cases hc
      have hne := digitChar_ne_zero (n % 10) (Nat.mod_lt n (by decide)) (by omega)
      exact beq_eq_false_iff_ne.mpr hne

end Text
end Tagdown
