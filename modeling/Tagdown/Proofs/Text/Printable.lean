/-
  Tagdown.Proofs.Text.Printable

  Texts of printable ASCII characters (`Text.IsPrintable`), as fixed words and numbers are.
  None of them breaks a line or controls a terminal.
-/

import Tagdown.Numeric.Layout
import Tagdown.Proofs.Text.Numeral

namespace Tagdown
namespace Text

/-- The character is a space or is seen when it is printed. -/
def isPrintableChar (c : Char) : Bool :=
  0x20 ≤ c.toNat && c.toNat ≤ 0x7e

/-- All characters are printable. -/
def IsPrintable (t : Text) : Prop :=
  t.all isPrintableChar = true

instance (t : Text) : Decidable (IsPrintable t) :=
  inferInstanceAs (Decidable (_ = _))

variable {t u : Text} {c : Char}

theorem isPrintable_iff : IsPrintable t ↔ ∀ c ∈ t, isPrintableChar c = true :=
  List.all_eq_true

theorem IsPrintable.not_mem (h : IsPrintable t) (hc : isPrintableChar c = false) : c ∉ t := by
  intro hmem
  rw [isPrintable_iff.mp h c hmem] at hc
  cases hc

theorem IsPrintable.append (ht : IsPrintable t) (hu : IsPrintable u) : IsPrintable (t ++ u) := by
  rw [isPrintable_iff, List.forall_mem_append]
  exact ⟨isPrintable_iff.mp ht, isPrintable_iff.mp hu⟩

theorem IsPrintable.cons (ht : IsPrintable t) (hc : isPrintableChar c = true) :
    IsPrintable (c :: t) := by
  rw [isPrintable_iff, List.forall_mem_cons]
  exact ⟨hc, isPrintable_iff.mp ht⟩

theorem isPrintable_replicate (n : Nat) (hc : isPrintableChar c = true) :
    IsPrintable (List.replicate n c) := by
  rw [isPrintable_iff]
  intro d hd
  rw [List.eq_of_mem_replicate hd]
  exact hc

/-! ## Numerals -/

theorem isPrintableChar_of_isDigit (h : c.isDigit = true) : isPrintableChar c = true := by
  have hdigit : 48 ≤ c.toNat ∧ c.toNat ≤ 57 := by
    rw [Char.isDigit, Bool.and_eq_true, decide_eq_true_eq, decide_eq_true_eq] at h
    exact h
  rw [isPrintableChar, Bool.and_eq_true, decide_eq_true_eq, decide_eq_true_eq]
  omega

theorem isPrintable_ofNat (n : Nat) : IsPrintable (ofNat n) :=
  isPrintable_iff.mpr fun _ hc => isPrintableChar_of_isDigit (isDigit_of_mem_ofNat hc)

theorem isPrintable_ofNatPadded (width n : Nat) : IsPrintable (ofNatPadded width n) :=
  (isPrintable_replicate _ (by decide)).append (isPrintable_ofNat n)

end Text

namespace Binary64

open Text (IsPrintable)

/-- A number with a fixed number of decimals is printable, and so is what is no number. -/
theorem isPrintable_toFixed (places : Nat) (x : Binary64) : IsPrintable (x.toFixed places) := by
  cases x with
  | nan => exact (by decide : IsPrintable "NaN".toList)
  | infinite negative =>
    cases negative with
    | false => exact (by decide : IsPrintable "inf".toList)
    | true => exact (by decide : IsPrintable "-inf".toList)
  | finite negative mantissa unit =>
    have hsign : IsPrintable (if negative then ['-'] else []) := by cases negative <;> decide
    exact (hsign.append (Text.isPrintable_ofNat _)).append
      ((Text.isPrintable_ofNatPadded places _).cons (by decide))

end Binary64
end Tagdown
