/-
  Tagdown.Proofs.Text.Padded

  Numerals of fixed width: filled up with zeros, a numeral is as long as asked for
  (`length_ofNatPadded`), reads back as its number (`digitsValue_ofNatPadded`), and
  the numerals of one width are ordered as their numbers (`ofNatPadded_lt`).
-/

import Tagdown.Proofs.Text.Numeral

namespace Tagdown
namespace Text

/-! ## Rows of digits -/

/-- The code of a digit is its value behind that of zero. -/
theorem toNat_of_isDigit {c : Char} (hc : c.isDigit = true) :
    c.toNat = 48 + digitValue c ∧ digitValue c < 10 := by
  rw [Char.isDigit_iff_toNat] at hc
  have hzero : '0'.toNat = 48 := rfl
  have hnine : '9'.toNat = 57 := rfl
  unfold digitValue
  omega

theorem lt_of_digitValue_lt {c d : Char} (hc : c.isDigit = true) (hd : d.isDigit = true)
    (h : digitValue c < digitValue d) : c < d := by
  have hc := (toNat_of_isDigit hc).1
  have hd := (toNat_of_isDigit hd).1
  rw [Char.lt_def, UInt32.lt_iff_toNat_lt]
  show c.toNat < d.toNat
  omega

theorem eq_of_digitValue_eq {c d : Char} (hc : c.isDigit = true) (hd : d.isDigit = true)
    (h : digitValue c = digitValue d) : c = d := by
  rw [← Char.toNat_inj, (toNat_of_isDigit hc).1, (toNat_of_isDigit hd).1, h]

theorem digitsValue_lt_pow10 {t : Text} (ht : ∀ c ∈ t, c.isDigit = true) :
    digitsValue 0 t < pow10 t.length := by
  induction t with
  | nil => exact Nat.one_pos
  | cons c t ih =>
    rw [List.forall_mem_cons] at ht
    have hrest := ih ht.2
    have hfirst : (digitValue c + 1) * pow10 t.length ≤ 10 * pow10 t.length :=
      Nat.mul_le_mul_right _ (toNat_of_isDigit ht.1).2
    show digitsValue (10 * 0 + digitValue c) t < pow10 (t.length + 1)
    rw [digitsValue_eq, pow10_succ, Nat.mul_zero, Nat.zero_add]
    rw [Nat.succ_mul] at hfirst
    omega

/-- Of two numbers in front of remainders the lesser comes first, or they are the same and
    the remainders decide. -/
theorem lt_or_eq_of_mul_add_lt {x y u v size : Nat} (hv : v < size)
    (h : x * size + u < y * size + v) : x < y ∨ x = y ∧ u < v := by
  rcases Nat.lt_trichotomy x y with hlt | rfl | hgt
  · exact .inl hlt
  · exact .inr ⟨rfl, Nat.lt_of_add_lt_add_left h⟩
  · have hmore : (y + 1) * size ≤ x * size := Nat.mul_le_mul_right size hgt
    rw [Nat.succ_mul] at hmore
    omega

/-- Rows of digits of one length are ordered as their values. -/
theorem lt_of_digitsValue_lt {t u : Text} (ht : ∀ c ∈ t, c.isDigit = true)
    (hu : ∀ c ∈ u, c.isDigit = true) (hlength : t.length = u.length)
    (h : digitsValue 0 t < digitsValue 0 u) : t < u := by
  induction t generalizing u with
  | nil =>
    rw [List.length_eq_zero_iff.mp hlength.symm] at h
    exact absurd h (Nat.lt_irrefl _)
  | cons c t ih =>
    obtain _ | ⟨d, u⟩ := u
    · cases hlength
    · rw [List.forall_mem_cons] at ht hu
      have hsame : t.length = u.length := Nat.succ.inj hlength
      change digitsValue (10 * 0 + digitValue c) t < digitsValue (10 * 0 + digitValue d) u at h
      rw [digitsValue_eq, digitsValue_eq _ u, hsame, Nat.mul_zero, Nat.zero_add, Nat.zero_add] at h
      rw [List.cons_lt_cons_iff]
      -- The first digits decide, unless they are the same.
      rcases lt_or_eq_of_mul_add_lt (digitsValue_lt_pow10 hu.2) h with hlt | ⟨heq, hrest⟩
      · exact .inl (lt_of_digitValue_lt ht.1 hu.1 hlt)
      · exact .inr ⟨eq_of_digitValue_eq ht.1 hu.1 heq, ih ht.2 hu.2 hsame hrest⟩

/-! ## Numerals filled up with zeros -/

theorem isDigit_of_mem_ofNatPadded {width n : Nat} {c : Char} (hc : c ∈ ofNatPadded width n) :
    c.isDigit = true := by
  rcases List.mem_append.mp hc with hzero | hdigit
  · rw [List.eq_of_mem_replicate hzero]
    rfl
  · exact isDigit_of_mem_ofNat hdigit

theorem length_ofNatPadded {width n : Nat} (hwidth : 0 < width) (hn : n < pow10 width) :
    (ofNatPadded width n).length = width := by
  have hle := (length_ofNat_le_iff hwidth).mpr hn
  unfold ofNatPadded
  rw [List.length_append, List.length_replicate, Nat.sub_add_cancel hle]

@[simp] theorem digitsValue_ofNatPadded (width n : Nat) :
    digitsValue 0 (ofNatPadded width n) = n := by
  unfold ofNatPadded
  rw [digitsValue_append, digitsValue_replicate_zero, Nat.zero_mul, digitsValue_ofNat]

/-- Numerals of one width are ordered as their numbers. -/
theorem ofNatPadded_lt {width m n : Nat} (hwidth : 0 < width) (hn : n < pow10 width)
    (h : m < n) : ofNatPadded width m < ofNatPadded width n := by
  apply lt_of_digitsValue_lt
  · exact fun c hc => isDigit_of_mem_ofNatPadded hc
  · exact fun c hc => isDigit_of_mem_ofNatPadded hc
  · rw [length_ofNatPadded hwidth hn, length_ofNatPadded hwidth (h.trans hn)]
  · rwa [digitsValue_ofNatPadded, digitsValue_ofNatPadded]

/-- Texts of one length decide the order of what starts with them. -/
theorem append_lt_append {t u : Text} (hlength : t.length = u.length) (h : t < u)
    (v w : Text) : t ++ v < u ++ w := by
  induction t generalizing u with
  | nil =>
    rw [List.length_eq_zero_iff.mp hlength.symm] at h
    exact absurd h (List.lt_irrefl _)
  | cons c t ih =>
    obtain _ | ⟨d, u⟩ := u
    · cases hlength
    · rw [List.cons_append, List.cons_append, List.cons_lt_cons_iff]
      rcases List.cons_lt_cons_iff.mp h with hlt | ⟨heq, hrest⟩
      · exact .inl hlt
      · exact .inr ⟨heq, ih (Nat.succ.inj hlength) hrest⟩

end Text
end Tagdown
