/-
  Tagdown.Proofs.Json.Number

  Numbers as they are written and read. `NumberToken.written` is the text of a
  token, and a well-formed token is read back from it (`readNumber_written`). Each
  form of a binary64 number spells a token (`exists_spells_positional`,
  `exists_spells_exponential`) whose digits fit into 64 bits, so that its value is one
  product or quotient of its significand and its power of ten.
-/

import Tagdown.Json.Record
import Tagdown.Json.Writer
import Tagdown.Proofs.Numeric.Extent
import Tagdown.Proofs.Numeric.Tenths
import Tagdown.Proofs.Text.Runs

namespace Tagdown
namespace Json

/-! ## The end of a value -/

/-- The text goes on behind a value in an object: with a comma or on the next line. -/
inductive EndsValue : Text → Prop
  | comma (rest : Text) : EndsValue (',' :: rest)
  | feed (rest : Text) : EndsValue ('\n' :: rest)

/-- What comes next is no digit. -/
def EndsDigits (rest : Text) : Prop :=
  ∀ c ∈ rest.head?, c.isDigit = false

theorem EndsValue.endsDigits {rest : Text} (h : EndsValue rest) : EndsDigits rest := by
  cases h <;> exact fun c hc => Option.some.inj hc ▸ rfl

theorem EndsValue.head?_ne_point {rest : Text} (h : EndsValue rest) : rest.head? ≠ some '.' := by
  cases h <;> exact fun hc => absurd (Option.some.inj hc) (by decide)

theorem endsDigits_cons {c : Char} (hc : c.isDigit = false) (rest : Text) :
    EndsDigits (c :: rest) :=
  fun _ hc' => Option.some.inj hc' ▸ hc

/-- Behind a blank and up to its end, the reader takes the written value for the given
    result. -/
def ReadsAs {α : Type} (reader : Text → Except Fault (α × Text)) (written : Text)
    (result : Except Fault α) : Prop :=
  ∀ rest, EndsValue rest → reader (' ' :: (written ++ rest)) = result.map fun a => (a, rest)

/-! ## Tokens -/

/-- A row of digits. -/
structure IsDigits (t : Text) : Prop where
  ne_nil : t ≠ []
  all : ∀ c ∈ t, c.isDigit = true

theorem isDigits_ofNat (n : Nat) : IsDigits (Text.ofNat n) :=
  ⟨Text.ofNat_ne_nil n, fun _ hc => Text.isDigit_of_mem_ofNat hc⟩

theorem IsDigits.append_replicate {t : Text} (h : IsDigits t) (count : Nat) :
    IsDigits (t ++ List.replicate count '0') := by
  refine ⟨List.append_ne_nil_of_left_ne_nil h.ne_nil _, fun c hc => ?_⟩
  rcases List.mem_append.mp hc with hc | hc
  · exact h.all c hc
  · rw [List.eq_of_mem_replicate hc]
    rfl

theorem IsDigits.replicate_append {t : Text} (h : IsDigits t) (count : Nat) :
    IsDigits (List.replicate count '0' ++ t) := by
  refine ⟨List.append_ne_nil_of_right_ne_nil _ h.ne_nil, fun c hc => ?_⟩
  rcases List.mem_append.mp hc with hc | hc
  · rw [List.eq_of_mem_replicate hc]
    rfl
  · exact h.all c hc

/-- A row of digits is read up to its end. -/
theorem readDigits_append {digits rest : Text} (h : IsDigits digits) (hrest : EndsDigits rest)
    (atEnd : Fault) : readDigits atEnd (digits ++ rest) = .ok (digits, rest) := by
  have htake := takeWhile_append_of_head h.all hrest
  have hdrop : (digits ++ rest).dropWhile Char.isDigit = rest := by
    rw [List.dropWhile_append_of_pos h.all, Text.dropWhile_eq_self_of_head hrest]
  obtain ⟨c, digits, rfl⟩ := List.exists_cons_of_ne_nil h.ne_nil
  unfold readDigits
  rw [htake, hdrop]

/-- The exponent as it is written, with a sign. -/
def Exponent.written (e : Exponent) : Text :=
  'e' :: (if e.negative then '-' else '+') :: e.digits

namespace NumberToken

/-- The number as it is written. -/
def written (n : NumberToken) : Text :=
  (if n.negative then ['-'] else []) ++ n.whole ++ (n.fraction.elim [] ('.' :: ·)) ++
    n.exponent.elim [] Exponent.written

/-- The number follows the grammar: no leading zeros, and digits in every part. -/
structure IsWellFormed (n : NumberToken) : Prop where
  whole : IsDigits n.whole
  head : n.whole.head? = some '0' → n.whole = ['0']
  fraction : ∀ digits ∈ n.fraction, IsDigits digits
  exponent : ∀ e ∈ n.exponent, IsDigits e.digits

end NumberToken

theorem readWhole_append {whole rest : Text} (h : IsDigits whole)
    (hhead : whole.head? = some '0' → whole = ['0']) (hrest : EndsDigits rest) (atEnd : Fault) :
    readWhole atEnd (whole ++ rest) = .ok (whole, rest) := by
  by_cases hzero : whole.head? = some '0'
  · rw [hhead hzero]
    have hnone : rest.takeWhile Char.isDigit = [] :=
      @takeWhile_append_of_head _ _ [] rest (List.forall_mem_nil _) hrest
    show (if (rest.takeWhile Char.isDigit).isEmpty then _ else _) = _
    rw [hnone]
    rfl
  · rw [← readDigits_append h hrest atEnd]
    obtain ⟨c, digits, rfl⟩ := List.exists_cons_of_ne_nil h.ne_nil
    rw [List.cons_append, readWhole]
    rintro rest' hcons
    exact hzero (by rw [(List.cons.inj hcons).1]; rfl)

theorem readFraction_append {fraction : Option Text} {rest : Text}
    (h : ∀ digits ∈ fraction, IsDigits digits) (hrest : EndsDigits rest)
    (hpoint : rest.head? ≠ some '.') (atEnd : Fault) :
    readFraction atEnd (fraction.elim [] ('.' :: ·) ++ rest) = .ok (fraction, rest) := by
  cases fraction with
  | none =>
    rw [Option.elim_none, List.nil_append, readFraction]
    rintro rest' rfl
    exact hpoint rfl
  | some digits =>
    rw [Option.elim_some, List.cons_append, readFraction,
      readDigits_append (h digits rfl) hrest atEnd]
    rfl

theorem readExponent_append {exponent : Option Exponent} {rest : Text}
    (h : ∀ e ∈ exponent, IsDigits e.digits) (hrest : EndsValue rest) (atEnd : Fault) :
    readExponent atEnd (exponent.elim [] Exponent.written ++ rest) = .ok (exponent, rest) := by
  cases exponent with
  | none =>
    cases hrest <;> rfl
  | some e =>
    obtain ⟨negative, digits⟩ := e
    have hread := readDigits_append (h _ rfl) hrest.endsDigits atEnd
    have hsign : exponentSign ((if negative then '-' else '+') :: digits ++ rest) =
        (negative, digits ++ rest) := by
      cases negative <;> rfl
    rw [Option.elim_some, Exponent.written, List.cons_append, readExponent, if_pos (.inl rfl), hsign]
    dsimp only
    rw [hread]
    rfl

/-- A well-formed number is read back from its text. -/
theorem readNumber_written {n : NumberToken} (h : n.IsWellFormed) {rest : Text}
    (hrest : EndsValue rest) (atEnd : Fault) :
    readNumber atEnd (n.written ++ rest) = .ok (n, rest) := by
  obtain ⟨negative, whole, fraction, exponent⟩ := n
  -- From the back: each part is read in front of what is known to end it.
  have hexponent := readExponent_append h.exponent hrest atEnd
  have hexponentEnds : EndsDigits (exponent.elim [] Exponent.written ++ rest) ∧
      (exponent.elim [] Exponent.written ++ rest).head? ≠ some '.' := by
    cases exponent with
    | none => exact ⟨hrest.endsDigits, hrest.head?_ne_point⟩
    | some e => exact ⟨endsDigits_cons rfl _, fun h => absurd (Option.some.inj h) (by decide)⟩
  have hfraction := readFraction_append h.fraction hexponentEnds.1 hexponentEnds.2 atEnd
  have hfractionEnds : EndsDigits (fraction.elim [] ('.' :: ·) ++
      (exponent.elim [] Exponent.written ++ rest)) := by
    cases fraction with
    | none => exact hexponentEnds.1
    | some digits => exact endsDigits_cons rfl _
  have hwhole := readWhole_append h.whole h.head hfractionEnds atEnd
  have hunsigned : readUnsigned atEnd negative (whole ++ (fraction.elim [] ('.' :: ·) ++
      (exponent.elim [] Exponent.written ++ rest))) =
        .ok (⟨negative, whole, fraction, exponent⟩, rest) := by
    simp only [readUnsigned, hwhole, hfraction, hexponent, bind, Except.bind, pure, Except.pure]
  rw [NumberToken.written, List.append_assoc, List.append_assoc, List.append_assoc]
  cases negative with
  | true => exact hunsigned
  | false =>
    rw [← hunsigned]
    obtain ⟨c, digits, rfl⟩ := List.exists_cons_of_ne_nil h.whole.ne_nil
    -- A digit is no minus sign.
    have hc : c ≠ '-' := by
      rintro rfl
      exact absurd (h.whole.all '-' List.mem_cons_self) (by decide)
    show readNumber atEnd (c :: (digits ++ _)) = _
    rw [readNumber]
    · rfl
    · rintro rest' hcons
      exact hc (List.cons.inj hcons).1

/-! ## Values -/

namespace NumberToken

/-- Digits that fit are all taken. -/
theorem absorb_eq {start : Nat} {digits : Text}
    (h : Text.digitsValue start digits < wordLimit) :
    absorb start digits = (Text.digitsValue start digits, []) := by
  induction digits generalizing start with
  | nil => rfl
  | cons c digits ih =>
    have hstep : Text.digitsValue start (c :: digits) =
        Text.digitsValue (10 * start + Text.digitValue c) digits := rfl
    rw [hstep] at h ⊢
    -- The digits that follow only make the number larger.
    have hnext : 10 * start + Text.digitValue c < wordLimit := by
      rw [Text.digitsValue_eq] at h
      have := Nat.le_mul_of_pos_right (10 * start + Text.digitValue c) (pow10_pos digits.length)
      omega
    rw [absorb]
    simp only [if_pos hnext]
    exact ih h

/-- The written exponent as a number. -/
def exponentValue (n : NumberToken) : Int :=
  n.exponent.elim 0 fun e =>
    if e.negative then -(Text.digitsValue 0 e.digits : Int) else Text.digitsValue 0 e.digits

/-- All the digits of a number. -/
def significand (n : NumberToken) : Nat :=
  Text.digitsValue 0 (n.whole ++ n.fraction.getD [])

/-- A number whose digits fit is its digits, scaled by its exponent. -/
theorem magnitude?_eq {n : NumberToken} (hdigits : n.significand < wordLimit)
    (hexponent : ∀ e ∈ n.exponent, Text.digitsValue 0 e.digits < pow2 31) :
    n.magnitude? =
      scale? (.ofNat n.significand) (n.exponentValue - (n.fraction.getD []).length) := by
  obtain ⟨negative, whole, fraction, exponent⟩ := n
  rw [significand, Text.digitsValue_append] at hdigits ⊢
  -- The digits in front of the point are fewer, so they fit as well.
  have hwhole : Text.digitsValue 0 whole < wordLimit := by
    rw [Text.digitsValue_eq (Text.digitsValue 0 whole)] at hdigits
    have := Nat.le_mul_of_pos_right (Text.digitsValue 0 whole)
      (pow10_pos (fraction.getD []).length)
    dsimp only at hdigits
    omega
  have hfraction := absorb_eq hdigits
  dsimp only at hfraction ⊢
  rw [magnitude?]
  simp only [absorb_eq hwhole, hfraction, List.length_nil, Nat.sub_zero]
  cases exponent with
  | none => rfl
  | some e =>
    simp only [if_neg (Nat.not_le.mpr (hexponent e rfl))]
    obtain ⟨negativeExponent, digits⟩ := e
    -- The reader counts the fraction down from zero and adds the written exponent last.
    have hoffset : ∀ x : Int, ((0 : Nat) : Int) - (fraction.getD []).length + x =
        x - (fraction.getD []).length := by
      intro x
      omega
    cases negativeExponent with
    | true => exact congrArg _ (hoffset (-Text.digitsValue 0 digits))
    | false => exact congrArg _ (hoffset (Text.digitsValue 0 digits))

/-- A number with a fraction and no exponent. -/
theorem magnitude?_of_fraction (negative : Bool) {whole fraction : Text} {value : Nat}
    (hvalue : Text.digitsValue 0 (whole ++ fraction) = value) (hlt : value < wordLimit) :
    (NumberToken.mk negative whole (some fraction) none).magnitude? =
      scale? (.ofNat value) (-fraction.length) := by
  subst hvalue
  have h := magnitude?_eq (n := ⟨negative, whole, some fraction, none⟩) hlt (by rintro e ⟨⟩)
  rw [h, exponentValue]
  exact congrArg _ (zero_sub _)

/-- A magnitude that is divided is never too large. -/
theorem scale?_isSome_of_neg (x : Binary64) {exponent : Int} (h : exponent < 0) :
    (scale? x exponent).isSome = true := by
  fun_induction scale? x exponent with
  | case1 => rfl
  | case2 => omega
  | case3 => rfl
  | case4 => rfl
  | case5 => omega
  | case6 _ _ _ _ _ ih => exact ih (by omega)

theorem scale?_isSome_of_isFinite {x : Binary64} {exponent : Nat} (he : exponent ≤ 308)
    (h : (x.mul (.ofNat (pow10 exponent))).isFinite = true) :
    (scale? x exponent).isSome = true := by
  rw [scale?, Int.natAbs_natCast, if_pos he]
  simp only [if_pos (Int.natCast_nonneg exponent), if_pos h]
  rfl

theorem scale?_neg_one (x : Binary64) : scale? x (-1) = some (x.div (.ofNat 10)) := by
  rw [scale?]
  rfl

theorem toBinary64?_of_not_negative {n : NumberToken} {x : Binary64} (hn : n.negative = false)
    (h : n.magnitude? = some x) : n.toBinary64? = some x := by
  rw [toBinary64?, h, hn]
  rfl

end NumberToken

/-! ## The forms of a number -/

section Forms

open NumberToken

/-- The token has the given sign, its text is the sign and the given digits and marks, and
    its magnitude is a significand, scaled by a power of ten. -/
structure Spells (n : NumberToken) (negative : Bool) (t : Text) (significand : Nat)
    (exponent : Int) : Prop where
  wellFormed : n.IsWellFormed
  negative_eq : n.negative = negative
  written_eq : n.written = (if negative then ['-'] else []) ++ t
  magnitude_eq : n.magnitude? = scale? (.ofNat significand) exponent

section Positional

variable {digits : Text} {significand : Nat} {exponent : Int} (negative : Bool)
  (hdigits : IsDigits digits) (hvalue : Text.digitsValue 0 digits = significand)
include hdigits hvalue

/-- The point stands before the digits, with zeros in between. -/
theorem spells_point_before (hlt : significand < wordLimit)
    (hpoint : (digits.length : Int) + exponent ≤ 0) :
    ∃ n, Spells n negative (numberLayout.positional ⟨digits, digits.length + exponent⟩)
      significand exponent := by
  refine ⟨⟨negative, ['0'], some (List.replicate (-(digits.length + exponent)).toNat '0' ++ digits),
    none⟩, ⟨isDigits_ofNat 0, fun _ => rfl, ?_, by rintro _ ⟨⟩⟩, rfl, ?_, ?_⟩
  · rintro _ ⟨⟩
    exact hdigits.replicate_append _
  · simp only [NumberLayout.positional, if_pos hpoint]
    rw [written, Option.elim_none, List.append_nil, List.append_assoc]
    rfl
  · have hall : Text.digitsValue 0
        (['0'] ++ (List.replicate (-(digits.length + exponent)).toNat '0' ++ digits)) =
          significand := by
      rw [Text.digitsValue_append, Text.digitsValue_append, Text.digitsValue_replicate_zero]
      show Text.digitsValue (0 * _) digits = significand
      rw [Nat.zero_mul, hvalue]
    rw [magnitude?_of_fraction negative hall hlt]
    congr 1
    rw [List.length_append, List.length_replicate]
    omega

/-- The point stands behind the digits, with zeros in between and one behind it. -/
theorem spells_point_behind {zeros : Nat} (hhead : digits.head? ≠ some '0')
    (hlt : significand * pow10 (zeros + 1) < wordLimit) :
    ∃ n, Spells n negative (numberLayout.positional ⟨digits, digits.length + zeros⟩)
      (significand * pow10 (zeros + 1)) (-1) := by
  have hlength := List.length_pos_of_ne_nil hdigits.ne_nil
  have hpoint : ¬ (digits.length : Int) + zeros ≤ 0 := by omega
  have htoNat : ((digits.length : Int) + zeros).toNat = digits.length + zeros := by omega
  refine ⟨⟨negative, digits ++ List.replicate zeros '0', some ['0'], none⟩,
    ⟨hdigits.append_replicate zeros, fun h => ?_, ?_, by rintro _ ⟨⟩⟩, rfl, ?_, ?_⟩
  · rw [List.head?_append_of_ne_nil _ hdigits.ne_nil] at h
    exact absurd h hhead
  · rintro _ ⟨⟩
    exact isDigits_ofNat 0
  · simp only [NumberLayout.positional, if_neg hpoint, htoNat,
      if_pos (Nat.le_add_right digits.length zeros), Nat.add_sub_cancel_left]
    rw [written, Option.elim_none, List.append_nil, List.append_assoc]
    rfl
  · have hall : Text.digitsValue 0 (digits ++ List.replicate zeros '0' ++ ['0']) =
        significand * pow10 (zeros + 1) := by
      rw [Text.digitsValue_append, Text.digitsValue_append, Text.digitsValue_replicate_zero,
        hvalue, pow10_succ]
      show 10 * _ + 0 = _
      ring
    rw [magnitude?_of_fraction negative hall hlt]
    rfl

/-- The point stands between the digits. -/
theorem spells_point_between (hhead : digits.head? ≠ some '0') (hlt : significand < wordLimit)
    (hpoint : 0 < (digits.length : Int) + exponent) (hexponent : exponent < 0) :
    ∃ n, Spells n negative (numberLayout.positional ⟨digits, digits.length + exponent⟩)
      significand exponent := by
  -- The point has at least one digit on either side, so neither part is empty.
  obtain ⟨count, hcount, hfew, hmany⟩ : ∃ count : Nat,
      ((digits.length : Int) + exponent).toNat = count ∧ 0 < count ∧ count < digits.length :=
    ⟨_, rfl, by omega, by omega⟩
  refine ⟨⟨negative, digits.take count, some (digits.drop count), none⟩,
    ⟨⟨?_, fun c hc => hdigits.all c (List.mem_of_mem_take hc)⟩, fun h => ?_, ?_,
      by rintro _ ⟨⟩⟩, rfl, ?_, ?_⟩
  · rw [Ne, List.take_eq_nil_iff, not_or]
    exact ⟨Nat.ne_of_gt hfew, hdigits.ne_nil⟩
  · rw [List.head?_take, if_neg (Nat.ne_of_gt hfew)] at h
    exact absurd h hhead
  · rintro _ ⟨⟩
    refine ⟨?_, fun c hc => hdigits.all c (List.mem_of_mem_drop hc)⟩
    rw [Ne, List.drop_eq_nil_iff]
    exact Nat.not_le.mpr hmany
  · simp only [NumberLayout.positional, if_neg (Int.not_le.mpr hpoint), hcount,
      if_neg (Nat.not_le.mpr hmany)]
    rw [written, Option.elim_none, List.append_nil, List.append_assoc]
    rfl
  · have hall : Text.digitsValue 0 (digits.take count ++ digits.drop count) = significand := by
      rw [List.take_append_drop, hvalue]
    rw [magnitude?_of_fraction negative hall hlt]
    congr 1
    rw [List.length_drop]
    omega

end Positional

/-- Positional form is a token whose significand is the shortest one, with the zeros up
    to the first decimal place. -/
theorem exists_spells_positional (negative : Bool) {significand : Nat} {exponent : Int}
    (hpos : 0 < significand) (hlt : significand * pow10 (exponent + 1).toNat < wordLimit) :
    ∃ n, Spells n negative (numberLayout.positional
        ⟨Text.ofNat significand, (Text.ofNat significand).length + exponent⟩)
      (significand * pow10 (exponent + 1).toNat) (min exponent (-1)) := by
  have hdigits := isDigits_ofNat significand
  have hhead := Text.head?_ofNat_ne_zero (Nat.ne_of_gt hpos)
  have hvalue := Text.digitsValue_ofNat significand
  rcases Int.lt_or_le exponent 0 with hneg | hnonneg
  · -- With decimals of its own the significand gets no zeros.
    have hone : significand * pow10 (exponent + 1).toNat = significand := by
      rw [Int.toNat_of_nonpos (by omega)]
      exact Nat.mul_one significand
    rw [hone] at hlt ⊢
    rw [min_eq_left (show exponent ≤ -1 by omega)]
    rcases Int.lt_or_le 0 ((Text.ofNat significand).length + exponent) with hpoint | hpoint
    · exact spells_point_between negative hdigits hvalue hhead hlt hpoint hneg
    · exact spells_point_before negative hdigits hvalue hlt hpoint
  · obtain ⟨zeros, rfl⟩ := Int.eq_ofNat_of_zero_le hnonneg
    rw [min_eq_right (show (-1 : Int) ≤ zeros by omega)]
    exact spells_point_behind negative hdigits hvalue hhead hlt

/-- The numeral of an integer behind its sign. -/
theorem signed_ofInt (exponent : Int) :
    (if numberLayout.plusSign && decide (0 ≤ exponent) then ['+'] else []) ++ Text.ofInt exponent =
      (if decide (exponent < 0) then '-' else '+') :: Text.ofNat exponent.natAbs := by
  rcases Int.lt_or_le exponent 0 with hneg | hnonneg
  · have hnonneg : ¬ 0 ≤ exponent := Int.not_le.mpr hneg
    rw [Text.ofInt, if_pos hneg, decide_eq_true hneg, decide_eq_false hnonneg]
    rfl
  · have hneg : ¬ exponent < 0 := Int.not_lt.mpr hnonneg
    rw [Text.ofInt, if_neg hneg, decide_eq_false hneg, decide_eq_true hnonneg]
    rfl

/-- Exponent form is a token with all the digits of the significand. -/
theorem exists_spells_exponential (negative : Bool) {significand : Nat} {exponent : Int}
    (hpos : 0 < significand) (hlt : significand < wordLimit)
    (hexponent : ((Text.ofNat significand).length + exponent - 1).natAbs < pow2 31) :
    ∃ n, Spells n negative (numberLayout.exponential
      ⟨Text.ofNat significand, (Text.ofNat significand).length + exponent⟩) significand exponent := by
  have hdigits := isDigits_ofNat significand
  have hhead := Text.head?_ofNat_ne_zero (Nat.ne_of_gt hpos)
  have hvalue := Text.digitsValue_ofNat significand
  generalize Text.ofNat significand = digits at hdigits hhead hvalue hexponent ⊢
  obtain ⟨digit, rest, rfl⟩ := List.exists_cons_of_ne_nil hdigits.ne_nil
  have hsign := signed_ofInt ((digit :: rest).length + exponent - 1)
  generalize hscale : ((digit :: rest).length : Int) + exponent - 1 = scale at hsign hexponent
  -- A lone digit has no fraction.
  have hfraction : (if rest = [] then none else some rest : Option Text).getD [] = rest := by
    split
    · rw [‹rest = []›]
      rfl
    · rfl
  refine ⟨⟨negative, [digit], if rest = [] then none else some rest,
    some ⟨decide (scale < 0), Text.ofNat scale.natAbs⟩⟩, ⟨⟨List.cons_ne_nil _ _, ?_⟩, ?_, ?_, ?_⟩,
    rfl, ?_, ?_⟩
  · rintro c hc
    rw [List.mem_singleton.mp hc]
    exact hdigits.all digit List.mem_cons_self
  · intro h
    exact absurd h hhead
  · intro fraction h
    split at h
    · cases h
    · cases h
      exact ⟨‹_›, fun c hc => hdigits.all c (List.mem_cons_of_mem _ hc)⟩
  · rintro _ ⟨⟩
    exact isDigits_ofNat _
  · have hform : numberLayout.exponential ⟨digit :: rest, (digit :: rest).length + exponent⟩ =
        digit :: (if rest = [] then [] else '.' :: rest) ++
          'e' :: (if decide (scale < 0) then '-' else '+') :: Text.ofNat scale.natAbs := by
      rw [NumberLayout.exponential, hscale, List.append_assoc, List.cons_append, hsign]
      cases rest <;> rfl
    rw [hform, written, List.append_assoc, List.append_assoc]
    cases rest <;> rfl
  · have hsize : Text.digitsValue 0 (Text.ofNat scale.natAbs) = scale.natAbs :=
      Text.digitsValue_ofNat _
    have hall : Text.digitsValue 0 ([digit] ++ rest) = significand := hvalue
    rw [magnitude?_eq]
    · rw [NumberToken.significand, exponentValue, hfraction, hall, Option.elim_some, hsize]
      congr 1
      rw [List.length_cons] at hscale
      by_cases hneg : scale < 0
      · rw [decide_eq_true hneg, if_pos rfl]
        omega
      · rw [decide_eq_false hneg, if_neg Bool.false_ne_true]
        omega
    · rw [NumberToken.significand, hfraction, hall]
      exact hlt
    · rintro _ ⟨⟩
      rw [hsize]
      exact hexponent

end Forms

/-! ## Written numbers -/

theorem le_wordLimit : pow10 17 ≤ wordLimit := by
  decide

/-- The significand of positional form fits. -/
theorem mul_pow10_lt_wordLimit {significand : Nat} (hlt : significand < pow10 17) (exponent : Int)
    (hpoint : (Text.ofNat significand).length + exponent ≤ 16) :
    significand * pow10 (exponent + 1).toNat < wordLimit := by
  have hlength := List.length_pos_of_ne_nil (Text.ofNat_ne_nil significand)
  refine lt_of_lt_of_le ?_ le_wordLimit
  rcases Int.lt_or_le exponent 0 with hneg | hnonneg
  · have hone : (exponent + 1).toNat = 0 := by omega
    rw [hone]
    exact (Nat.mul_one significand).trans_lt hlt
  · calc significand * pow10 (exponent + 1).toNat
        < pow10 (Text.ofNat significand).length * pow10 (exponent + 1).toNat :=
          Nat.mul_lt_mul_of_pos_right (Text.lt_pow10_length_ofNat significand) (pow10_pos _)
      _ = pow10 ((Text.ofNat significand).length + (exponent + 1).toNat) := (pow10_add _ _).symm
      _ ≤ pow10 17 := pow10_le_pow10 (by omega)

/-- The two forms of a number with the given shortest digits. -/
theorem ofBinary64_eq (negative : Bool) {mantissa unit : Nat} {d : Digits} (hm : 0 < mantissa)
    (hd : Binary64.shortest .even mantissa unit = d) :
    ofBinary64 (.finite negative mantissa unit) = (if negative then ['-'] else []) ++
      if -5 ≤ d.point - 1 ∧ d.point - 1 ≤ 15 then numberLayout.positional d
      else numberLayout.exponential d := by
  have hof : ofBinary64 (.finite negative mantissa unit) =
      numberLayout.write (.finite negative mantissa unit) := rfl
  have htie : Binary64.shortest numberLayout.tie mantissa unit = d := hd
  have hpositional : numberLayout.isPositional (d.point - 1) =
      decide (-5 ≤ d.point - 1 ∧ d.point - 1 ≤ 15) := (Bool.decide_and _ _).symm
  rw [hof, NumberLayout.write]
  simp only [if_neg (Nat.ne_of_gt hm), htie, hpositional, decide_eq_true_eq]

/-- A zero is written with one decimal. -/
def zeroToken (negative : Bool) : NumberToken :=
  ⟨negative, ['0'], some ['0'], none⟩

theorem isWellFormed_zeroToken (negative : Bool) : (zeroToken negative).IsWellFormed := by
  refine ⟨isDigits_ofNat 0, fun _ => rfl, ?_, by rintro _ ⟨⟩⟩
  rintro _ ⟨⟩
  exact isDigits_ofNat 0

theorem written_zeroToken (negative : Bool) (unit : Nat) :
    (zeroToken negative).written = ofBinary64 (.finite negative 0 unit) := by
  cases negative <;> rfl

theorem magnitude?_zeroToken (negative : Bool) :
    (zeroToken negative).magnitude? = some ((Binary64.ofNat 0).div (.ofNat 10)) := by
  rw [zeroToken, NumberToken.magnitude?_of_fraction negative rfl (by decide)]
  exact NumberToken.scale?_neg_one _

/-- A finite number is the text of a token that has a value. -/
theorem exists_ofBinary64_eq {x : Binary64} (hx : x.IsWellFormed) (hfinite : x.isFinite = true) :
    ∃ n : NumberToken, n.IsWellFormed ∧ n.written = ofBinary64 x ∧ n.toBinary64?.isSome = true := by
  cases x with
  | nan => cases hfinite
  | infinite => cases hfinite
  | finite negative mantissa unit =>
    obtain ⟨hcanonical, hunit⟩ := hx
    rcases Nat.eq_zero_or_pos mantissa with rfl | hm
    · refine ⟨zeroToken negative, isWellFormed_zeroToken negative, written_zeroToken negative unit, ?_⟩
      rw [NumberToken.toBinary64?, Option.isSome_map, magnitude?_zeroToken]
      rfl
    · obtain ⟨significand, exponent, hshortest, heq⟩ :=
        Binary64.exists_isShortest .even unit hm hcanonical.lt
      have hbelow := hshortest.neg_le_exponent hm
      have hfew := (Text.length_ofNat_le_iff (show 0 < 17 by decide)).mpr hshortest.lt
      rw [ofBinary64_eq negative hm heq]
      by_cases hpositional : -5 ≤ (Text.ofNat significand).length + exponent - 1 ∧
          (Text.ofNat significand).length + exponent - 1 ≤ 15
      · rw [if_pos hpositional]
        obtain ⟨n, hn⟩ := exists_spells_positional negative
          hshortest.pos (mul_pow10_lt_wordLimit hshortest.lt exponent (by omega))
        refine ⟨n, hn.wellFormed, hn.written_eq, ?_⟩
        rw [NumberToken.toBinary64?, Option.isSome_map, hn.magnitude_eq]
        exact NumberToken.scale?_isSome_of_neg _ (by omega)
      · -- Exponent form multiplies where the exponent is not negative.
        rw [if_neg hpositional]
        have hscaled : exponent ≤ 308 ∧
            (NumberToken.scale? (.ofNat significand) exponent).isSome = true := by
          rcases Int.lt_or_le exponent 0 with hneg | hnonneg
          · exact ⟨by omega, NumberToken.scale?_isSome_of_neg _ hneg⟩
          · obtain ⟨exponent, rfl⟩ := Int.eq_ofNat_of_zero_le hnonneg
            have habove := hshortest.exponent_le hcanonical.lt hunit
            have hproduct := hshortest.isFinite_mul_pow10 hcanonical.lt hunit heq
            exact ⟨by omega, NumberToken.scale?_isSome_of_isFinite habove hproduct⟩
        have hsize : ((Text.ofNat significand).length + exponent - 1).natAbs < pow2 31 := by
          show _ < 2147483648
          omega
        obtain ⟨n, hn⟩ := exists_spells_exponential negative
          hshortest.pos (hshortest.lt.trans_le le_wordLimit) hsize
        refine ⟨n, hn.wellFormed, hn.written_eq, ?_⟩
        rw [NumberToken.toBinary64?, Option.isSome_map, hn.magnitude_eq]
        exact hscaled.2

/-- A tenth is the text of a token whose value is that tenth. -/
theorem exists_ofBinary64_tenth_eq {k : Nat} (hk : k ≤ 1000) :
    ∃ n : NumberToken, n.IsWellFormed ∧ n.written = ofBinary64 (.ofRatio false k 10) ∧
      n.toBinary64? = some (.ofRatio false k 10) := by
  have hquotient := Binary64.ofNat_div_ten hk
  rcases Nat.eq_zero_or_pos k with rfl | hpos
  · have hzero : Binary64.ofRatio false 0 10 = .finite false 0 0 := by
      rw [Binary64.ofRatio, Nat.zero_mul]
      rfl
    refine ⟨zeroToken false, isWellFormed_zeroToken false, ?_, ?_⟩
    · rw [hzero]
      exact written_zeroToken false 0
    · apply NumberToken.toBinary64?_of_not_negative rfl
      rw [magnitude?_zeroToken, hquotient]
  · obtain ⟨mantissa, unit, hratio, hm, hcanonical, hcontains⟩ := Binary64.exists_tenth_eq hpos hk
    obtain ⟨significand, exponent, hshortest, heq⟩ :=
      Binary64.exists_isShortest .even unit hm hcanonical.lt
    obtain ⟨shift, rfl, hsplit⟩ := hshortest.eq_tenth hcanonical hpos hk hcontains
    -- The digits are few, and so are the zeros behind them.
    have hdigits : (Text.ofNat significand).length ≤ 4 := by
      rw [Text.length_ofNat_le_iff (by decide)]
      calc significand ≤ k := hsplit ▸ Nat.le_mul_of_pos_right _ (pow10_pos shift)
        _ < pow10 4 := hk.trans_lt (by decide)
    have hshift : shift ≤ 3 := by
      by_contra hlong
      have hle : pow10 4 ≤ pow10 shift := pow10_le_pow10 (by omega)
      have hle' : pow10 shift ≤ k := hsplit ▸ Nat.le_mul_of_pos_left _ hshortest.pos
      have hfour : pow10 4 = 10000 := rfl
      omega
    have hlength := List.length_pos_of_ne_nil (Text.ofNat_ne_nil significand)
    have hone : ((shift : Int) - 1 + 1).toNat = shift := by omega
    have hminus : min ((shift : Int) - 1) (-1) = -1 := by omega
    obtain ⟨n, hn⟩ := exists_spells_positional false
      hshortest.pos (mul_pow10_lt_wordLimit hshortest.lt (shift - 1) (by omega))
    refine ⟨n, hn.wellFormed, ?_, ?_⟩
    · have hpositional : -5 ≤ (Text.ofNat significand).length + ((shift : Int) - 1) - 1 ∧
          (Text.ofNat significand).length + ((shift : Int) - 1) - 1 ≤ 15 := by
        omega
      rw [hratio, ofBinary64_eq false hm heq, if_pos hpositional, hn.written_eq]
    · apply NumberToken.toBinary64?_of_not_negative hn.negative_eq
      rw [hn.magnitude_eq, hone, hminus, ← hsplit, NumberToken.scale?_neg_one, hquotient]

end Json
end Tagdown
