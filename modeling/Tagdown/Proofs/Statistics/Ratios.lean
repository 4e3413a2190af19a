/-
  Tagdown.Proofs.Statistics.Ratios

  What the two percentages of a text are taken of. The formatting characters are counted on
  the lines that hold more than padding, and none of them is padding, so they are those of
  the whole text (`formattingCount_eq_countP`). A character takes one UTF-16 unit or two, so
  they are a part of the length that they are divided by (`formatting_is_part_of_text`).

  Each percentage is rounded to a tenth by itself. The errors of both together are less than
  two tenths, so the two tenths add up to one hundred or miss it by one tenth
  (`ratios_are_complementary`).
-/

import Tagdown.Proofs.Numeric.Error
import Tagdown.Proofs.Statistics.Extent

namespace Tagdown

/-! ## Counted characters -/

namespace Text

/-- Characters other than the line feed are counted line by line. -/
theorem countP_joinLines {p : Char → Bool} (hfeed : p '\n' = false) (ts : List Text) :
    (joinLines ts).countP p = (ts.map (List.countP p)).sum := by
  induction ts with
  | nil => rfl
  | cons t ts ih =>
    cases ts with
    | nil => simp
    | cons u us =>
      rw [joinLines_cons_cons, List.countP_append, List.countP_cons, ih, List.map_cons,
        List.sum_cons, hfeed]
      simp

theorem units16_eq_zero_iff (t : Text) : units16 t = 0 ↔ t = [] := by
  obtain ⟨hunits, htwice⟩ := length_le_units16 t
  rw [← List.length_eq_zero_iff]
  omega

end Text

namespace Statistics

/-! ## Formatting characters -/

/-- The characters that count as formatting. -/
def formattingMarks : List Char :=
  ['#', '*', Char.ofNat 0x60, '>', '-', '[', ']', '(', ')', '_', '~']

theorem isFormatting_iff {c : Char} : isFormatting c = true ↔ c ∈ formattingMarks := by
  simp only [isFormatting, Line.isWordMark, formattingMarks, List.mem_cons, List.not_mem_nil,
    Bool.or_eq_true, decide_eq_true_eq, beq_iff_eq, or_false, or_assoc]

theorem isPadding_of_isFormatting {c : Char} (h : isFormatting c = true) :
    Text.isPadding c = false := by
  have hkept : formattingMarks.all (!Text.isPadding ·) = true := by decide
  have hc := List.all_eq_true.mp hkept c (isFormatting_iff.mp h)
  rwa [Bool.not_eq_true'] at hc

/-- A line of padding has no formatting characters. -/
theorem countP_isFormatting_eq_zero {line : Text} (h : Paragraph.isSolid line = false) :
    line.countP isFormatting = 0 := by
  rw [List.countP_eq_zero]
  intro c hc hformatting
  have hsolid : Paragraph.isSolid line = true :=
    Paragraph.isSolid_iff.mpr ⟨c, hc, isPadding_of_isFormatting hformatting⟩
  rw [h] at hsolid
  cases hsolid

/-- The formatting characters of the counted lines are those of the text. -/
theorem formattingCount_eq_countP (text : Text) :
    formattingCount text = text.countP isFormatting := by
  have hfeed : isFormatting '\n' = false := by decide
  calc formattingCount text = ((solidLines text).map (List.countP isFormatting)).sum := rfl
    _ = ((Text.lines text).map (List.countP isFormatting)).sum :=
      sum_map_solidLines (fun _ => countP_isFormatting_eq_zero) text
    _ = (Text.joinLines (Text.lines text)).countP isFormatting :=
      (Text.countP_joinLines hfeed _).symm
    _ = text.countP isFormatting := by rw [Text.joinLines_lines]

theorem ratios_ofText (text : Text) :
    ((ofText text).plainRatio, (ofText text).formattingRatio) =
      ratios (Text.units16 text) (formattingCount text) :=
  rfl

/-- **The percentages are taken of a part of the text.** The formatting characters that are
    added up over the counted lines are all that the text has, and they are at most as many
    as its UTF-16 units, of which only the empty text has none. So no percentage is taken of
    a negative number, and none by dividing by zero. Up to 53 bits the numbers are exact. -/
theorem formatting_is_part_of_text (text : Text) :
    let total := Text.units16 text
    let part := text.countP (· ∈ formattingMarks)
    let whole := Binary64.ofNat total
    let rest := whole.sub (.ofNat part)
    let percent (x : Binary64) := ((x.div whole).mul (.ofNat 100)).roundToTenth
    formattingCount text = part ∧ part ≤ total ∧ (total = 0 ↔ text = []) ∧
    rest.isNegative = false ∧
    (total < 2 ^ 53 → rest = .ofNat (total - part)) ∧
    (text ≠ [] → whole.isZero = false ∧
      ((ofText text).plainRatio, (ofText text).formattingRatio) =
        (percent rest, percent (.ofNat part))) := by
  intro total part whole rest percent
  have hpart : formattingCount text = part := by
    rw [formattingCount_eq_countP]
    exact List.countP_congr fun c _ => by rw [isFormatting_iff, decide_eq_true_eq]
  have hle : part ≤ total := List.countP_le_length.trans (Text.length_le_units16 text).1
  have hzero : total = 0 ↔ text = [] := Text.units16_eq_zero_iff text
  refine ⟨hpart, hle, hzero, ?_, ?_, ?_⟩
  · exact Binary64.isNegative_ofNat_sub_ofNat hle
  · intro htotal
    exact Binary64.ofNat_sub_ofNat hle htotal
  · -- A text with characters has a length to divide by.
    intro hne
    have hpos : total ≠ 0 := fun h => hne (hzero.mp h)
    refine ⟨Binary64.isZero_ofNat (Nat.pos_of_ne_zero hpos), ?_⟩
    rw [ratios_ofText, ratios, if_neg hpos, hpart]

/-- A hash and a face are three units, one of them formatting. -/
theorem formatting_is_part_of_hash_and_face :
    let text := "#😀".toList
    text ≠ [] ∧ Text.units16 text = 3 ∧ formattingCount text = 1 ∧
      (Binary64.ofNat 3).isZero = false ∧ (Binary64.ofNat 3).sub (.ofNat 1) = .ofNat 2 := by
  intro text
  have hne : text ≠ [] := by decide
  have htotal : Text.units16 text = 3 := by decide
  have hpart : text.countP (· ∈ formattingMarks) = 1 := by decide
  obtain ⟨hcount, -, -, -, hexact, hdivisor⟩ := formatting_is_part_of_text text
  rw [htotal, hpart] at hexact
  rw [htotal] at hdivisor
  exact ⟨hne, htotal, hcount.trans hpart, (hdivisor hne).1, hexact (by omega)⟩

/-! ## Two percentages -/

/-- **The percentages are complementary.** Each is the number nearest to a tenth from zero to
    one hundred, and that tenth is the nearest one to the exact percentage or hardly farther
    away from it. The two tenths add up to one hundred, or to one tenth more or less. -/
theorem ratios_are_complementary {total formatting : Nat} (hpos : 0 < total)
    (htotal : total < 2 ^ 53) (h : formatting ≤ total) :
    ∃ p q : Nat, p ≤ 1000 ∧ q ≤ 1000 ∧
      ratios total formatting = (.ofRatio false p 10, .ofRatio false q 10) ∧
      Binary64.IsNearest (.ofRatio false p 10) (p / 10) ∧
      Binary64.IsNearest (.ofRatio false q 10) (q / 10) ∧
      |(p : ℚ) - 1000 * ((total - formatting) / total)| ≤ 11 / 20 ∧
      |(q : ℚ) - 1000 * (formatting / total)| ≤ 11 / 20 ∧
      999 ≤ p + q ∧ p + q ≤ 1001 := by
  obtain ⟨p, hp, hplain, hperror⟩ :=
    Binary64.exists_percent hpos htotal (Nat.sub_le total formatting)
  obtain ⟨q, hq, hformatting, hqerror⟩ := Binary64.exists_percent hpos htotal h
  have hratios : ratios total formatting = (.ofRatio false p 10, .ofRatio false q 10) := by
    rw [ratios, if_neg (by omega)]
    dsimp only
    rw [Binary64.ofNat_sub_ofNat h htotal, hplain, hformatting]
  rw [Nat.cast_sub h] at hperror
  -- Without rounding the two would add up to one hundred.
  have hwhole : 1000 * (((total : ℚ) - formatting) / total) + 1000 * (formatting / total) =
      1000 := by
    have htotal' : (total : ℚ) ≠ 0 := by exact_mod_cast hpos.ne'
    field_simp
    ring
  obtain ⟨hplow, hphigh⟩ := abs_le.mp hperror
  obtain ⟨hqlow, hqhigh⟩ := abs_le.mp hqerror
  -- Each error is little more than half a tenth, so the sum is off by less than two tenths.
  have hlow : (998 : ℚ) < (p + q : Nat) := by
    push_cast
    linarith
  have hhigh : ((p + q : Nat) : ℚ) < 1002 := by
    push_cast
    linarith
  have hlow' : 998 < p + q := by exact_mod_cast hlow
  have hhigh' : p + q < 1002 := by exact_mod_cast hhigh
  exact ⟨p, q, hp, hq, hratios, Binary64.isNearest_tenth hp, Binary64.isNearest_tenth hq,
    hperror, hqerror, by omega, by omega⟩

theorem ratios_of_one_in_three_are_complementary :
    0 < 3 ∧ 3 < 2 ^ 53 ∧ 1 ≤ 3 ∧
      ∃ p q : Nat, p ≤ 1000 ∧ q ≤ 1000 ∧
        ratios 3 1 = (.ofRatio false p 10, .ofRatio false q 10) ∧
        999 ≤ p + q ∧ p + q ≤ 1001 := by
  have hpos : 0 < 3 := by omega
  have htotal : 3 < 2 ^ 53 := by omega
  have hpart : 1 ≤ 3 := by omega
  obtain ⟨p, q, hp, hq, hratios, -, -, -, -, hlow, hhigh⟩ :=
    ratios_are_complementary hpos htotal hpart
  exact ⟨hpos, htotal, hpart, p, q, hp, hq, hratios, hlow, hhigh⟩

-- Two halves of a tenth are both rounded up.
example : ratios 2000 1 = (.ofRatio false 1000 10, .ofRatio false 1 10) := by decide +kernel

end Statistics
end Tagdown
