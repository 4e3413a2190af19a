/-
  Tagdown.Proofs.Calendar.Timestamp

  Timestamps sort as the times they stand for.

  A timestamp is a row of fields of fixed width (`timestamp_eq`). Such a row has the
  layout of the fields (`fits_writeFields`), reads back field by field
  (`readFields_writeFields`) and is ordered as its fields are (`writeFields_lt`).
  What is left is a fact about time: later instants have later fields (`fields_lt`),
  because later days have later dates.
-/

import Mathlib.Data.List.Forall2
import Tagdown.Proofs.Calendar.Date
import Tagdown.Proofs.Text.Padded
import Tagdown.Report.Format

namespace Tagdown

/-! ## Rows of fields -/

namespace Text

/-- A field of a row: its number of digits and the mark behind it. -/
structure Field where
  width : Nat
  mark : Char

/-- Numbers, each in the digits of its field and with its mark. -/
def writeFields : List Field → List Nat → Text
  | f :: fields, n :: values => ofNatPadded f.width n ++ f.mark :: writeFields fields values
  | _, _ => []

/-- The numbers that stand in the fields of a text. -/
def readFields : List Field → Text → List Nat
  | [], _ => []
  | f :: fields, t => digitsValue 0 (t.take f.width) :: readFields fields (t.drop (f.width + 1))

/-- The layout of fields, with a zero for every digit. -/
def layout (fields : List Field) : Text :=
  fields.flatMap fun f => List.replicate f.width '0' ++ [f.mark]

/-- A character at its place in a layout: a digit for a zero, else the mark itself. -/
def Fits (mark c : Char) : Prop :=
  if mark = '0' then c.isDigit = true else c = mark

/-- A number for every field, no longer than the field is wide. -/
def FitIn (fields : List Field) (values : List Nat) : Prop :=
  List.Forall₂ (fun f n => 0 < f.width ∧ n < pow10 f.width) fields values

variable {fields : List Field} {values values' : List Nat}

theorem fits_of_isDigit {digits : Text} (h : ∀ c ∈ digits, c.isDigit = true) :
    List.Forall₂ Fits (List.replicate digits.length '0') digits := by
  induction digits with
  | nil => exact .nil
  | cons c digits ih =>
    rw [List.forall_mem_cons] at h
    exact .cons h.1 (ih h.2)

/-- Written fields have their layout. -/
theorem fits_writeFields (hmarks : ∀ f ∈ fields, f.mark ≠ '0') (h : FitIn fields values) :
    List.Forall₂ Fits (layout fields) (writeFields fields values) := by
  induction h with
  | nil => exact .nil
  | @cons f n fields values hfield _ ih =>
    rw [List.forall_mem_cons] at hmarks
    have hdigits := fits_of_isDigit fun c (hc : c ∈ ofNatPadded f.width n) =>
      isDigit_of_mem_ofNatPadded hc
    rw [length_ofNatPadded hfield.1 hfield.2] at hdigits
    have hmark : Fits f.mark f.mark := by
      rw [Fits, if_neg hmarks.1]
    unfold layout at ih ⊢
    rw [List.flatMap_cons, List.append_assoc]
    exact List.rel_append hdigits (.cons hmark (ih hmarks.2))

/-- Written fields are read back. -/
theorem readFields_writeFields (h : FitIn fields values) :
    readFields fields (writeFields fields values) = values := by
  induction h with
  | nil => rfl
  | @cons f n fields values hfield _ ih =>
    have hlength := length_ofNatPadded hfield.1 hfield.2
    unfold writeFields readFields
    rw [List.take_left' hlength, digitsValue_ofNatPadded, ← List.drop_drop,
      List.drop_left' hlength, List.drop_one, List.tail_cons, ih]

/-- Written fields are ordered as their numbers. -/
theorem writeFields_lt (h : FitIn fields values) (h' : FitIn fields values')
    (hlt : values < values') : writeFields fields values < writeFields fields values' := by
  induction h generalizing values' with
  | nil =>
    cases h'
    exact absurd hlt (List.lt_irrefl _)
  | @cons f n fields values hfield _ ih =>
    obtain _ | ⟨hfield', hrest⟩ := h'
    rename_i n' values'
    unfold writeFields
    rcases List.cons_lt_cons_iff.mp hlt with hn | ⟨rfl, hvalues⟩
    · -- Numerals of one width decide, whatever stands behind them.
      apply append_lt_append
      · rw [length_ofNatPadded hfield.1 hfield.2, length_ofNatPadded hfield'.1 hfield'.2]
      · exact ofNatPadded_lt hfield.1 hfield'.2 hn
    · exact List.append_left_lt (List.cons_lt_cons_iff.mpr (.inr ⟨rfl, ih hrest hvalues⟩))

end Text

namespace Instant

open Calendar (dateOfDay)

/-! ## The fields of a timestamp -/

/-- The fields of a timestamp: year, month, day, hour, minute, second and
    milliseconds. -/
def timestampFields : List Text.Field :=
  [⟨4, '-'⟩, ⟨2, '-'⟩, ⟨2, 'T'⟩, ⟨2, ':'⟩, ⟨2, ':'⟩, ⟨2, '.'⟩, ⟨3, 'Z'⟩]

/-- The numbers in a timestamp. -/
def fields (i : Instant) : List Nat :=
  [i.date.year.toNat, i.date.month, i.date.day, i.secondOfDay / 3600,
   i.secondOfDay / 60 % 60, i.secondOfDay % 60, i.nanos / 1000000]

/-- Not within a leap second, and in a year that four digits can write. -/
structure IsOrdinary (i : Instant) : Prop where
  nanos_lt : i.nanos < 1000000000
  year_nonneg : 0 ≤ i.date.year
  year_le : i.date.year ≤ 9999

/-- The whole milliseconds since the start of 1970. -/
def millis (i : Instant) : Int :=
  i.seconds * 1000 + (i.nanos / 1000000 : Nat)

variable {i j : Instant}

theorem secondOfDay_lt (i : Instant) : i.secondOfDay < 86400 := by
  unfold secondOfDay
  omega

theorem seconds_eq (i : Instant) :
    i.seconds = i.seconds / 86400 * 86400 + i.secondOfDay := by
  unfold secondOfDay
  omega

theorem timestamp_eq (h : i.IsOrdinary) :
    i.timestamp = Text.writeFields timestampFields i.fields := by
  have hyear : yearText i.date.year = Text.ofNatPadded 4 i.date.year.toNat := by
    have hsame : i.date.year.natAbs = i.date.year.toNat := by
      have hnonneg := h.year_nonneg
      omega
    rw [yearText, if_pos ⟨h.year_nonneg, h.year_le⟩, hsame]
  have hleap : i.nanos / 1000000000 = 0 := Nat.div_eq_of_lt h.nanos_lt
  have hnanos : i.nanos % 1000000000 = i.nanos := Nat.mod_eq_of_lt h.nanos_lt
  simp only [timestamp, hyear, hleap, hnanos, Nat.add_zero, timestampFields, fields,
    Text.writeFields, List.append_assoc, List.cons_append]

/-- The numbers of a timestamp are not longer than their fields. -/
theorem fitIn_fields (h : i.IsOrdinary) : Text.FitIn timestampFields i.fields := by
  have hsecond := i.secondOfDay_lt
  have hdate := Calendar.isValid_dateOfDay (i.seconds / 86400)
  have hmonth := hdate.month_le
  have hday := hdate.day_le.trans (Calendar.monthLength_le _ _)
  change i.date.month ≤ 12 at hmonth
  change i.date.day ≤ 31 at hday
  have hyear := h.year_le
  have hnanos := h.nanos_lt
  have htwo : pow10 2 = 100 := rfl
  have hthree : pow10 3 = 1000 := rfl
  have hfour : pow10 4 = 10000 := rfl
  unfold timestampFields fields
  refine .cons ⟨by decide, ?_⟩ (.cons ⟨by decide, ?_⟩ (.cons ⟨by decide, ?_⟩
    (.cons ⟨by decide, ?_⟩ (.cons ⟨by decide, ?_⟩ (.cons ⟨by decide, ?_⟩
      (.cons ⟨by decide, ?_⟩ .nil)))))) <;> dsimp only <;> omega

/-! ## Time goes on -/

/-- An earlier date has earlier fields. -/
theorem fields_lt_of_before (hi : i.IsOrdinary) (h : i.date.Before j.date) :
    i.fields < j.fields := by
  have hyear := hi.year_nonneg
  unfold fields
  simp only [List.cons_lt_cons_iff]
  rcases h with hlt | ⟨heq, hlt | ⟨heq', hlt⟩⟩
  · exact .inl (by omega)
  · exact .inr ⟨by rw [heq], .inl hlt⟩
  · exact .inr ⟨by rw [heq], .inr ⟨heq', .inl hlt⟩⟩

/-- Later instants have later fields. -/
theorem fields_lt (hi : i.IsOrdinary) (hj : j.IsOrdinary) (h : i.millis < j.millis) :
    i.fields < j.fields := by
  have hnanosi := hi.nanos_lt
  have hnanosj := hj.nanos_lt
  have hsecondsi := i.seconds_eq
  have hsecondsj := j.seconds_eq
  have hlti := i.secondOfDay_lt
  have hltj := j.secondOfDay_lt
  unfold millis at h
  rcases Int.lt_trichotomy (i.seconds / 86400) (j.seconds / 86400) with hday | hday | hday
  · -- On different days the dates decide; days before 1970 are negative, and no different.
    exact fields_lt_of_before hi (Calendar.dateOfDay_before hday)
  · -- On one day the time of the day decides, hour by hour, minute by minute.
    have hdate : i.date = j.date := congrArg dateOfDay hday
    unfold fields
    simp only [hdate, List.cons_lt_cons_iff, true_and]
    omega
  · omega

/-- Instants of one millisecond have the same fields. -/
theorem fields_eq (hi : i.IsOrdinary) (hj : j.IsOrdinary) (h : i.millis = j.millis) :
    i.fields = j.fields := by
  have hnanosi := hi.nanos_lt
  have hnanosj := hj.nanos_lt
  unfold millis at h
  have hseconds : i.seconds = j.seconds := by omega
  have hnanos : i.nanos / 1000000 = j.nanos / 1000000 := by omega
  unfold fields date secondOfDay
  rw [hseconds, hnanos]

theorem timestamp_lt (hi : i.IsOrdinary) (hj : j.IsOrdinary) (h : i.millis < j.millis) :
    i.timestamp < j.timestamp := by
  rw [timestamp_eq hi, timestamp_eq hj]
  exact Text.writeFields_lt (fitIn_fields hi) (fitIn_fields hj) (fields_lt hi hj h)

/-! ## What a timestamp says -/

/-- The text names the day and the time of the day of an instant, in the layout of
    a timestamp. -/
structure Shows (i : Instant) (t : Text) : Prop where
  layout : List.Forall₂ Text.Fits "0000-00-00T00:00:00.000Z".toList t
  length : t.length = 24
  numbers : ∃ (day : Int) (year month dayOfMonth hour minute second : Nat),
    i.seconds = day * 86400 + hour * 3600 + minute * 60 + second ∧
      hour < 24 ∧ minute < 60 ∧ second < 60 ∧
      dateOfDay day = ⟨year, month, dayOfMonth⟩ ∧
      Text.readFields timestampFields t =
        [year, month, dayOfMonth, hour, minute, second, i.nanos / 1000000]

theorem shows_timestamp (h : i.IsOrdinary) : i.Shows i.timestamp := by
  have hfit := fitIn_fields h
  have hread := Text.readFields_writeFields hfit
  rw [← timestamp_eq h] at hread
  have hlayout := Text.fits_writeFields (by decide) hfit
  rw [← timestamp_eq h] at hlayout
  have hyear := Int.toNat_of_nonneg h.year_nonneg
  have hseconds := i.seconds_eq
  have hlt := i.secondOfDay_lt
  refine ⟨hlayout, hlayout.length_eq.symm, i.seconds / 86400, i.date.year.toNat, i.date.month,
    i.date.day, i.secondOfDay / 3600, i.secondOfDay / 60 % 60, i.secondOfDay % 60,
    by omega, by omega, by omega, by omega, ?_, hread⟩
  rw [hyear]
  rfl

end Instant

namespace Calendar

/-- The days are numbered as the proleptic Gregorian calendar has them. -/
structure IsGregorian (dateOf : Int → Date) : Prop where
  epoch : dateOf 0 = ⟨1970, 1, 1⟩
  valid (day : Int) : (dateOf day).IsValid
  next (day : Int) : dateOf (day + 1) = (dateOf day).next

end Calendar

/-- The report for programs ends with its timestamp. -/
theorem ReportFormat.render_json (s : Statistics) :
    ∃ analysis, ∀ now : Instant, ReportFormat.json.render s now =
      .ok (analysis ++ "  \"timestamp\": \"".toList ++ now.timestamp ++ "\"\n\x7d".toList) := by
  refine ⟨"\x7b\n  \"analysis\": ".toList ++ ReportDocument.writeStatistics s ++ ",\n".toList,
    fun now => ?_⟩
  show Except.ok _ = _
  simp [ReportDocument.write, Json.ofFields, ReportDocument.fieldNames, Json.quoted,
    List.intercalate, List.intersperse]

/-- **Timestamps sort by time.** The report for programs ends with the timestamp, 24 characters
    that name the Gregorian day and the time of the day down to the millisecond. As texts, two
    timestamps stand as the instants do, cut off to milliseconds, before 1970 and after. -/
theorem timestamps_sort_by_time (s : Statistics) {i j : Instant} (hi : i.IsOrdinary)
    (hj : j.IsOrdinary) :
    Calendar.IsGregorian Calendar.dateOfDay ∧
      (∃ analysis, ∀ now : Instant, ReportFormat.json.render s now =
        .ok (analysis ++ "  \"timestamp\": \"".toList ++ now.timestamp ++ "\"\n\x7d".toList)) ∧
      i.Shows i.timestamp ∧
      (i.timestamp < j.timestamp ↔ i.millis < j.millis) ∧
      (i.timestamp = j.timestamp ↔ i.millis = j.millis) := by
  refine ⟨⟨Calendar.dateOfDay_zero, Calendar.isValid_dateOfDay, Calendar.dateOfDay_succ⟩,
    ReportFormat.render_json s, Instant.shows_timestamp hi, ?_⟩
  -- Timestamps keep each of the three ways in which two times can stand, so they tell which.
  rcases Int.lt_trichotomy i.millis j.millis with hlt | hsame | hgt
  · have htext := Instant.timestamp_lt hi hj hlt
    have hne : i.timestamp ≠ j.timestamp := fun h => List.lt_irrefl _ (h ▸ htext)
    exact ⟨iff_of_true htext hlt, iff_of_false hne hlt.ne⟩
  · have htext : i.timestamp = j.timestamp := by
      rw [Instant.timestamp_eq hi, Instant.timestamp_eq hj, Instant.fields_eq hi hj hsame]
    rw [htext, hsame]
    exact ⟨iff_of_false (List.lt_irrefl _) (Int.lt_irrefl _), iff_of_true rfl rfl⟩
  · have htext := Instant.timestamp_lt hj hi hgt
    have hne : i.timestamp ≠ j.timestamp := fun h => List.lt_irrefl _ (h ▸ htext)
    have hnot : ¬ i.timestamp < j.timestamp := fun h => List.lt_irrefl _ (List.lt_trans h htext)
    exact ⟨iff_of_false hnot hgt.not_gt, iff_of_false hne hgt.ne'⟩

/-- The last millisecond of 1969 and a leap day that a century ends with. -/
theorem timestamps_sort_by_time_around_epoch :
    (⟨-1, 999999999⟩ : Instant).IsOrdinary ∧ (⟨951782400, 0⟩ : Instant).IsOrdinary ∧
      (⟨-1, 999999999⟩ : Instant).timestamp = "1969-12-31T23:59:59.999Z".toList ∧
      (⟨951782400, 0⟩ : Instant).timestamp = "2000-02-29T00:00:00.000Z".toList ∧
      (⟨-1, 999999999⟩ : Instant).timestamp < (⟨951782400, 0⟩ : Instant).timestamp := by
  have hi : (⟨-1, 999999999⟩ : Instant).IsOrdinary := ⟨by decide, by decide, by decide⟩
  have hj : (⟨951782400, 0⟩ : Instant).IsOrdinary := ⟨by decide, by decide, by decide⟩
  obtain ⟨-, -, -, hlt, -⟩ := timestamps_sort_by_time (Statistics.ofText []) hi hj
  exact ⟨hi, hj, by decide, by decide, hlt.mpr (by decide)⟩

end Tagdown
