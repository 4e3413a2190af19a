/-
  Tagdown.Proofs.Calendar.Date

  The date of a day, against the calendar itself: the first day is the first of
  January 1970 (`dateOfDay_zero`), and the day after a day has the date after its
  date (`dateOfDay_succ`), where months, leap years and centuries are those of the
  Gregorian calendar. So dates never go back (`dateOfDay_before`).

  In between stands the year from March: a day is the one day of a month of such a
  year with its number (`exists_dayFromMarch`, `dateOfDay_eq`).
-/

import Mathlib.Order.SuccPred.IntervalSucc
import Mathlib.Tactic.IntervalCases
import Tagdown.Calendar.Instant

namespace Tagdown
namespace Calendar

/-! ## The calendar -/

/-- Every fourth year is a leap year; of those that end a century, every fourth. -/
def IsLeap (year : Int) : Prop :=
  year % 4 = 0 ∧ (year % 100 ≠ 0 ∨ year % 400 = 0)

instance (year : Int) : Decidable (IsLeap year) :=
  inferInstanceAs (Decidable (_ ∧ _))

/-- The number of days of a month, January being one. -/
def monthLength (year : Int) (month : Nat) : Nat :=
  if month = 2 then if IsLeap year then 29 else 28
  else if month = 4 ∨ month = 6 ∨ month = 9 ∨ month = 11 then 30
  else 31

namespace Date

/-- The day after a day. -/
def next (d : Date) : Date :=
  if d.day < monthLength d.year d.month then { d with day := d.day + 1 }
  else if d.month < 12 then ⟨d.year, d.month + 1, 1⟩
  else ⟨d.year + 1, 1, 1⟩

/-- The calendar has the day. -/
structure IsValid (d : Date) : Prop where
  month_pos : 1 ≤ d.month
  month_le : d.month ≤ 12
  day_pos : 1 ≤ d.day
  day_le : d.day ≤ monthLength d.year d.month

/-- The order of days: by the year, then by the month, then by the day. -/
def Before (d e : Date) : Prop :=
  d.year < e.year ∨ d.year = e.year ∧ (d.month < e.month ∨ d.month = e.month ∧ d.day < e.day)

theorem Before.trans {d e f : Date} (hde : d.Before e) (hef : e.Before f) : d.Before f := by
  unfold Before at *
  omega

theorem before_next (d : Date) : d.Before d.next := by
  unfold Before next
  split_ifs
  · exact .inr ⟨rfl, .inr ⟨rfl, Nat.lt_succ_self _⟩⟩
  · exact .inr ⟨rfl, .inl (Nat.lt_succ_self _)⟩
  · exact .inl (Int.lt_succ _)

end Date

theorem monthLength_le (year : Int) (month : Nat) : monthLength year month ≤ 31 := by
  unfold monthLength
  split_ifs <;> omega

/-! ## Years from March -/

/-- The number of days of the year that starts in March of a year. -/
def yearLength (year : Int) : Nat :=
  if IsLeap (year + 1) then 366 else 365

/-- The days from the first of March of the year zero to that of a year. -/
def yearStart (year : Int) : Int :=
  365 * year + year / 4 - year / 100 + year / 400

theorem yearStart_succ (year : Int) :
    yearStart (year + 1) = yearStart year + yearLength year := by
  unfold yearLength yearStart
  split_ifs with hleap <;> unfold IsLeap at hleap <;> omega

theorem yearLength_le (year : Int) : yearLength year ≤ 366 := by
  unfold yearLength
  split_ifs <;> omega

/-- No day belongs to two years. -/
theorem eq_of_yearStart_add_eq {year year' : Int} {day day' : Nat} (hday : day < yearLength year)
    (hday' : day' < yearLength year') (h : yearStart year + day = yearStart year' + day') :
    year = year' := by
  have hmono : Monotone yearStart := monotone_int_of_le_succ fun y => by
    rw [yearStart_succ]
    omega
  -- A year is over when a later one starts, so neither year comes before the other.
  have hends : ∀ {y y' : Int}, y < y' → yearStart y + yearLength y ≤ yearStart y' := by
    intro y y' hlt
    rw [← yearStart_succ]
    exact hmono hlt
  rcases Int.lt_trichotomy year year' with hlt | heq | hgt
  · have := hends hlt
    omega
  · exact heq
  · have := hends hgt
    omega

/-- The centuries, the groups of four years and the years of a day of the cycle.
    The leap day is the last day of a fourth year, and missing at the end of a
    century that is not the last. -/
theorem exists_yearOfCycle {n : Nat} (h : n < daysPer400) :
    ∃ century quad year day, century ≤ 3 ∧ quad ≤ 24 ∧ year ≤ 3 ∧
      n = century * 36524 + quad * 1461 + year * 365 + day ∧
      (day < 365 ∨ day = 365 ∧ year = 3 ∧ (quad < 24 ∨ century = 3)) ∧
      yearOfCycle n = (century * 100 + quad * 4 + year, day) := by
  unfold daysPer400 at h
  let century := min 3 (n / 36524)
  let ofCentury := n - century * 36524
  let quad := ofCentury / 1461
  let ofQuad := ofCentury - quad * 1461
  let year := min 3 (ofQuad / 365)
  refine ⟨century, quad, year, ofQuad - year * 365, ?_, ?_, ?_, ?_, ?_, rfl⟩ <;> omega

/-- The year of a day of a cycle is the one the day lies in. -/
theorem yearStart_yearOfCycle {n : Nat} (h : n < daysPer400) (cycle : Int) :
    yearStart (cycle * 400 + (yearOfCycle n).1) + (yearOfCycle n).2 = cycle * daysPer400 + n ∧
      (yearOfCycle n).2 < yearLength (cycle * 400 + (yearOfCycle n).1) := by
  obtain ⟨century, quad, year, day, hcentury, hquad, hyear, hn, hday, heq⟩ :=
    exists_yearOfCycle h
  rw [heq]
  -- The year is `100 * century + 4 * quad + year`, which settles every quotient by four, by a
  -- hundred and by four hundred.
  constructor
  · unfold yearStart daysPer400
    omega
  · unfold yearLength
    split_ifs with hleap <;> unfold IsLeap at hleap <;> omega

/-! ## Months from March -/

/-- The days from the first of March to the first of a month, March being zero. -/
def monthStart (month : Nat) : Nat :=
  (153 * month + 2) / 5

/-- The date of a day of a month of a year from March, both counted from zero. -/
def dateFromMarch (year : Int) (month day : Nat) : Date where
  year := year + if month < 10 then 0 else 1
  month := if month < 10 then month + 3 else month - 9
  day := day + 1

/-- The first of a month is the first of the month after the last one, January
    being that of the next year. -/
theorem dateFromMarch_succ {year : Int} {month day : Nat} (h : month < 11) :
    dateFromMarch year (month + 1) 0 =
      if (dateFromMarch year month day).month < 12 then
        ⟨(dateFromMarch year month day).year, (dateFromMarch year month day).month + 1, 1⟩
      else ⟨(dateFromMarch year month day).year + 1, 1, 1⟩ := by
  unfold dateFromMarch
  interval_cases month <;> simp

/-- The number of days of a month of a year from March. -/
def monthLengthFromMarch (year : Int) (month : Nat) : Nat :=
  monthLength (dateFromMarch year month 0).year (dateFromMarch year month 0).month

theorem monthStart_succ (year : Int) {month : Nat} (h : month < 11) :
    monthStart (month + 1) = monthStart month + monthLengthFromMarch year month := by
  unfold monthLengthFromMarch monthLength dateFromMarch monthStart
  interval_cases month <;> simp

/-- February ends the year. -/
theorem yearLength_eq (year : Int) :
    yearLength year = monthStart 11 + monthLengthFromMarch year 11 := by
  unfold yearLength monthLengthFromMarch monthLength dateFromMarch monthStart
  by_cases hleap : IsLeap (year + 1) <;> simp [hleap]

/-- A day of a month is a day of its year, and the month is found again. -/
theorem monthOfYear_eq {year : Int} {month day : Nat} (hmonth : month < 12)
    (hday : day < monthLengthFromMarch year month) :
    monthStart month + day < yearLength year ∧
      monthOfYear (monthStart month + day) = (month, day) := by
  have hlength := yearLength_eq year
  have hbounds : monthStart month + day < yearLength year ∧
      monthStart month + day < monthStart (month + 1) := by
    by_cases hlast : month < 11
    · have hnext := monthStart_succ year hlast
      unfold monthStart at *
      omega
    · -- The last month is February, so its end is that of the year.
      obtain rfl : month = 11 := by omega
      have hle := yearLength_le year
      unfold monthStart at *
      omega
  refine ⟨hbounds.1, ?_⟩
  have hnext := hbounds.2
  unfold monthStart at *
  have hquotient : (5 * ((153 * month + 2) / 5 + day) + 2) / 153 = month := by omega
  simp only [monthOfYear, hquotient, Nat.add_sub_cancel_left]

/-- Every day of a year is a day of a month. -/
theorem exists_dayOfMonth {year : Int} {n : Nat} (h : n < yearLength year) :
    ∃ month day, month < 12 ∧ day < monthLengthFromMarch year month ∧
      n = monthStart month + day := by
  have hlength := yearLength_eq year
  have hle := yearLength_le year
  have hmonth : (5 * n + 2) / 153 < 12 := by omega
  have hstart : monthStart ((5 * n + 2) / 153) ≤ n := by
    unfold monthStart
    omega
  refine ⟨(5 * n + 2) / 153, n - monthStart ((5 * n + 2) / 153), hmonth, ?_, by omega⟩
  by_cases hlast : (5 * n + 2) / 153 < 11
  · have hnext := monthStart_succ year hlast
    unfold monthStart at *
    omega
  · have heq : (5 * n + 2) / 153 = 11 := by omega
    rw [heq] at hstart ⊢
    omega

/-! ## The date of a day -/

/-- A day, cut into cycles of four hundred years and the days of the last one. -/
theorem exists_cycle (d : Int) :
    ∃ n < daysPer400, ((d + epochDay) % daysPer400).toNat = n ∧
      (d + epochDay) / daysPer400 * daysPer400 + n = d + epochDay := by
  refine ⟨_, ?_, rfl, ?_⟩ <;> unfold daysPer400 <;> omega

/-- Every day is a day of a month of a year. -/
theorem exists_dayFromMarch (d : Int) :
    ∃ year month day, month < 12 ∧ day < monthLengthFromMarch year month ∧
      d + epochDay = yearStart year + monthStart month + day := by
  obtain ⟨n, hn, -, hd⟩ := exists_cycle d
  obtain ⟨hstart, hlength⟩ := yearStart_yearOfCycle hn ((d + epochDay) / daysPer400)
  obtain ⟨month, day, hmonth, hday, heq⟩ := exists_dayOfMonth hlength
  refine ⟨_, month, day, hmonth, hday, ?_⟩
  rw [heq, Int.natCast_add, ← Int.add_assoc] at hstart
  exact (hstart.trans hd).symm

/-- The date of the day of a month of a year. -/
theorem dateOfDay_eq {d year : Int} {month day : Nat} (hmonth : month < 12)
    (hday : day < monthLengthFromMarch year month)
    (h : d + epochDay = yearStart year + monthStart month + day) :
    dateOfDay d = dateFromMarch year month day := by
  obtain ⟨hlt, hfound⟩ := monthOfYear_eq hmonth hday
  obtain ⟨n, hn, hcycle, hd⟩ := exists_cycle d
  obtain ⟨hstart, hlength⟩ := yearStart_yearOfCycle hn ((d + epochDay) / daysPer400)
  -- The year that is computed and the given one share a day, so they are one year.
  have hsame := hstart.trans (hd.trans h)
  rw [Int.add_assoc, ← Int.natCast_add] at hsame
  have hyear := eq_of_yearStart_add_eq hlength hlt hsame
  rw [hyear, Int.add_right_inj, Int.natCast_inj] at hsame
  simp only [dateOfDay, hcycle, hyear, hsame, hfound]
  rfl

/-- The calendar starts at the first of January 1970. -/
theorem dateOfDay_zero : dateOfDay 0 = ⟨1970, 1, 1⟩ :=
  rfl

/-- The day after a day has the date after its date. -/
theorem dateOfDay_succ (d : Int) : dateOfDay (d + 1) = (dateOfDay d).next := by
  obtain ⟨year, month, day, hmonth, hday, h⟩ := exists_dayFromMarch d
  rw [dateOfDay_eq hmonth hday h]
  show _ = if day + 1 < monthLengthFromMarch year month then _ else _
  by_cases hin : day + 1 < monthLengthFromMarch year month
  · rw [if_pos hin, dateOfDay_eq hmonth hin (by omega)]
    rfl
  · -- The month is over: the next one starts, or the next year.
    rw [if_neg hin]
    have hfirst : ∀ y m, 0 < monthLengthFromMarch y m := by
      intro y m
      unfold monthLengthFromMarch monthLength
      split_ifs <;> omega
    by_cases hlast : month < 11
    · have hday : d + 1 + epochDay = yearStart year + monthStart (month + 1) + (0 : Nat) := by
        rw [monthStart_succ year hlast]
        omega
      rw [dateOfDay_eq (Nat.succ_lt_succ hlast) (hfirst _ _) hday]
      exact dateFromMarch_succ hlast
    · -- February is over, and with it the year from March.
      obtain rfl : month = 11 := by omega
      have hday : d + 1 + epochDay = yearStart (year + 1) + monthStart 0 + (0 : Nat) := by
        have hlength := yearLength_eq year
        have hzero : monthStart 0 = 0 := rfl
        rw [yearStart_succ, hzero]
        omega
      rw [dateOfDay_eq (by decide) (hfirst _ _) hday]
      unfold dateFromMarch
      simp

/-- The year 1900 was no leap year, unlike the year 2000. -/
example : Date.next ⟨1900, 2, 28⟩ = ⟨1900, 3, 1⟩ ∧ Date.next ⟨2000, 2, 28⟩ = ⟨2000, 2, 29⟩ := by
  decide

/-- Every day has a date of the calendar. -/
theorem isValid_dateOfDay (d : Int) : (dateOfDay d).IsValid := by
  obtain ⟨year, month, day, hmonth, hday, h⟩ := exists_dayFromMarch d
  rw [dateOfDay_eq hmonth hday h]
  refine ⟨?_, ?_, Nat.succ_pos day, hday⟩ <;> unfold dateFromMarch <;> dsimp only <;>
    split_ifs <;> omega

/-- Later days have later dates. -/
theorem dateOfDay_before {d e : Int} (h : d < e) : (dateOfDay d).Before (dateOfDay e) := by
  obtain ⟨n, rfl⟩ : ∃ n : Nat, e = d + 1 + n := ⟨(e - (d + 1)).toNat, by omega⟩
  clear h
  -- Induction over the days in between; every step leads to the next date.
  induction n with
  | zero =>
    rw [Int.natCast_zero, Int.add_zero, dateOfDay_succ]
    exact Date.before_next _
  | succ n ih =>
    rw [Int.natCast_succ, ← Int.add_assoc, dateOfDay_succ]
    exact ih.trans (Date.before_next _)

end Calendar
end Tagdown
