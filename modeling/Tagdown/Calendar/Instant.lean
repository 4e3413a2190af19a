/-
  Tagdown.Calendar.Instant

  Instants and the calendar date and time of day they fall on: the proleptic
  Gregorian calendar, in UTC.

  Years are counted from the first of March, so a leap day is the last day of
  its year, and are found by cutting four hundred years into centuries, these
  into groups of four years, and these into years.
-/

namespace Tagdown

/-- An instant: whole seconds since the start of 1970 and nanoseconds. A leap
    second is the second before it with a thousand million nanoseconds or more. -/
structure Instant where
  seconds : Int
  nanos : Nat
  deriving DecidableEq, Repr

namespace Calendar

/-- A day of the calendar. -/
structure Date where
  year : Int
  month : Nat
  day : Nat
  deriving DecidableEq, Repr

/-- The number of days from the first of March of the year zero to the start of
    1970. -/
def epochDay : Int := 719468

/-- The number of days of four hundred years. -/
def daysPer400 : Nat := 146097

/-- A day of a cycle of four hundred years: the year of the cycle and the day of
    that year, counted from zero. -/
def yearOfCycle (day : Nat) : Nat × Nat :=
  let century := min 3 (day / 36524)
  let day := day - century * 36524
  let quad := day / 1461
  let day := day - quad * 1461
  let year := min 3 (day / 365)
  (century * 100 + quad * 4 + year, day - year * 365)

/-- The month, March being zero, and the day of the month of a day of the year,
    all counted from zero. -/
def monthOfYear (day : Nat) : Nat × Nat :=
  let month := (5 * day + 2) / 153
  (month, day - (153 * month + 2) / 5)

/-- The date of a day, counted from the start of 1970. -/
def dateOfDay (day : Int) : Date :=
  let shifted := day + epochDay
  let cycle := shifted / daysPer400
  let (year, dayOfYear) := yearOfCycle (shifted % daysPer400).toNat
  let (month, day) := monthOfYear dayOfYear
  { year := cycle * 400 + year + (if month < 10 then 0 else 1)
    month := if month < 10 then month + 3 else month - 9
    day := day + 1 }

end Calendar

namespace Instant

/-- The date of an instant. -/
def date (i : Instant) : Calendar.Date :=
  Calendar.dateOfDay (i.seconds / 86400)

/-- The second of the day of an instant. -/
def secondOfDay (i : Instant) : Nat :=
  (i.seconds % 86400).toNat

end Instant
end Tagdown
