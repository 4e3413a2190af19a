/-
  Tagdown.Calendar.Timestamp

  The text of an instant: `YYYY-MM-DDTHH:MM:SS.mmmZ`, the fraction cut off
  after the milliseconds.
-/

import Tagdown.Calendar.Instant
import Tagdown.Text.Basic

namespace Tagdown
namespace Instant

/-- A year has four digits from 0 to 9999; outside, a sign and at least four. -/
def yearText (year : Int) : Text :=
  let digits := Text.ofNatPadded 4 year.natAbs
  if 0 ≤ year ∧ year ≤ 9999 then digits
  else if 0 ≤ year then '+' :: digits
  else '-' :: digits

/-- The timestamp of an instant. A leap second is the second 60. -/
def timestamp (i : Instant) : Text :=
  let date := i.date
  let second := i.secondOfDay
  let two := Text.ofNatPadded 2
  let leap := i.nanos / 1000000000
  yearText date.year ++ '-' :: two date.month ++ '-' :: two date.day ++
    'T' :: two (second / 3600) ++ ':' :: two (second / 60 % 60) ++
    ':' :: two (second % 60 + leap) ++
    '.' :: Text.ofNatPadded 3 (i.nanos % 1000000000 / 1000000) ++ ['Z']

end Instant
end Tagdown
