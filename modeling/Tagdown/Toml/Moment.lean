/-
  Tagdown.Toml.Moment

  The dates and times of TOML. A configuration keeps them as texts, in one
  spelling.
-/

import Tagdown.Toml.Text

namespace Tagdown
namespace Toml

/-- The number that the next `count` decimal digits stand for. -/
def readFixed? (count : Nat) (t : Text) : Option (Nat × Text) :=
  let digits := t.take count
  if digits.length = count ∧ digits.all Char.isDigit then
    some (Text.digitsValue 0 digits, t.drop count)
  else none

/-- The rest of the text after the character. -/
def afterChar? (c : Char) : Text → Option Text
  | d :: rest => if d = c then some rest else none
  | [] => none

/-- The number of days of a month. -/
def daysOfMonth (year month : Nat) : Nat :=
  if month = 2 then
    (if year % 4 = 0 ∧ (year % 100 ≠ 0 ∨ year % 400 = 0) then 29 else 28)
  else if month ∈ [4, 6, 9, 11] then 30
  else 31

/-- A date that exists, in the form `YYYY-MM-DD`. -/
def readDate? (t : Text) : Option (Text × Text) := do
  let (year, rest) ← readFixed? 4 t
  let (month, rest) ← readFixed? 2 (← afterChar? '-' rest)
  let (day, rest) ← readFixed? 2 (← afterChar? '-' rest)
  if 1 ≤ month ∧ month ≤ 12 ∧ 1 ≤ day ∧ day ≤ daysOfMonth year month then
    return (Text.ofNatPadded 4 year ++ '-' :: Text.ofNatPadded 2 month ++
      '-' :: Text.ofNatPadded 2 day, rest)
  else none

/-- The fraction of a second, without the zeros at its end and after nine
    digits. -/
def readSubsecond? : Text → Option (Text × Text)
  | '.' :: rest =>
    let digits := rest.takeWhile Char.isDigit
    if digits.isEmpty then none
    else
      let kept := Text.dropEndWhile (· == '0') (digits.take 9)
      some (if kept.isEmpty then [] else '.' :: kept, rest.dropWhile Char.isDigit)
  | t => some ([], t)

/-- A time of day, in the form `HH:MM:SS` with a fraction if there is one. -/
def readTime? (lastHour : Nat) (t : Text) : Option (Text × Text) := do
  let (hour, rest) ← readFixed? 2 t
  let (minute, rest) ← readFixed? 2 (← afterChar? ':' rest)
  let (second, rest) ← readFixed? 2 (← afterChar? ':' rest)
  let (fraction, rest) ← readSubsecond? rest
  if hour ≤ lastHour ∧ minute ≤ 59 ∧ second ≤ 60 then
    return (Text.ofNatPadded 2 hour ++ ':' :: Text.ofNatPadded 2 minute ++
      ':' :: Text.ofNatPadded 2 second ++ fraction, rest)
  else none

/-- The offset of so many minutes. -/
def offsetText (negative : Bool) (minutes : Nat) : Text :=
  (if negative ∧ minutes ≠ 0 then '-' else '+') :: Text.ofNatPadded 2 (minutes / 60) ++
    ':' :: Text.ofNatPadded 2 (minutes % 60)

/-- The offset from UTC, if one comes next. -/
def readOffset? (t : Text) : Option (Text × Text) :=
  match t with
  | 'Z' :: rest => some (['Z'], rest)
  | 'z' :: rest => some (['Z'], rest)
  | c :: rest =>
    if c = '+' ∨ c = '-' then do
      let (hour, rest) ← readFixed? 2 rest
      let (minute, rest) ← readFixed? 2 (← afterChar? ':' rest)
      if hour ≤ 23 ∧ minute ≤ 59 then
        return (offsetText (c == '-') (60 * hour + minute), rest)
      else none
    else some ([], t)
  | [] => some ([], [])

/-- What follows the date of a moment: a time with an offset, if one comes
    next. -/
def readTimeOfDate? (t : Text) : Option (Text × Text) :=
  match t with
  | c :: rest =>
    if c = 'T' ∨ c = 't' ∨ (c = ' ' ∧ (readFixed? 2 rest).isSome) then do
      let (time, rest) ← readTime? 23 rest
      let (offset, rest) ← readOffset? rest
      return ('T' :: time ++ offset, rest)
    else some ([], t)
  | [] => some ([], [])

/-- The text goes on like a date or a time. -/
def opensMoment (t : Text) : Bool :=
  let opens (count : Nat) (mark : Char) : Bool :=
    (readFixed? count t).isSome && (t.drop count).head? == some mark
  opens 4 '-' || opens 2 ':'

/-- A date, a time, or both. -/
def readMoment? (t : Text) : Option (Text × Text) :=
  if (readFixed? 4 t).isSome then do
    let (date, rest) ← readDate? t
    let (time, rest) ← readTimeOfDate? rest
    return (date ++ time, rest)
  else readTime? 23 t

/-! ## Moments in texts

A text describes moments a little more freely than a document does: a day has
an hour 24, and an offset any number of minutes up to a day. -/

/-- The offset that a text is, if it is one. -/
def offsetOfText? : Text → Option Text
  | [] => some []
  | ['Z'] => some ['Z']
  | ['z'] => some ['Z']
  | c :: rest =>
    if c = '+' ∨ c = '-' then do
      let (hour, rest) ← readFixed? 2 rest
      let (minute, rest) ← readFixed? 2 (← afterChar? ':' rest)
      let minutes := 60 * hour + minute
      if minutes ≤ 24 * 60 ∧ rest.isEmpty then some (offsetText (c == '-') minutes) else none
    else none

/-- The moment that a text describes, in its one spelling. -/
def momentOfText? (t : Text) : Option Text :=
  if (t.drop 2).head? = some ':' then do
    let (time, rest) ← readTime? 24 t
    if rest.isEmpty then some time else none
  else do
    let (date, rest) ← readDate? t
    match rest with
    | [] => return date
    | c :: rest =>
      if c = 'T' ∨ c = 't' ∨ c = ' ' then
        let (time, rest) ← readTime? 24 rest
        return date ++ 'T' :: time ++ (← offsetOfText? rest)
      else none

end Toml
end Tagdown
