/-
  Tagdown.Search.Reader

  Reading of patterns. The text is read from left to right; groups that have
  been opened wait on a stack for their end.
-/

import Tagdown.Search.Bracket
import Tagdown.Text.Property

namespace Tagdown
namespace Search

/-! ## Parts side by side -/

/-- What is read between two parentheses: finished alternatives and the parts of
    the last one, in both cases the latest first. -/
structure Level where
  /-- Where the first alternative starts. -/
  start : Position
  branches : List Term
  /-- Where the last alternative starts. -/
  branchStart : Position
  items : List Term

namespace Level

/-- Nothing has been read. -/
def openAt (p : Position) : Level :=
  ⟨p, [], p, []⟩

/-- The level with one more part. -/
def push (l : Level) (item : Term) : Level :=
  { l with items := item :: l.items }

/-- The last alternative, which ends at `stop`. -/
def branch (l : Level) (stop : Position) : Term :=
  match l.items with
  | [] => .empty ⟨l.branchStart, stop⟩
  | [item] => item
  | _ => .concat ⟨l.branchStart, stop⟩ l.items.reverse

/-- The level with a new alternative, which starts at `next`; the one before it
    ends at `stop`. -/
def split (l : Level) (stop next : Position) : Level :=
  ⟨l.start, l.branch stop :: l.branches, next, []⟩

/-- What has been read, as one part that ends at `stop`. -/
def close (l : Level) (stop : Position) : Term :=
  let last := l.branch stop
  match l.branches with
  | [] => last
  | branches => .alternation ⟨l.start, stop⟩ (last :: branches).reverse

end Level

/-- A group that waits for its end. -/
structure OpenGroup where
  /-- The opening parenthesis. -/
  span : Span
  remembered : Bool
  changes : List FlagChange
  /-- What was read before the group. -/
  outside : Level
  /-- The pattern was verbose before the group. -/
  verbose : Bool

/-- What has been read of a pattern. -/
structure Draft where
  level : Level
  groups : List OpenGroup
  verbose : Bool
  /-- The names of groups, and where they stand. -/
  names : List (Text × Span)

namespace Draft

/-- Nothing has been read. -/
def start : Draft :=
  ⟨.openAt ⟨1, 1⟩, [], false, []⟩

/-- The draft with one more part. -/
def push (d : Draft) (item : Term) : Draft :=
  { d with level := d.level.push item }

/-! ## Flags -/

/-- The flag with a letter. -/
def flagOf? : Char → Option Flag
  | 'i' => some .caseless
  | 'm' => some .multiLine
  | 's' => some .dotAll
  | 'U' => some .lazy
  | 'u' => some .unicode
  | 'R' => some .carriageReturn
  | 'x' => some .verbose
  | _ => none

/-- The flags up to a colon or a closing parenthesis, in at most `fuel` steps.
    `seen` are the signs before them, and `minus?` is the minus sign that was
    read; `last?` is the same if it is the last sign. -/
def readFlags :
    Nat → List (FlagChange × Span) → Option Span → Option Span → Cursor →
      Except Fault (List FlagChange × Cursor)
  | fuel, seen, minus?, last?, c =>
    match c.rest, fuel with
    | [], _ => flaw .flagEnds c.point
    | _, 0 => flaw .flagEnds c.point
    | sign :: _, fuel + 1 =>
      if sign = ':' ∨ sign = ')' then
        match last? with
        | some span => flaw .flagNegationLast span
        | none => .ok (seen.reverse.map (·.1), c)
      else if sign = '-' then
        match minus? with
        | some first => .error (.flawed .flagNegationTwice c.sign (some first))
        | none => readFlags fuel seen (some c.sign) (some c.sign) c.next
      else
        match flagOf? sign with
        | none => flaw .flagUnknown c.sign
        | some flag =>
          match seen.find? fun (change, _) => change.flag == flag with
          | some (_, first) => .error (.flawed .flagTwice c.sign (some first))
          | none => readFlags fuel ((⟨flag, minus?.isNone⟩, c.sign) :: seen) minus? none c.next

/-- Whether the pattern is verbose after changes of flags. -/
def verboseAfter (verbose : Bool) (changes : List FlagChange) : Bool :=
  match changes.find? (·.flag == .verbose) with
  | some change => change.on
  | none => verbose

/-! ## Groups -/

/-- The letters that the name of a group can start with. -/
def nameLetters : CharSet :=
  Property.alphabeticSet

/-- The letters and numbers that the name of a group can have. -/
def nameSigns : CharSet :=
  nameLetters.union (Category.setOf Category.numbers)

/-- The character may stand in the name of a group, or come first in it. -/
def isNameSign (first : Bool) (c : Char) : Bool :=
  c == '_' ||
    if first then nameLetters.holds c
    else c == '.' || c == '[' || c == ']' || nameSigns.holds c

/-- The name of a group up to a closing angle, in at most `fuel` steps. -/
def readName (first : Bool) : Nat → Cursor → Except Fault (Text × Cursor)
  | fuel, c =>
    match c.rest, fuel with
    | [], _ => flaw .nameEnds c.point
    | '>' :: _, _ => .ok ([], c)
    | _, 0 => .ok ([], c)
    | sign :: _, fuel + 1 =>
      if isNameSign first sign then do
        let (name, after) ← readName false fuel c.next
        return (sign :: name, after)
      else flaw .nameChar c.sign

/-- The draft with a group opened, and the cursor inside it. -/
def openGroup (d : Draft) (span : Span) (remembered : Bool) (changes : List FlagChange)
    (c : Cursor) : Draft × Cursor :=
  ({ d with
      level := .openAt c.place
      groups := ⟨span, remembered, changes, d.level, d.verbose⟩ :: d.groups
      verbose := verboseAfter d.verbose changes }, c)

/-- A group whose name comes next. -/
def readNamed (d : Draft) (span : Span) (c : Cursor) : Except Fault (Draft × Cursor) := do
  let (name, closing) ← readName true c.rest.length c
  if name.isEmpty then flaw .nameEmpty c.point
  else
    let here : Span := ⟨c.place, closing.place⟩
    match d.names.find? fun (other, _) => other == name with
    | some (_, first) => .error (.flawed .nameTwice here (some first))
    | none => return openGroup { d with names := (name, here) :: d.names } span true [] closing.next

/-- Flags for the rest of the group that is open, or for one that they open. The
    question mark at `mark` has been read. -/
def readFlagged (d : Draft) (span mark : Span) (c : Cursor) : Except Fault (Draft × Cursor) := do
  if c.atEnd then flaw .groupUnclosed span
  else
    let (changes, closing) ← readFlags (c.rest.length + 1) [] none none c
    let c := closing.next
    if closing.rest.head? = some ')' then
      if changes.isEmpty then flaw .repeatsNothing mark
      else
        let d := { d with verbose := verboseAfter d.verbose changes }
        return (d.push (.flags ⟨span.start, c.place⟩ changes), c)
    else return openGroup d span false changes c

/-- What an opening parenthesis starts. -/
def readGroup (d : Draft) (c : Cursor) : Except Fault (Draft × Cursor) :=
  let span := c.sign
  let c := c.step d.verbose
  match ["?=", "?!", "?<=", "?<!"].findSome? c.afterWord? with
  | some after => flaw .lookAround ⟨span.start, after.place⟩
  | none =>
    match (c.afterWord? "?P<").or (c.afterWord? "?<"), c.afterWord? "?" with
    | some name, _ => d.readNamed span name
    | none, some flags => d.readFlagged span c.point flags
    | none, none => .ok (d.openGroup span true [] c)

/-- The draft with the group closed that was opened last. -/
def closeGroup (d : Draft) (c : Cursor) : Except Fault (Draft × Cursor) :=
  match d.groups with
  | [] => flaw .groupUnopened c.sign
  | group :: groups =>
    let after := c.next
    let inner := d.level.close c.place
    let span : Span := ⟨group.span.start, after.place⟩
    let term : Term := .group span group.remembered group.changes inner
    .ok ({ d with
      level := group.outside.push term
      groups := groups
      verbose := group.verbose }, after)

/-! ## Repetitions -/

/-- The part that a repetition at the cursor is about, and the level without it. -/
def takeRepeated (d : Draft) (c : Cursor) : Except Fault (Term × Level) :=
  match d.level.items with
  | [] => flaw .repeatsNothing c.point
  | item :: items =>
    if item.isRepeatable then .ok (item, { d.level with items := items })
    else flaw .repeatsNothing c.point

/-- The cursor behind a question mark, if that comes next. -/
def skipLazy (c : Cursor) : Cursor :=
  if c.rest.head? = some '?' then c.next else c

/-- A repetition that is written with one sign. -/
def readStar (d : Draft) (least : Nat) (most : Option Nat) (c : Cursor) :
    Except Fault (Draft × Cursor) := do
  let (item, level) ← d.takeRepeated c
  let after := skipLazy c.next
  let term : Term := .repeated ⟨item.span.start, after.place⟩ least most item
  return ({ d with level := level.push term }, after)

/-- The cursor behind blanks, in at most `fuel` steps. -/
def skipBlanks (verbose : Bool) : Nat → Cursor → Cursor
  | 0, c => c
  | fuel + 1, c =>
    match c.rest with
    | sign :: _ => if Text.isBlank sign then skipBlanks verbose fuel (c.step verbose) else c
    | [] => c

/-- The digits that come next, in at most `fuel` steps. -/
def readDigits (verbose : Bool) : Nat → Cursor → Text × Cursor
  | 0, c => ([], c)
  | fuel + 1, c =>
    match c.rest with
    | sign :: _ =>
      if sign.isDigit then
        let (digits, after) := readDigits verbose fuel (c.step verbose)
        (sign :: digits, after)
      else ([], c)
    | [] => ([], c)

/-- Counts are below this. -/
def countLimit : Nat := 4294967296

/-- A number with blanks around it, or what is wrong with it, and the cursor
    behind it. -/
def readCount (verbose : Bool) (c : Cursor) : Except Fault Nat × Cursor :=
  let c := skipBlanks false c.rest.length c
  let (digits, after) := readDigits verbose c.rest.length c
  let span : Span := ⟨c.place, after.place⟩
  let value := Text.digitsValue 0 digits
  let number :=
    if digits.isEmpty then flaw .countEmpty span
    else if value < countLimit then .ok value
    else flaw .numberTooLarge span
  (number, skipBlanks verbose after.rest.length after)

/-- The least and the greatest number of times between braces. The cursor is
    behind the opening one, which is at `start`. -/
def readCounts (verbose : Bool) (start : Position) (c : Cursor) :
    Except Fault ((Nat × Option Nat) × Cursor) := do
  let (least, c) := readCount verbose c
  match c.rest with
  | [] => flaw .countUnclosed ⟨start, c.place⟩
  | ',' :: _ =>
    let c := c.step verbose
    match c.rest with
    | [] => flaw .countUnclosed ⟨start, c.place⟩
    | '\x7d' :: _ => return ((← least, none), c)
    | _ =>
      let least ← least
      let (most, c) := readCount verbose c
      return ((least, some (← most)), c)
  | _ =>
    let least ← least
    return ((least, some least), c)

/-- A repetition with its counts in braces. -/
def readCounted (d : Draft) (c : Cursor) : Except Fault (Draft × Cursor) := do
  let start := c.place
  let (item, level) ← d.takeRepeated c
  let c := c.step d.verbose
  if c.atEnd then flaw .countUnclosed ⟨start, c.place⟩
  else
    let ((least, most), c) ← readCounts d.verbose start c
    if c.rest.head? = some '\x7d' then
      let after := skipLazy (c.step d.verbose)
      if most.all (least ≤ ·) then
        let term : Term := .repeated ⟨item.span.start, after.place⟩ least most item
        return ({ d with level := level.push term }, after)
      else flaw .countOrder ⟨start, after.place⟩
    else flaw .countUnclosed ⟨start, c.place⟩

/-! ## Patterns -/

/-- Reads a part that stands for itself, with the cursor at its first sign. -/
def readPlain (d : Draft) (sign : Char) (c : Cursor) : Except Fault (Draft × Cursor) := do
  match sign with
  | '\\' =>
    let (term, after) ← Escape.read d.verbose c
    return (d.push term, after)
  | '.' => return (d.push (.dot c.sign), c.next)
  | '^' => return (d.push (.edge c.sign .lineStart), c.next)
  | '$' => return (d.push (.edge c.sign .lineEnd), c.next)
  | _ => return (d.push (.literal ⟨c.sign, sign, false⟩), c.next)

/-- Reads what starts with `sign`, which is at the cursor. -/
def readPart (d : Draft) (sign : Char) (c : Cursor) : Except Fault (Draft × Cursor) :=
  match sign with
  | '(' => d.readGroup c
  | ')' => d.closeGroup c
  | '|' => .ok ({ d with level := d.level.split c.place c.next.place }, c.next)
  | '[' => do
    let (set, after) ← Bracket.read d.verbose c
    return (d.push (.bracket set), after)
  | '?' => d.readStar 0 (some 1) c
  | '*' => d.readStar 0 none c
  | '+' => d.readStar 1 none c
  | '\x7b' => d.readCounted c
  | _ => d.readPlain sign c

/-- The whole pattern, if no group is left open. -/
def finish (d : Draft) (c : Cursor) : Except Fault Term :=
  match d.groups with
  | group :: _ => flaw .groupUnclosed group.span
  | [] => .ok (d.level.close c.place)

/-- Reads the rest of a pattern, in at most `fuel` steps. -/
def readFrom : Nat → Draft → Cursor → Except Fault Term
  | 0, d, c => d.finish c
  | fuel + 1, d, c =>
    let c := c.skipGap d.verbose
    match c.rest with
    | [] => d.finish c
    | sign :: _ => do
      let (d, c) ← d.readPart sign c
      readFrom fuel d c

end Draft

namespace Term

/-- The pattern that a text writes. -/
def ofText (t : Text) : Except Fault Term := do
  let term ← Draft.start.readFrom (t.length + 1) (.ofText t)
  match term.tooDeep? depthLimit with
  | some span => flaw .tooDeep span
  | none => return term

end Term
end Search
end Tagdown
