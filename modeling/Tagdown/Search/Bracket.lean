/-
  Tagdown.Search.Bracket

  Reading of sets of characters in brackets. The parts of a set stand side by side
  or are combined by operations, the earlier operation first.
-/

import Tagdown.Search.Escape

namespace Tagdown
namespace Search

namespace SetTerm

/-- The part of a set that an escape or a character stands for. -/
def ofTerm : Term → Except Fault SetTerm
  | .literal l => .ok (.literal l)
  | .letter s name negated => .ok (.letter s name negated)
  | .property s query negated => .ok (.property s query negated)
  | t => flaw .bracketEscape t.span

end SetTerm

namespace Bracket

/-- The parts of a set that stand side by side, the last one first. -/
structure Run where
  /-- Where the first part will stand. -/
  place : Position
  items : List SetTerm

namespace Run

/-- The run with one more part. -/
def push (r : Run) (item : SetTerm) : Run :=
  ⟨r.place, item :: r.items⟩

/-- The parts as one. -/
def close (r : Run) : SetTerm :=
  match r.items with
  | [] => .empty ⟨r.place, r.place⟩
  | [item] => item
  | last :: _ =>
    let items := r.items.reverse
    let start := (items.head?.map fun item => item.span.start).getD r.place
    .union ⟨start, last.span.stop⟩ items

end Run

/-- An operation whose right side is still being read. -/
structure Pending where
  left : SetTerm
  op : SetOp

/-- The left side of an operation together with its right side, if there is an
    operation. -/
def combine (pending? : Option Pending) (right : SetTerm) : SetTerm :=
  match pending? with
  | none => right
  | some ⟨left, op⟩ => .op ⟨left.span.start, right.span.stop⟩ op left right

/-! ## Parts -/

/-- A character or an escape. -/
def readItem (verbose : Bool) (c : Cursor) : Except Fault (Term × Cursor) :=
  match c.rest with
  | '\\' :: _ => Escape.read verbose c
  | sign :: _ => .ok (.literal ⟨c.sign, sign, false⟩, c.next)
  | [] => .ok (.empty c.point, c)

/-- The character at an end of a range. -/
def endOf : Term → Except Fault Literal
  | .literal l => .ok l
  | t => flaw .rangeEnd t.span

/-- A character, a class or a range. `opened` is where the brackets open. -/
def readRange (verbose : Bool) (opened : Span) (c : Cursor) :
    Except Fault (SetTerm × Cursor) := do
  let (first, c) ← readItem verbose c
  let c := c.skipGap verbose
  if c.atEnd then flaw .bracketUnclosed opened
  else if c.rest.head? ≠ some '-' ∨ c.second? verbose = some ']' ∨
      c.second? verbose = some '-' then
    return (← SetTerm.ofTerm first, c)
  else
    let c := c.step verbose
    if c.atEnd then flaw .bracketUnclosed opened
    else
      let (last, c) ← readItem verbose c
      let span : Span := ⟨first.span.start, last.span.stop⟩
      let first ← endOf first
      let last ← endOf last
      if first.char ≤ last.char then return (.range span first last, c)
      else flaw .rangeOrder span

/-- The class with a name. -/
def asciiOf? (name : Text) : Option AsciiClass :=
  ([("alnum", .alnum), ("alpha", .alpha), ("ascii", .ascii), ("blank", .blank),
    ("cntrl", .cntrl), ("digit", .digit), ("graph", .graph), ("lower", .lower),
    ("print", .print), ("punct", .punct), ("space", .space), ("upper", .upper),
    ("word", .word), ("xdigit", .xdigit)].find? fun (word, _) => word.toList == name).map (·.2)

/-- A named class of ASCII characters, as in `[:alpha:]` or `[:^alpha:]`, if that
    comes next. -/
def readAscii? (c : Cursor) : Option (SetTerm × Cursor) := do
  let inner ← c.afterWord? "[:"
  let (negated, inner) :=
    match inner.afterWord? "^" with
    | some inner => (true, inner)
    | none => (false, inner)
  let name := inner.rest.takeWhile (· != ':')
  let after ← (inner.skip name.length).afterWord? ":]"
  return (.ascii ⟨c.place, after.place⟩ (← asciiOf? name) negated, after)

/-! ## Brackets -/

/-- The hyphens at the start of a set, in at most `fuel` steps. -/
def readHyphens (verbose : Bool) (start : Position) :
    Nat → Run → Cursor → Except Fault (Run × Cursor)
  | 0, r, c => .ok (r, c)
  | fuel + 1, r, c =>
    if c.rest.head? = some '-' then
      let r := r.push (.literal ⟨c.sign, '-', false⟩)
      let c := c.step verbose
      if c.atEnd then flaw .bracketUnclosed ⟨start, start⟩
      else readHyphens verbose start fuel r c
    else .ok (r, c)

/-- The start of a set: its bracket, whether it is negated, and the hyphens or
    the closing bracket that come first and stand for themselves. -/
def readOpening (verbose : Bool) (c : Cursor) : Except Fault ((Bool × Run) × Cursor) := do
  let start := c.place
  let c := c.step verbose
  if c.atEnd then flaw .bracketUnclosed ⟨start, c.place⟩
  else
    let negated := c.rest.head? == some '^'
    let c := if negated then c.step verbose else c
    if c.atEnd then flaw .bracketUnclosed ⟨start, c.place⟩
    else
      let (r, c) ← readHyphens verbose start c.rest.length ⟨c.place, []⟩ c
      if r.items.isEmpty ∧ c.rest.head? = some ']' then
        let r := r.push (.literal ⟨c.sign, ']', false⟩)
        let c := c.step verbose
        if c.atEnd then flaw .bracketUnclosed ⟨start, c.place⟩ else return ((negated, r), c)
      else return ((negated, r), c)

/-- The operation that comes next, and the cursor behind its sign. -/
def readOp? (c : Cursor) : Option (SetOp × Cursor) :=
  match c.rest with
  | '&' :: '&' :: _ => some (.inter, c.skip 2)
  | '-' :: '-' :: _ => some (.diff, c.skip 2)
  | '~' :: '~' :: _ => some (.symmDiff, c.skip 2)
  | _ => none

mutual

/-- A set in brackets, read in at most `fuel` steps. -/
def readSet (verbose : Bool) : Nat → Cursor → Except Fault (SetTerm × Cursor)
  | 0, c => flaw .bracketUnclosed c.sign
  | fuel + 1, c => do
    let ((negated, r), inner) ← readOpening verbose c
    let (body, after) ← readParts verbose ⟨c.place, inner.place⟩ fuel none r inner
    return (.bracket ⟨c.place, after.place⟩ negated body, after)

/-- The parts of a set up to its closing bracket, after those of `r`. -/
def readParts (verbose : Bool) (opened : Span) :
    Nat → Option Pending → Run → Cursor → Except Fault (SetTerm × Cursor)
  | 0, _, _, _ => flaw .bracketUnclosed opened
  | fuel + 1, pending?, r, c =>
    let c := c.skipGap verbose
    match c.rest with
    | [] => flaw .bracketUnclosed opened
    | ']' :: _ => .ok (combine pending? r.close, c.next)
    | '[' :: _ =>
      match readAscii? c with
      | some (item, after) => readParts verbose opened fuel pending? (r.push item) after
      | none => do
        let (item, after) ← readSet verbose fuel c
        readParts verbose opened fuel pending? (r.push item) after
    | _ =>
      match readOp? c with
      | some (op, after) =>
        readParts verbose opened fuel (some ⟨combine pending? r.close, op⟩) ⟨after.place, []⟩ after
      | none => do
        let (item, after) ← readRange verbose opened c
        readParts verbose opened fuel pending? (r.push item) after

end

/-- A set in brackets. -/
def read (verbose : Bool) (c : Cursor) : Except Fault (SetTerm × Cursor) :=
  readSet verbose (2 * c.rest.length + 2) c

end Bracket
end Search
end Tagdown
