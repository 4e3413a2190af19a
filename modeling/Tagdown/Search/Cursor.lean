/-
  Tagdown.Search.Cursor

  Places in the text of a pattern, by line and column, and a cursor that reads
  it.
-/

import Tagdown.Text.Blank

namespace Tagdown
namespace Search

/-- A place in a text: the line and, in it, the column, both counted from one. -/
structure Position where
  line : Nat
  column : Nat
  deriving DecidableEq, Repr

namespace Position

/-- The place behind a character. -/
def after (p : Position) (c : Char) : Position :=
  if c = '\n' then ⟨p.line + 1, 1⟩ else ⟨p.line, p.column + 1⟩

end Position

/-- A part of a text, from one place up to another. -/
structure Span where
  start : Position
  stop : Position
  deriving DecidableEq, Repr

/-- What is left to read of a text, and the place where it starts. -/
structure Cursor where
  rest : Text
  place : Position
  deriving DecidableEq, Repr

namespace Cursor

/-- The start of a text. -/
def ofText (t : Text) : Cursor :=
  ⟨t, ⟨1, 1⟩⟩

/-- Nothing is left to read. -/
def atEnd (c : Cursor) : Bool :=
  c.rest.isEmpty

/-- The cursor behind the next character. -/
def next (c : Cursor) : Cursor :=
  match c.rest with
  | [] => c
  | sign :: rest => ⟨rest, c.place.after sign⟩

/-- The cursor behind the next `count` characters. -/
def skip : Nat → Cursor → Cursor
  | 0, c => c
  | count + 1, c => skip count c.next

/-- The cursor behind a word, if that comes next. -/
def afterWord? (word : String) (c : Cursor) : Option Cursor :=
  if word.toList.isPrefixOf c.rest then some (c.skip word.length) else none

/-- The empty part of the text at the cursor. -/
def point (c : Cursor) : Span :=
  ⟨c.place, c.place⟩

/-- The next character as a part of the text. -/
def sign (c : Cursor) : Span :=
  ⟨c.place, c.next.place⟩

/-! ## Gaps -/

/-- The cursor behind blanks and comments, which reach from a number sign to the
    end of the line. `comment` tells that one has been opened. -/
def skipGapFrom (comment : Bool) : Text → Position → Cursor
  | [], p => ⟨[], p⟩
  | c :: rest, p =>
    if comment then skipGapFrom (c != '\n') rest (p.after c)
    else if c = '#' then skipGapFrom true rest (p.after c)
    else if Text.isBlank c then skipGapFrom false rest (p.after c)
    else ⟨c :: rest, p⟩

/-- The cursor behind what stands there for readers only, if the pattern is
    verbose. -/
def skipGap (verbose : Bool) (c : Cursor) : Cursor :=
  if verbose then skipGapFrom false c.rest c.place else c

/-- The cursor behind the next character and the gap after it. -/
def step (verbose : Bool) (c : Cursor) : Cursor :=
  c.next.skipGap verbose

/-- The character behind the next one. In a verbose pattern blanks are passed
    over, and with them one number sign; if nothing else is left, the character
    right behind the next one counts. -/
def second? (verbose : Bool) (c : Cursor) : Option Char :=
  let rest := c.next.rest
  if verbose then
    let shown :=
      match rest.dropWhile Text.isBlank with
      | '#' :: rest => rest.dropWhile Text.isBlank
      | rest => rest
    shown.head?.or rest.head?
  else rest.head?

end Cursor
end Search
end Tagdown
