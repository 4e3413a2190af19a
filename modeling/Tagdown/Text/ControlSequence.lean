/-
  Tagdown.Text.ControlSequence

  Removal of what a text holds for a terminal only: control characters and the
  sequences that an escape character opens. A reported step is cleaned this way
  before it is written.

  A sequence is followed place by place. Tabs, line feeds, form feeds and
  carriage returns are never dropped between its characters: they suspend the
  sequence, and all that follows is kept until the next control character, which
  takes the sequence up again where it stood.
-/

import Tagdown.Text.Basic

namespace Tagdown
namespace ControlSequence

/-- Where a text stands with respect to control sequences. -/
inductive Place where
  /-- In no sequence. -/
  | outside
  /-- Behind the escape character. -/
  | escape
  /-- Behind the escape character and signs that leave its meaning open. -/
  | selector
  /-- In the parameters of a sequence that opens with `[`. -/
  | parameters
  /-- At the start of a string for the device, which opens with `P`. -/
  | device
  /-- In the parameters of a string for the device. -/
  | deviceParameters
  /-- Behind the parameters of a string for the device. -/
  | deviceSelector
  /-- In a string that lasts up to its terminator. -/
  | string
  /-- In a command for the system, which opens with `]`. -/
  | command
  deriving DecidableEq, Repr

/-- The code of the character lies between the two, ends included. -/
def between (c : Char) (first last : Nat) : Bool :=
  first ≤ c.toNat && c.toNat ≤ last

/-- A tab, line feed, form feed or carriage return. -/
def isLayout (c : Char) : Bool :=
  c == '\t' || c == '\n' || c == '\x0c' || c == '\r'

/-- The character is kept outside of sequences. -/
def isShown (c : Char) : Bool :=
  isLayout c || (0x20 ≤ c.toNat && c.toNat != 0x7F)

/-- The character ends a string: its UTF-8 form has the byte of the string
    terminator. -/
def endsString (c : Char) : Bool :=
  (String.utf8EncodeChar c).contains 0x9C

namespace Place

/-- The place behind an escape character and `c`. -/
def afterEscape (c : Char) : Place :=
  if between c 0x20 0x2F then selector
  else if c = '[' then parameters
  else if c = ']' then command
  else if c = 'P' then device
  else if c = 'X' ∨ c = '^' ∨ c = '_' then string
  else if between c 0x30 0x7E then outside
  else escape

/-- The place behind a character that is dropped. A cancel or substitute
    character ends every sequence, and an escape character opens a new one. -/
def next (p : Place) (c : Char) : Place :=
  if c = '\x18' ∨ c = '\x1a' then outside
  else if c = '\x1b' then escape
  else
    match p with
    | outside => outside
    | escape => afterEscape c
    | selector => if between c 0x30 0x7E then outside else selector
    | parameters => if between c 0x40 0x7E then outside else parameters
    | device =>
      if between c 0x20 0x2F then deviceSelector
      else if between c 0x30 0x3F then deviceParameters
      else if between c 0x40 0x7E then string
      else device
    | deviceParameters =>
      if between c 0x20 0x2F then deviceSelector
      else if between c 0x3C 0x7E then string
      else deviceParameters
    | deviceSelector => if between c 0x30 0x7E then string else deviceSelector
    | string => if endsString c then outside else string
    | command => if c = '\x07' then outside else command

/-- Layout characters are kept at this place. -/
def keepsLayout : Place → Bool
  | outside | escape | selector | parameters => true
  | device | deviceParameters | deviceSelector | string | command => false

/-- The character is kept at this place. -/
def keeps (p : Place) (suspended : Bool) (c : Char) : Bool :=
  if suspended || p == outside then isShown c else isLayout c && p.keepsLayout

/-- The place behind a character that is kept. A character beyond ASCII ends a
    suspended sequence for good. -/
def afterKept (p : Place) (c : Char) : Place :=
  if c.toNat < 0x80 then p else outside

end Place

/-- What is kept of a text from a place on. -/
def cleanFrom (p : Place) (suspended : Bool) : Text → Text
  | [] => []
  | c :: rest =>
    if p.keeps suspended c then c :: cleanFrom (p.afterKept c) true rest
    else cleanFrom (p.next c) false rest

/-- The text without control characters and sequences. -/
def clean (t : Text) : Text :=
  cleanFrom .outside false t

end ControlSequence
end Tagdown
