/-
  Tagdown.Search.Escape

  Reading of what a backslash opens: characters, classes of characters and places.
  The cursor is at the backslash unless something else is said.
-/

import Tagdown.Search.Term

namespace Tagdown
namespace Search

namespace Escape

/-- The character has a meaning of its own in patterns. -/
def isSyntax (c : Char) : Bool :=
  "\\.+*?()|[]\x7b\x7d^$#&-~".toList.contains c

/-- The character may stand behind a backslash and then stands for itself. -/
def standsForItself (c : Char) : Bool :=
  isSyntax c || (c.toNat < 0x80 && !c.isAlphanum && c != '<' && c != '>')

/-! ## Characters by number -/

/-- The value of a hexadecimal digit. -/
def hexValue? (c : Char) : Option Nat :=
  if c.isDigit then some (Text.digitValue c)
  else if 'a' ≤ c ∧ c ≤ 'f' then some (c.toNat - 'a'.toNat + 10)
  else if 'A' ≤ c ∧ c ≤ 'F' then some (c.toNat - 'A'.toNat + 10)
  else none

/-- The character with a number. -/
def charOf? (code : Nat) : Option Char :=
  if h : code.isValidChar then some (Char.ofNatAux code h) else none

/-- The value of a hexadecimal digit at the cursor. -/
def readHexDigit (c : Cursor) : Except Fault Nat :=
  match c.rest with
  | [] => flaw .escapeEnds c.point
  | digit :: _ =>
    match hexValue? digit with
    | some value => .ok value
    | none => flaw .hexDigit c.sign

/-- The value of `count` hexadecimal digits, those before them being worth
    `value`. -/
def readHexDigits (verbose : Bool) : Nat → Nat → Cursor → Except Fault (Nat × Cursor)
  | 0, value, c => .ok (value, c)
  | count + 1, value, c => do
    let digit ← readHexDigit c
    readHexDigits verbose count (16 * value + digit) (c.step verbose)

/-- The value of the hexadecimal digits up to a closing brace, if there are any,
    in at most `fuel` steps. `opening` is the place of the opening brace. -/
def readBracedDigits (verbose : Bool) (opening : Position) :
    Nat → Option Nat → Cursor → Except Fault (Option Nat × Cursor)
  | fuel, value?, c =>
    match c.rest, fuel with
    | [], _ => flaw .escapeEnds ⟨opening, c.place⟩
    | '\x7d' :: _, _ => .ok (value?, c)
    | _, 0 => .ok (value?, c)
    | _, fuel + 1 => do
      let digit ← readHexDigit c
      readBracedDigits verbose opening fuel (some (16 * value?.getD 0 + digit)) (c.step verbose)

/-- A character written with its number in braces. The cursor is at the opening
    one. -/
def readBracedHex (verbose : Bool) (start : Position) (c : Cursor) :
    Except Fault (Literal × Cursor) := do
  let opening := c.place
  let first := c.next.place
  let (value?, closing) ← readBracedDigits verbose opening c.rest.length none (c.step verbose)
  let c := closing.step verbose
  match value? with
  | none => flaw .hexEmpty ⟨opening, c.place⟩
  | some value =>
    match charOf? value with
    | none => flaw .hexNoChar ⟨first, closing.place⟩
    | some char => return (⟨⟨start, c.place⟩, char, false⟩, c)

/-- A character written with a number of `count` hexadecimal digits or with one
    in braces. The cursor is at the letter behind the backslash. -/
def readHex (verbose : Bool) (start : Position) (count : Nat) (c : Cursor) :
    Except Fault (Literal × Cursor) :=
  let c := c.step verbose
  match c.rest with
  | [] => flaw .escapeEnds c.point
  | '\x7b' :: _ => readBracedHex verbose start c
  | _ => do
    let (value, after) ← readHexDigits verbose count 0 c
    match charOf? value with
    | none => flaw .hexNoChar ⟨c.place, after.place⟩
    | some char => return (⟨⟨start, after.place⟩, char, count = 2⟩, after)

/-! ## Properties -/

/-- The text up to a closing brace, in at most `fuel` steps. -/
def readBracedName (verbose : Bool) : Nat → Cursor → Except Fault (Text × Cursor)
  | fuel, c =>
    match c.rest, fuel with
    | [], _ => flaw .escapeEnds c.point
    | '\x7d' :: _, _ => .ok ([], c.next)
    | _, 0 => .ok ([], c)
    | sign :: _, fuel + 1 => do
      let (name, after) ← readBracedName verbose fuel (c.step verbose)
      return (sign :: name, after)

/-- The texts before and after the first `mark`, if the text has one. -/
def cutAt? (mark : Text) : Text → Option (Text × Text)
  | [] => none
  | c :: rest =>
    if mark.isPrefixOf (c :: rest) then some ([], (c :: rest).drop mark.length)
    else (cutAt? mark rest).map fun (before, after) => (c :: before, after)

/-- What a name in braces asks for, and whether for all other characters. -/
def queryOf (name : Text) : Query × Bool :=
  match cutAt? "!=".toList name, cutAt? ":".toList name, cutAt? "=".toList name with
  | some (property, value), _, _ => (.value property value, true)
  | none, some (property, value), _ => (.value property value, false)
  | none, none, some (property, value) => (.value property value, false)
  | none, none, none => (.plain name, false)

/-- A class of characters with a property. The cursor is at the letter behind the
    backslash. -/
def readProperty (verbose : Bool) (start : Position) (negated : Bool) (c : Cursor) :
    Except Fault (Term × Cursor) :=
  let c := c.step verbose
  match c.rest with
  | [] => flaw .escapeEnds c.point
  | '\\' :: _ => flaw .propertySign c.sign
  | '\x7b' :: rest => do
    let (name, after) ← readBracedName verbose rest.length (c.step verbose)
    let (query, others) := queryOf name
    return (.property ⟨start, after.place⟩ query (negated != others), after)
  | sign :: _ =>
    let after := c.step verbose
    .ok (.property ⟨start, after.place⟩ (.plain [sign]) negated, after)

/-! ## Places -/

/-- The character may stand in the name of a place. -/
def isEdgeChar (c : Char) : Bool :=
  c.isAlpha || c == '-'

/-- The characters that may stand in the name of a place, in at most `fuel`
    steps. -/
def readEdgeName (verbose : Bool) : Nat → Cursor → Text × Cursor
  | 0, c => ([], c)
  | fuel + 1, c =>
    match c.rest with
    | [] => ([], c)
    | sign :: _ =>
      if isEdgeChar sign then
        let (name, after) := readEdgeName verbose fuel (c.step verbose)
        (sign :: name, after)
      else ([], c)

/-- The place at the edge of a word that has a name. -/
def edgeOf? (name : Text) : Option Edge :=
  ([("start", .wordStart), ("end", .wordEnd), ("start-half", .noWordBefore),
    ("end-half", .noWordAfter)].find? fun (word, _) => word.toList == name).map (·.2)

/-- The edge of a word, perhaps of a kind named in braces. The cursor is behind
    the letter. Braces that do not open with a name belong to a count. -/
def readEdge (verbose : Bool) (start : Position) (c : Cursor) :
    Except Fault (Term × Cursor) :=
  match c.rest with
  | '\x7b' :: rest =>
    let inner := c.step verbose
    match inner.rest with
    | [] => flaw .edgeEnds ⟨start, inner.place⟩
    | sign :: _ =>
      if isEdgeChar sign then
        let (name, after) := readEdgeName verbose rest.length inner
        if after.rest.head? = some '\x7d' then
          match edgeOf? name with
          | some edge => .ok (.edge ⟨start, after.next.place⟩ edge, after.next)
          | none => flaw .edgeUnknown ⟨inner.place, after.place⟩
        else flaw .edgeUnclosed ⟨c.place, after.place⟩
      else .ok (.edge ⟨start, c.place⟩ .wordEdge, c)
  | _ => .ok (.edge ⟨start, c.place⟩ .wordEdge, c)

/-! ## All escapes -/

/-- The character that a letter behind a backslash stands for. -/
def charOfLetter? : Char → Option Char
  | 'a' => some '\x07'
  | 'f' => some '\x0c'
  | 't' => some '\t'
  | 'n' => some '\n'
  | 'r' => some '\r'
  | 'v' => some '\x0b'
  | _ => none

/-- The class that a letter behind a backslash stands for, and whether for all
    other characters. -/
def classOfLetter? : Char → Option (LetterClass × Bool)
  | 'd' => some (.digit, false)
  | 's' => some (.space, false)
  | 'w' => some (.word, false)
  | 'D' => some (.digit, true)
  | 'S' => some (.space, true)
  | 'W' => some (.word, true)
  | _ => none

/-- The place that a sign behind a backslash stands for. -/
def edgeOfSign? : Char → Option Edge
  | 'A' => some .textStart
  | 'z' => some .textEnd
  | 'B' => some .noWordEdge
  | '<' => some .wordStart
  | '>' => some .wordEnd
  | _ => none

/-- An escape of one sign. The cursor is behind it. -/
def readSign (verbose : Bool) (start : Position) (sign : Char) (c : Cursor) :
    Except Fault (Term × Cursor) :=
  let span : Span := ⟨start, c.place⟩
  if standsForItself sign then .ok (.literal ⟨span, sign, false⟩, c)
  else if sign = 'b' then readEdge verbose start c
  else
    match charOfLetter? sign, classOfLetter? sign, edgeOfSign? sign with
    | some char, _, _ => .ok (.literal ⟨span, char, false⟩, c)
    | none, some (name, negated), _ => .ok (.letter span name negated, c)
    | none, none, some edge => .ok (.edge span edge, c)
    | none, none, none => flaw .escapeUnknown span

/-- The number of digits of a character that is written with its number. -/
def hexLength? : Char → Option Nat
  | 'x' => some 2
  | 'u' => some 4
  | 'U' => some 8
  | _ => none

/-- What a backslash opens. -/
def read (verbose : Bool) (c : Cursor) : Except Fault (Term × Cursor) :=
  let start := c.place
  let c := c.next
  match c.rest with
  | [] => flaw .escapeEnds ⟨start, c.place⟩
  | sign :: _ =>
    if sign.isDigit then flaw .backreference ⟨start, c.next.place⟩
    else if sign = 'p' ∨ sign = 'P' then readProperty verbose start (sign = 'P') c
    else
      match hexLength? sign with
      | some count => do
        let (l, after) ← readHex verbose start count c
        return (.literal l, after)
      | none => readSign verbose start sign c.next

end Escape
end Search
end Tagdown
