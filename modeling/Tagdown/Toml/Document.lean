/-
  Tagdown.Toml.Document

  Reading of TOML documents into settings.
-/

import Tagdown.Toml.Number
import Tagdown.Toml.Table

namespace Tagdown
namespace Toml

/-! ## Keys -/

/-- The character may stand in a key without quotes. -/
def isBareKeyChar (c : Char) : Bool :=
  c.isAlphanum || c == '_' || c == '-'

/-- A key of one part. -/
def readSimpleKey? (t : Text) : Option (Text × Text) :=
  match t with
  | '"' :: rest => readShort? basicPiece? rest
  | '\'' :: rest => readShort? literalPiece? rest
  | _ =>
    let key := t.takeWhile isBareKeyChar
    if key.isEmpty then none else some (key, t.dropWhile isBareKeyChar)

/-- The parts of a key with dots between them, at most `fuel` of them. The
    blanks around the parts belong to the key. -/
def readKey? : Nat → Text → Option (List Text × Text)
  | 0, _ => none
  | fuel + 1, t => do
    let (part, rest) ← readSimpleKey? (skipSpace t)
    match skipSpace rest with
    | '.' :: rest =>
      let (parts, rest) ← readKey? fuel rest
      return (part :: parts, rest)
    | rest => return ([part], rest)

/-- Brackets and the parts of a key are nested less deep than this. -/
def depthLimit : Nat := 80

/-- The parts of a key before the last and the last one. -/
def splitKey? (parts : List Text) : Option (List Text × Text) :=
  parts.getLast?.map fun last => (parts.dropLast, last)

/-- A key as the path to its table and the name in it. -/
def readPath? (t : Text) : Option ((List Text × Text) × Text) := do
  let (parts, rest) ← readKey? (depthLimit - 1) t
  return (← splitKey? parts, rest)

/-! ## Values -/

/-- The rest of the text after a word. -/
def afterWord? (word : Text) (t : Text) : Option Text :=
  if word.isPrefixOf t then some (t.drop word.length) else none

/-- A value without brackets. -/
def readScalar? (t : Text) : Option (Value × Text) :=
  match t with
  | '"' :: _ => (readString? t).map fun (s, rest) => (.text s, rest)
  | '\'' :: _ => (readString? t).map fun (s, rest) => (.text s, rest)
  | 't' :: _ => (afterWord? "true".toList t).map fun rest => (.bool true, rest)
  | 'f' :: _ => (afterWord? "false".toList t).map fun rest => (.bool false, rest)
  | _ =>
    if opensMoment t then (readMoment? t).map fun (s, rest) => (.moment s, rest)
    else readNumber? t

mutual

/-- The value that comes next, inside `depth` brackets. -/
def readValue? : Nat → Nat → Text → Option (Value × Text)
  | 0, _, _ => none
  | fuel + 1, depth, t =>
    match t with
    | '[' :: rest =>
      if depth + 1 < depthLimit then do
        let (items, rest) ← readItems? fuel (depth + 1) rest
        return (.list items, rest)
      else none
    | '\x7b' :: rest =>
      if depth + 1 < depthLimit then
        match skipSpace rest with
        | '\x7d' :: rest => some (.table [], rest)
        | rest => do
          let (items, rest) ← readPairs? fuel (depth + 1) [] rest
          return (.table (valuesOf items), rest)
      else none
    | _ => readScalar? t

/-- The items of an array up to its closing bracket. -/
def readItems? : Nat → Nat → Text → Option (List Value × Text)
  | 0, _, _ => none
  | fuel + 1, depth, t =>
    match skipLines t.length t with
    | ']' :: rest => some ([], rest)
    | t => do
      let (item, rest) ← readValue? fuel depth t
      match skipLines rest.length rest with
      | ',' :: rest =>
        let (items, rest) ← readItems? fuel depth rest
        return (item :: items, rest)
      | ']' :: rest => return ([item], rest)
      | _ => none

/-- The pairs of an inline table up to its closing brace, after those in
    `items`. -/
def readPairs? : Nat → Nat → Items → Text → Option (Items × Text)
  | 0, _, _, _ => none
  | fuel + 1, depth, items, t => do
    let ((path, key), rest) ← readPath? t
    match rest with
    | '=' :: rest =>
      let (value, rest) ← readValue? fuel depth (skipSpace rest)
      let items ← items.insert? path key value
      match skipSpace rest with
      | ',' :: rest => readPairs? fuel depth items rest
      | '\x7d' :: rest => return (items, rest)
      | _ => none
    | _ => none

end

/-! ## Documents -/

/-- A document as far as it is read: its items and the path of the last header. -/
structure Draft where
  items : Items
  header : List Text

/-- Reads a pair of a key and a value, to the end of its line. -/
def readPair? (d : Draft) (t : Text) : Option (Draft × Text) := do
  let ((path, key), rest) ← readPath? t
  match rest with
  | '=' :: rest =>
    let (value, rest) ← readValue? (2 * t.length + 2) 0 (skipSpace rest)
    let rest ← afterLine? rest
    return ({ d with items := ← d.items.insertUnder? d.header path key value }, rest)
  | _ => none

/-- Reads a header, behind its first bracket, to the end of its line. -/
def readHeader? (d : Draft) (t : Text) : Option (Draft × Text) :=
  match t with
  | '[' :: t => do
    let ((path, key), rest) ← readPath? t
    match rest with
    | ']' :: ']' :: rest =>
      let rest ← afterLine? rest
      return (⟨← d.items.openSeries? path key, path ++ [key]⟩, rest)
    | _ => none
  | _ => do
    let ((path, key), rest) ← readPath? t
    match rest with
    | ']' :: rest =>
      let rest ← afterLine? rest
      return (⟨← d.items.openTable? path key, path ++ [key]⟩, rest)
    | _ => none

/-- Reads the lines of a document, at most `fuel` of them. -/
def readLines? : Nat → Draft → Text → Option Draft
  | 0, _, _ => none
  | fuel + 1, d, t =>
    match skipLines t.length t with
    | [] => some d
    | '[' :: rest => do
      let (d, rest) ← readHeader? d rest
      readLines? fuel d rest
    | t => do
      let (d, rest) ← readPair? d t
      readLines? fuel d rest

/-- The settings of a document. A byte order mark in front of it does not count. -/
def parse? (t : Text) : Option Setting.Entries := do
  let t :=
    match t with
    | '\uFEFF' :: rest => rest
    | _ => t
  let d ← readLines? (t.length + 1) ⟨[], []⟩ t
  match ← (Value.table (valuesOf d.items)).toSetting? with
  | .table entries => return entries
  | _ => none

end Toml
end Tagdown
