/-
  Tagdown.Settings.KeyPath

  Paths to places in a tree of settings, such as `tags.extra[0].marker`, and
  the change of the value at such a place.

  Places that do not exist are made: a value that is no table gives way to a
  table, one that is no list to a list, and a list is filled up with unset
  items. A negative index counts from the end of a list.
-/

import Tagdown.Settings.Setting

namespace Tagdown

/-- One step down a tree of settings. -/
inductive KeyStep where
  | child (key : Text)
  | index (i : Int)
  deriving DecidableEq, Repr

/-- A path to a place in a tree of settings. -/
structure KeyPath where
  head : Text
  steps : List KeyStep
  deriving DecidableEq, Repr

namespace KeyPath

/-! ## Reading -/

/-- The character may stand in a key of a path. -/
def isKeyChar (c : Char) : Bool :=
  c.isAlphanum || c == '_' || c == '-' || c == ' '

/-- A space or a tab. -/
def isGap (c : Char) : Bool :=
  c == ' ' || c == '\t'

/-- The number in brackets that are open: gaps, an optional minus sign and
    digits, gaps again, then the closing bracket. It fits into 64 bits with a
    sign. -/
def readIndex? (t : Text) : Option (Int × Text) :=
  let t := t.dropWhile isGap
  let (negative, t) :=
    match t with
    | '-' :: rest => (true, rest)
    | _ => (false, t)
  let digits := t.takeWhile Char.isDigit
  let size := Text.digitsValue 0 digits
  match digits, (t.dropWhile Char.isDigit).dropWhile isGap with
  | _ :: _, ']' :: rest =>
    if negative ∧ size ≤ pow2 63 then some (-(size : Int), rest)
    else if !negative ∧ size < pow2 63 then some (size, rest)
    else none
  | _, _ => none

/-- The steps of a path, at most `fuel` of them, to the end of the text. -/
def readSteps? : Nat → Text → Option (List KeyStep)
  | _, [] => some []
  | 0, _ => none
  | fuel + 1, '.' :: rest =>
    let key := rest.takeWhile isKeyChar
    if key.isEmpty then none
    else (readSteps? fuel (rest.dropWhile isKeyChar)).map (.child key :: ·)
  | fuel + 1, '[' :: rest => do
    let (i, rest) ← readIndex? rest
    (readSteps? fuel rest).map (.index i :: ·)
  | _, _ => none

/-- The path that a text describes. -/
def ofText? (t : Text) : Option KeyPath :=
  let head := t.takeWhile isKeyChar
  if head.isEmpty then none
  else (readSteps? t.length (t.dropWhile isKeyChar)).map fun steps => ⟨head, steps⟩

/-! ## Changing a value -/

/-- The place of an index in a list of the given length. -/
def place (i : Int) (length : Nat) : Nat :=
  if 0 ≤ i then i.toNat else length - i.natAbs

/-- The list, filled up so that it has the place `i`. -/
def fillTo (i : Nat) (items : List Setting) : List Setting :=
  items ++ List.replicate (i + 1 - items.length) .unset

/-- The setting with `value` at the end of the steps. -/
def assign (value : Setting) : List KeyStep → Setting → Setting
  | [], _ => value
  -- A table that is put at the end of a path is merged into the one there.
  | [.child key], target => .table (Setting.put target.entries key value)
  | .child key :: steps, target =>
    let key := Text.lowercase key
    let old := (target.entries.get? key).getD .unset
    .table (target.entries.set key (assign value steps old))
  | .index i :: steps, target =>
    let i := place i target.items.length
    let items := fillTo i target.items
    .list (items.set i (assign value steps (items[i]?.getD .unset)))

/-- The tree with `value` at the place. -/
def set (path : KeyPath) (value : Setting) (root : Setting.Entries) : Setting.Entries :=
  (assign value (.child path.head :: path.steps) (.table root)).entries

end KeyPath
end Tagdown
