/-
  Tagdown.Toml.Table

  Tables while they are being read. A table remembers how it came to be, which
  decides whether it may be opened or extended once more:

    * `implied` tables stand in the path of another header,
    * `dotted` tables stand in the path of a dotted key,
    * `opened` tables have a header of their own.
-/

import Tagdown.Toml.Value

namespace Tagdown
namespace Toml

/-- How a table came to be. -/
inductive Origin where
  | implied
  | dotted
  | opened
  deriving DecidableEq, Repr

/-- What stands under a key of a table. -/
inductive Item where
  | value (v : Value)
  | table (origin : Origin) (entries : List (Text × Item))
  /-- The tables of an array of tables but the last, and the last one. -/
  | series (earlier : List (List (Text × Item))) (latest : List (Text × Item))

/-- The items of a table, in order. -/
abbrev Items := List (Text × Item)

namespace Items

/-- The item of a key. -/
def get? (key : Text) : Items → Option Item
  | [] => none
  | (k, item) :: rest => if k = key then some item else get? key rest

/-- The items with one for the key, in the place of the old one if there is
    one. -/
def set (key : Text) (item : Item) : Items → Items
  | [] => [(key, item)]
  | (k, old) :: rest => if k = key then (key, item) :: rest else (k, old) :: set key item rest

/-- Changes the table at the end of a path, which starts in a table of the given
    origin. Tables that are missing on the way come to be as `made`; those that
    have a header are not entered for a dotted key. -/
def change? (made : Origin) (change : Origin → Items → Option Items) :
    List Text → Origin → Items → Option Items
  | [], origin, items => change origin items
  | key :: path, _, items =>
    match get? key items with
    | none => do
      let inner ← change? made change path made []
      return set key (.table made inner) items
    | some (.table origin inner) =>
      if made = .dotted ∧ origin = .opened then none
      else do
        let inner ← change? made change path origin inner
        return set key (.table origin inner) items
    | some (.series earlier latest) => do
      let latest ← change? made change path .opened latest
      return set key (.series earlier latest) items
    | some (.value _) => none

/-- Adds a value under a dotted key to a table. A key of one part goes into the
    table itself, a longer one only into a table that dotted keys made. -/
def insert? (path : List Text) (key : Text) (value : Value) (items : Items) : Option Items :=
  change? .dotted
    (fun origin items =>
      -- A table with a header is closed for the dotted keys of other tables.
      if path ≠ [] ∧ origin ≠ .dotted then none
      else if (get? key items).isSome then none
      else some (set key (.value value) items))
    path .opened items

/-- The items without the one of a key. -/
def erase (key : Text) (items : Items) : Items :=
  items.filter (·.1 != key)

/-- Opens the table of a header. A table that is there already moves to the end
    of the items. -/
def openTable? (path : List Text) (key : Text) (items : Items) : Option Items :=
  change? .implied
    (fun _ items =>
      match get? key items with
      | none => some (set key (.table .opened []) items)
      | some (.table .implied inner) => some (erase key items ++ [(key, .table .opened inner)])
      | _ => none)
    path .opened items

/-- Adds a table to the array of tables of a header. -/
def openSeries? (path : List Text) (key : Text) (items : Items) : Option Items :=
  change? .implied
    (fun _ items =>
      match get? key items with
      | none => some (set key (.series [] []) items)
      | some (.series earlier latest) => some (set key (.series (earlier ++ [latest]) []) items)
      | _ => none)
    path .opened items

/-- Adds a value to the table of the last header. -/
def insertUnder? (header : List Text) (path : List Text) (key : Text) (value : Value)
    (items : Items) : Option Items :=
  change? .implied (fun _ items => insert? path key value items) header .opened items

end Items

mutual

/-- The value that an item is. -/
def Item.toValue : Item → Value
  | .value v => v
  | .table _ entries => .table (valuesOf entries)
  | .series earlier latest => .list (tablesOf earlier ++ [.table (valuesOf latest)])

/-- The values that the items are. -/
def valuesOf : List (Text × Item) → List (Text × Value)
  | [] => []
  | (key, item) :: rest => (key, item.toValue) :: valuesOf rest

/-- The values that the tables of an array are. -/
def tablesOf : List (List (Text × Item)) → List Value
  | [] => []
  | items :: rest => .table (valuesOf items) :: tablesOf rest

end

end Toml
end Tagdown
