/-
  Tagdown.Search.Expression

  What patterns mean: expressions that take a text from some places to others,
  and the search for an expression in a text.

  A set of places is a row of marks, one for each place between the characters of
  the text and at its ends. An expression maps the places where it may start to
  the places where it may end then. A repetition that has been gone through as
  often as the text has places reaches nothing new, so counts are cut there.
-/

import Tagdown.Text.CharSet

namespace Tagdown
namespace Search

/-! ## Places -/

/-- A place in a text, by the characters on its two sides. -/
structure Place where
  before : Option Char
  after : Option Char
  deriving DecidableEq, Repr

namespace Place

/-- The places of a text behind the character `before`. -/
def row (before : Option Char) : Text → List Place
  | [] => [⟨before, none⟩]
  | c :: rest => ⟨before, some c⟩ :: row (some c) rest

/-- All places of a text. -/
def all (t : Text) : List Place :=
  row none t

end Place

/-- A condition on a place. Words are made of the characters of `word`. -/
inductive Look where
  | textStart
  | textEnd
  | lineStart
  | lineEnd
  /-- At the start of a line that may also end with a carriage return. -/
  | returnStart
  | returnEnd
  | wordEdge (word : CharSet)
  | noWordEdge (word : CharSet)
  | wordStart (word : CharSet)
  | wordEnd (word : CharSet)
  | noWordBefore (word : CharSet)
  | noWordAfter (word : CharSet)

namespace Look

/-- The condition is met at a place. -/
def holds (p : Place) : Look → Bool
  | textStart => p.before.isNone
  | textEnd => p.after.isNone
  | lineStart => p.before.all (· == '\n')
  | lineEnd => p.after.all (· == '\n')
  | returnStart =>
    p.before.all (· == '\n') || (p.before == some '\r' && p.after != some '\n')
  | returnEnd =>
    p.after.all (· == '\r') || (p.after == some '\n' && p.before != some '\r')
  | wordEdge word => p.before.any word.holds != p.after.any word.holds
  | noWordEdge word => p.before.any word.holds == p.after.any word.holds
  | wordStart word => !p.before.any word.holds && p.after.any word.holds
  | wordEnd word => p.before.any word.holds && !p.after.any word.holds
  | noWordBefore word => !p.before.any word.holds
  | noWordAfter word => !p.after.any word.holds

end Look

/-- What a pattern means. -/
inductive Expression where
  /-- Nothing, at any place. -/
  | empty
  /-- One character of a set. -/
  | chars (set : CharSet)
  | look (l : Look)
  /-- One expression, then another. -/
  | seq (first second : Expression)
  /-- One of two expressions. -/
  | alt (first second : Expression)
  /-- An expression at least `least` times, and at most `most` times if that is
      given. -/
  | repeated (least : Nat) (most : Option Nat) (inner : Expression)
  /-- An expression of which is remembered what it matches. -/
  | remembered (inner : Expression)

/-- A set of places of a text: for each one whether it is in the set. -/
abbrev Marks := List Bool

namespace Marks

/-- The places of both sets. -/
def union (a b : Marks) : Marks :=
  List.zipWith (· || ·) a b

/-- The places of the first set that are not in the second. -/
def diff (a b : Marks) : Marks :=
  List.zipWith (fun x y => x && !y) a b

/-- There is a place in the set. -/
def isSome (m : Marks) : Bool :=
  m.any id

/-- The places of a set that meet a condition. -/
def keep (p : Place → Bool) (places : List Place) (m : Marks) : Marks :=
  List.zipWith (fun place x => x && p place) places m

/-- The places behind the characters of a set that come at places of `m`. -/
def advance (set : CharSet) (places : List Place) (m : Marks) : Marks :=
  match keep (fun p => p.after.any set.holds) places m with
  | [] => []
  | x :: rest => false :: (x :: rest).dropLast

/-- What `f` leads to when it is gone through `count` times. -/
def power (f : Marks → Marks) : Nat → Marks → Marks
  | 0, m => m
  | count + 1, m => if m.isSome then power f count (f m) else m

/-- The places of `seen`, and those that `f` leads to from `front` in at most
    `count` times. -/
def spread (f : Marks → Marks) : Nat → Marks → Marks → Marks
  | 0, seen, _ => seen
  | count + 1, seen, front =>
    let fresh := (f front).diff seen
    if fresh.isSome then spread f count (seen.union fresh) fresh else seen

end Marks

namespace Expression

/-- The places where the expression may end if it starts at one of `m`. -/
def ends (places : List Place) : Expression → Marks → Marks
  | empty, m => m
  | chars set, m => m.advance set places
  | look l, m => m.keep (l.holds ·) places
  | seq a b, m => ends places b (ends places a m)
  | alt a b, m => (ends places a m).union (ends places b m)
  | repeated least most inner, m =>
    let start := Marks.power (ends places inner) (min least places.length) m
    let more := (most.map (· - least)).getD places.length
    Marks.spread (ends places inner) (min more places.length) start start
  | remembered inner, m => ends places inner m

/-- The expression occurs in the text. -/
def occursIn (e : Expression) (t : Text) : Bool :=
  let places := Place.all t
  (e.ends places (places.map fun _ => true)).isSome

/-! ## Making -/

/-- The expression matches the empty text only, if anything. -/
def isWidthless : Expression → Bool
  | empty | look _ => true
  | chars _ => false
  | seq a b | alt a b => isWidthless a && isWidthless b
  | repeated _ most inner => most == some 0 || isWidthless inner
  | remembered inner => isWidthless inner

/-- One expression, then another, without those that are empty. -/
def andThen : Expression → Expression → Expression
  | empty, b => b
  | a, empty => a
  | a, b => seq a b

/-- One of several expressions; one character, if each of them is. -/
def oneOf (es : List Expression) : Expression :=
  let sets := es.filterMap fun
    | chars set => some set
    | _ => none
  if sets.length = es.length then chars (.unions sets)
  else
    match es.reverse with
    | [] => chars .empty
    | last :: before => before.foldl (fun rest e => alt e rest) last

/-- An expression at least `least` and at most `most` times. What matches the
    empty text only need not be repeated. -/
def times (least : Nat) (most : Option Nat) (inner : Expression) : Expression :=
  let (least, most) :=
    if inner.isWidthless then (min least 1, some ((most.map (min · 1)).getD 1)) else (least, most)
  if most = some 0 then empty
  else if least = 1 ∧ most = some 1 then inner
  else repeated least most inner

end Expression
end Search
end Tagdown
