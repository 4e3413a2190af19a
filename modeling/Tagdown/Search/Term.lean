/-
  Tagdown.Search.Term

  Patterns as they are written: every part with the place where it stands.
-/

import Tagdown.Search.Fault

namespace Tagdown
namespace Search

/-- A setting that a pattern can switch on and off. -/
inductive Flag where
  | caseless
  | multiLine
  | dotAll
  | lazy
  | unicode
  | carriageReturn
  | verbose
  deriving DecidableEq, Repr

/-- A flag and whether it is switched on. -/
structure FlagChange where
  flag : Flag
  on : Bool
  deriving DecidableEq, Repr

/-- A character of a pattern. -/
structure Literal where
  span : Span
  char : Char
  /-- It is written as the two digits of a byte. -/
  isByte : Bool
  deriving DecidableEq, Repr

/-- A class of characters with a letter of its own. -/
inductive LetterClass where
  | digit
  | space
  | word
  deriving DecidableEq, Repr

/-- A class of ASCII characters with a name. -/
inductive AsciiClass where
  | alnum
  | alpha
  | ascii
  | blank
  | cntrl
  | digit
  | graph
  | lower
  | print
  | punct
  | space
  | upper
  | word
  | xdigit
  deriving DecidableEq, Repr

/-- What asks for the characters with a property. -/
inductive Query where
  /-- A property, general category or script. -/
  | plain (name : Text)
  /-- The characters that have one value of a property. -/
  | value (property value : Text)
  deriving DecidableEq, Repr

/-- The ways to combine two sets in brackets. -/
inductive SetOp where
  | inter
  | diff
  | symmDiff
  deriving DecidableEq, Repr

/-- A place that a pattern asks for. -/
inductive Edge where
  | lineStart
  | lineEnd
  | textStart
  | textEnd
  | wordEdge
  | noWordEdge
  | wordStart
  | wordEnd
  | noWordBefore
  | noWordAfter
  deriving DecidableEq, Repr

/-- What stands in brackets, and the brackets with it. -/
inductive SetTerm where
  | empty (span : Span)
  | literal (l : Literal)
  | range (span : Span) (first last : Literal)
  | ascii (span : Span) (name : AsciiClass) (negated : Bool)
  | letter (span : Span) (name : LetterClass) (negated : Bool)
  | property (span : Span) (query : Query) (negated : Bool)
  | bracket (span : Span) (negated : Bool) (inner : SetTerm)
  | union (span : Span) (items : List SetTerm)
  | op (span : Span) (op : SetOp) (left right : SetTerm)

/-- A pattern as it is written. -/
inductive Term where
  | empty (span : Span)
  | flags (span : Span) (changes : List FlagChange)
  | literal (l : Literal)
  | dot (span : Span)
  | edge (span : Span) (edge : Edge)
  | letter (span : Span) (name : LetterClass) (negated : Bool)
  | property (span : Span) (query : Query) (negated : Bool)
  | bracket (set : SetTerm)
  | repeated (span : Span) (least : Nat) (most : Option Nat) (inner : Term)
  /-- A group. What a remembered one matches can be asked for afterwards. -/
  | group (span : Span) (remembered : Bool) (changes : List FlagChange) (inner : Term)
  | alternation (span : Span) (branches : List Term)
  | concat (span : Span) (items : List Term)

namespace SetTerm

/-- Where the part stands. -/
def span : SetTerm → Span
  | literal l => l.span
  | empty s | range s _ _ | ascii s _ _ | letter s _ _ | property s _ _ | bracket s _ _
  | union s _ | op s _ _ _ => s

mutual

/-- The first part that is nested deeper than `room` allows. -/
def tooDeep? (room : Nat) : SetTerm → Option Span
  | empty _ | literal _ | range _ _ _ | ascii _ _ _ | letter _ _ _ | property _ _ _ => none
  | bracket s _ inner => if room = 0 then some s else tooDeep? (room - 1) inner
  | union s items => if room = 0 then some s else anyTooDeep? (room - 1) items
  | op s _ left right =>
    if room = 0 then some s
    else (tooDeep? (room - 1) left).or (tooDeep? (room - 1) right)

/-- The first of several parts that is nested deeper than `room` allows. -/
def anyTooDeep? (room : Nat) : List SetTerm → Option Span
  | [] => none
  | item :: items => (tooDeep? room item).or (anyTooDeep? room items)

end

end SetTerm

namespace Term

/-- Where the part stands. -/
def span : Term → Span
  | literal l => l.span
  | bracket set => set.span
  | empty s | flags s _ | dot s | edge s _ | letter s _ _ | property s _ _ | repeated s _ _ _
  | group s _ _ _ | alternation s _ | concat s _ => s

/-- There is something to repeat. -/
def isRepeatable : Term → Bool
  | empty _ | flags _ _ => false
  | _ => true

mutual

/-- The first part that is nested deeper than `room` allows. -/
def tooDeep? (room : Nat) : Term → Option Span
  | empty _ | flags _ _ | literal _ | dot _ | edge _ _ | letter _ _ _ | property _ _ _ => none
  | bracket set => set.tooDeep? room
  | repeated s _ _ inner => if room = 0 then some s else tooDeep? (room - 1) inner
  | group s _ _ inner => if room = 0 then some s else tooDeep? (room - 1) inner
  | alternation s branches => if room = 0 then some s else anyTooDeep? (room - 1) branches
  | concat s items => if room = 0 then some s else anyTooDeep? (room - 1) items

/-- The first of several parts that is nested deeper than `room` allows. -/
def anyTooDeep? (room : Nat) : List Term → Option Span
  | [] => none
  | item :: items => (tooDeep? room item).or (anyTooDeep? room items)

end

end Term
end Search
end Tagdown
