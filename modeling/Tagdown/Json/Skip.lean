/-
  Tagdown.Json.Skip

  Passing over a JSON value of any kind. Its grammar is checked, but not that
  its numbers are finite nor that its surrogates come in pairs.
-/

import Tagdown.Json.Number

namespace Tagdown
namespace Json

/-- An open bracket. -/
inductive Frame where
  | array
  | object
  deriving DecidableEq, Repr

namespace Frame

/-- The character that closes the bracket. -/
def closing : Frame → Char
  | array => ']'
  | object => '\x7d'

end Frame

/-- The rest of the text after a string whose opening quote has been read. -/
def skipString : Nat → Text → Except Fault Text
  | 0, _ => .error .truncated
  | fuel + 1, t =>
    match t with
    | [] => .error .truncated
    | '"' :: rest => .ok rest
    | '\\' :: 'u' :: rest => do
      let (_, rest) ← readHex4 rest
      skipString fuel rest
    | '\\' :: c :: rest =>
      if (escaped? c).isSome then skipString fuel rest else .error .malformed
    | ['\\'] => .error .truncated
    | c :: rest => if c.toNat < 0x20 then .error .malformed else skipString fuel rest

/-- The rest of the text after the key of an object and its colon, which a
    bracket that is an object wants before each value. -/
def skipKey (frame : Frame) (t : Text) : Except Fault Text :=
  match frame with
  | .array => .ok t
  | .object =>
    match skipBlank t with
    | [] => .error .truncated
    | '"' :: rest => do
      let rest ← skipString (rest.length + 1) rest
      match skipBlank rest with
      | [] => throw .truncated
      | ':' :: rest => return rest
      | _ => throw .malformed
    | _ => .error .malformed

/-- Closes the open brackets that end here. The rest of the text then goes on
    with a value in the brackets that are still open; without any the value that
    is passed over has ended. `after` tells that a value has just ended. -/
def closeFrames (after : Bool) : List Frame → Text → Except Fault (List Frame × Text)
  | [], t => .ok ([], t)
  | frame :: frames, t =>
    match skipBlank t with
    | [] => .error .truncated
    | c :: rest =>
      if c = ',' ∧ after then do
        let rest ← skipKey frame rest
        return (frame :: frames, rest)
      else if c = frame.closing then closeFrames true frames rest
      else if after then .error .malformed
      else do
        let rest ← skipKey frame (c :: rest)
        return (frame :: frames, rest)

/-- The rest of the text after one value that is no array or object; the bracket
    that was opened, if it is one. -/
def skipToken (t : Text) : Except Fault (Option Frame × Text) :=
  match skipBlank t with
  | [] => .error .truncated
  | 'n' :: rest => do return (none, ← readWord "ull".toList rest)
  | 't' :: rest => do return (none, ← readWord "rue".toList rest)
  | 'f' :: rest => do return (none, ← readWord "alse".toList rest)
  | '"' :: rest => do return (none, ← skipString (rest.length + 1) rest)
  | '[' :: rest => .ok (some .array, rest)
  | '\x7b' :: rest => .ok (some .object, rest)
  | c :: rest =>
    if c = '-' ∨ c.isDigit then do
      let (_, rest) ← readNumber .malformed (c :: rest)
      return (none, rest)
    else .error .malformed

/-- Passes over values until no bracket is open, in at most `fuel` tokens. -/
def skipOpen : Nat → List Frame → Text → Except Fault Text
  | 0, _, _ => .error .truncated
  | fuel + 1, frames, t => do
    let (opened, rest) ← skipToken t
    let (frames, rest) ←
      match opened with
      | some frame => closeFrames false (frame :: frames) rest
      | none => closeFrames true frames rest
    if frames.isEmpty then return rest else skipOpen fuel frames rest

/-- The rest of the text after one value. -/
def skipValue (t : Text) : Except Fault Text :=
  skipOpen (t.length + 1) [] t

end Json
end Tagdown
