/-
  Tagdown.Json.Record

  Reading of records: objects with a fixed set of fields. A record may also be
  written as an array of its fields in order. Fields of other names are passed
  over; a field that is missing or given twice is a mismatch.
-/

import Tagdown.Json.Skip

namespace Tagdown
namespace Json

/-- A kind of record: the names of its fields in order, and how the value of
    each field is read. -/
structure Record (α : Type) where
  names : List Text
  readField : Nat → Text → Except Fault (α × Text)

/-- The fault of a value of the wrong kind. A value that is no array or object
    is read to its end first, so what is wrong in it comes before. -/
def wrongKind (t : Text) : Fault :=
  let faultOf {α : Type} : Except Fault α → Fault
    | .error fault => fault
    | .ok _ => .mismatched
  match t with
  | 'n' :: rest => faultOf (readWord "ull".toList rest)
  | 't' :: rest => faultOf (readWord "rue".toList rest)
  | 'f' :: rest => faultOf (readWord "alse".toList rest)
  | '"' :: rest => faultOf (readString rest)
  | '[' :: _ => .mismatched
  | '\x7b' :: _ => .mismatched
  | c :: rest =>
    if c = '-' ∨ c.isDigit then
      match readNumber .truncated (c :: rest) with
      | .error fault => fault
      | .ok (number, _) =>
        if number.toBinary64?.isSome then .mismatched else .malformed
    else .malformed
  | [] => .truncated

/-! ## Single values -/

/-- The number that comes next. -/
def readNumberValue (t : Text) : Except Fault (NumberToken × Text) :=
  match skipBlank t with
  | [] => .error .truncated
  | c :: rest =>
    if c = '-' ∨ c.isDigit then readNumber .truncated (c :: rest)
    else .error (wrongKind (c :: rest))

/-- The count that comes next. -/
def readCount (t : Text) : Except Fault (Nat × Text) := do
  let (number, rest) ← readNumberValue t
  match number.toCount?, number.toBinary64? with
  | some n, _ => return (n, rest)
  | none, some _ => throw .mismatched
  | none, none => throw .malformed

/-- The binary64 number that comes next. -/
def readBinary64 (t : Text) : Except Fault (Binary64 × Text) := do
  let (number, rest) ← readNumberValue t
  match number.toBinary64? with
  | some x => return (x, rest)
  | none => throw .malformed

/-- The string that comes next. -/
def readText (t : Text) : Except Fault (Text × Text) :=
  match skipBlank t with
  | [] => .error .truncated
  | '"' :: rest => readString rest
  | t => .error (wrongKind t)

/-! ## Objects -/

/-- What comes next in an object: its end, or a key whose opening quote has been
    read. -/
inductive KeyStep where
  | close (rest : Text)
  | key (rest : Text)

/-- The next key of an object. All but the first come after a comma. -/
def keyStep (first : Bool) (t : Text) : Except Fault KeyStep :=
  match skipBlank t with
  | [] => .error .truncated
  | '\x7d' :: rest => .ok (.close rest)
  | '"' :: rest => if first then .ok (.key rest) else .error .malformed
  | ',' :: rest =>
    if first then .error .malformed
    else
      match skipBlank rest with
      | [] => .error .truncated
      | '"' :: rest => .ok (.key rest)
      | _ => .error .malformed
  | _ => .error .malformed

/-- The rest of the text after the colon behind a key. -/
def readColon (t : Text) : Except Fault Text :=
  match skipBlank t with
  | [] => .error .truncated
  | ':' :: rest => .ok rest
  | _ => .error .malformed

namespace Record

variable {α : Type}

/-- Reads fields up to the end of the object, at most `fuel` of them. `filled`
    holds the values read so far. -/
def readFields (r : Record α) :
    Nat → Bool → List (Option α) → Text → Except Fault (List (Option α) × Text)
  | 0, _, _, _ => .error .truncated
  | fuel + 1, first, filled, t => do
    match ← keyStep first t with
    | .close rest => return (filled, rest)
    | .key rest =>
      let (name, rest) ← readString rest
      match r.names.idxOf? name with
      | some i =>
        -- A second value is refused before its colon is looked at.
        if (filled[i]?.bind id).isSome then throw .mismatched
        else
          let rest ← readColon rest
          let (value, rest) ← r.readField i rest
          r.readFields fuel false (filled.set i (some value)) rest
      | none =>
        let rest ← readColon rest
        let rest ← skipValue rest
        r.readFields fuel false filled rest

/-- All values, if each is there. -/
def complete : List (Option α) → Except Fault (List α)
  | [] => .ok []
  | none :: _ => .error .mismatched
  | some value :: rest => (complete rest).map (value :: ·)

/-- The record as an object whose opening brace has been read. -/
def readObject (r : Record α) (t : Text) : Except Fault (List α × Text) := do
  let (filled, rest) ← r.readFields (t.length + 1) true (r.names.map fun _ => none) t
  return (← complete filled, rest)

/-! ## Arrays -/

/-- The text from the next element of an array. All but the first come after a
    comma; an array that ends here is too short. -/
def elementStep (first : Bool) (t : Text) : Except Fault Text :=
  match skipBlank t with
  | [] => .error .truncated
  | ']' :: _ => .error .mismatched
  | c :: rest =>
    if first then .ok (c :: rest)
    else if c = ',' then
      match skipBlank rest with
      | [] => .error .truncated
      | ']' :: _ => .error .malformed
      | rest => .ok rest
    else .error .malformed

/-- Reads the elements for the fields with the given numbers. -/
def readElements (r : Record α) : Bool → List Nat → Text → Except Fault (List α × Text)
  | _, [], t => .ok ([], t)
  | first, i :: later, t => do
    let t ← elementStep first t
    let (value, t) ← r.readField i t
    let (values, t) ← r.readElements false later t
    return (value :: values, t)

/-- The record as an array whose opening bracket has been read. -/
def readArray (r : Record α) (t : Text) : Except Fault (List α × Text) := do
  let (values, t) ← r.readElements true (List.range r.names.length) t
  match skipBlank t with
  | [] => throw .truncated
  | ']' :: rest => return (values, rest)
  | _ => throw .malformed

/-- The record that comes next: the values of its fields in order. -/
def read (r : Record α) (t : Text) : Except Fault (List α × Text) :=
  match skipBlank t with
  | [] => .error .truncated
  | '\x7b' :: rest => r.readObject rest
  | '[' :: rest => r.readArray rest
  | t => .error (wrongKind t)

end Record
end Json
end Tagdown
