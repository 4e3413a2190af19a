/-
  Tagdown.Json.Writer

  Writing of records, one field a line, indented by two spaces a level.
-/

import Tagdown.Json.Fault
import Tagdown.Numeric.Layout

namespace Tagdown
namespace Json

/-- A string in quotes. The text has no character that needs an escape. -/
def quoted (t : Text) : Text :=
  '"' :: t ++ ['"']

/-- Numbers have the fewest digits that read back, positional from `0.00001` to
    below `10 ^ 16`; an exponent always has its sign. -/
def numberLayout : NumberLayout :=
  { tie := .even, isPositional := fun e => -5 ≤ e && e ≤ 15, pointZero := true,
    plusSign := true }

/-- A binary64 number, or `null` where it is not finite. -/
def ofBinary64 (x : Binary64) : Text :=
  if x.isFinite then numberLayout.write x else "null".toList

/-- A record of fields that are written already, at the given level. -/
def ofFields (level : Nat) (fields : List (Text × Text)) : Text :=
  let indent (k : Nat) : Text := List.replicate (2 * k) ' '
  let written := fields.map fun (name, value) =>
    indent (level + 1) ++ quoted name ++ ": ".toList ++ value
  "\x7b\n".toList ++ List.intercalate ",\n".toList written ++
    '\n' :: indent level ++ "\x7d".toList

end Json
end Tagdown
