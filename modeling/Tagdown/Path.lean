/-
  Tagdown.Path

  Paths with `/` between their components, read lexically: repeated and
  trailing slashes and inner `.` components do not count, and nothing is looked
  up in a file system.
-/

import Tagdown.Text.Basic

namespace Tagdown
namespace Path

/-- A component of a path. -/
inductive Component where
  | root
  | current
  | parent
  | normal (name : Text)
  deriving DecidableEq, Repr

/-- How a path begins: at the root, at an explicit `.`, or with neither. -/
inductive Start where
  | root
  | current
  | plain
  deriving DecidableEq, Repr

/-- The beginning of a path and the pieces between the slashes after it. -/
def split (path : Text) : Start × List Text :=
  match Text.splitOn '/' path with
  | [] => (.plain, [])
  | [piece] => if piece = ['.'] then (.current, []) else (.plain, [piece])
  | [] :: pieces => (.root, pieces)
  | piece :: pieces => if piece = ['.'] then (.current, pieces) else (.plain, piece :: pieces)

/-- The piece does not count as a component. -/
def isIdle (piece : Text) : Bool :=
  piece == [] || piece == ['.']

/-- The component that a piece stands for. -/
def componentOf (piece : Text) : Component :=
  if piece = ['.', '.'] then .parent else .normal piece

/-- The components of a path. -/
def components (path : Text) : List Component :=
  let (start, pieces) := split path
  let head :=
    match start with
    | .root => [Component.root]
    | .current => [Component.current]
    | .plain => []
  head ++ (pieces.filter (!isIdle ·)).map componentOf

/-- The pieces without those at the end that do not count. -/
def trimPieces (pieces : List Text) : List Text :=
  (pieces.reverse.dropWhile isIdle).reverse

/-- The text of a path from its beginning and its pieces. -/
def text (start : Start) (pieces : List Text) : Text :=
  let joined := List.intercalate ['/'] pieces
  match start with
  | .root => '/' :: joined
  | .current => if pieces.isEmpty then ['.'] else '.' :: '/' :: joined
  | .plain => joined

/-- The last component, if it is a name. -/
def fileName? (path : Text) : Option Text :=
  match (trimPieces (split path).2).getLast? with
  | none => none
  | some piece => if piece = ['.', '.'] then none else some piece

/-- The path in which the last component lies. -/
def parent (path : Text) : Text :=
  let (start, pieces) := split path
  text start (trimPieces (trimPieces pieces).dropLast)

/-- A name cut at its last dot, unless that dot is its first character. -/
def cutExtension (name : Text) : Text × Option Text :=
  match Text.cutLast? '.' name with
  | some (c :: stem, extension) => (c :: stem, some extension)
  | _ => (name, none)

/-- The last component up to its last dot. -/
def stem (path : Text) : Text :=
  match fileName? path with
  | some name => (cutExtension name).1
  | none => []

/-- What follows the last dot of the last component. -/
def extension? (path : Text) : Option Text :=
  (fileName? path).bind fun name => (cutExtension name).2

/-- The path of `name` in the directory `directory`. -/
def join (directory name : Text) : Text :=
  if directory.isEmpty ∨ directory.getLast? = some '/' then directory ++ name
  else directory ++ '/' :: name

/-- The path with `name` for its last component; added to a path that has no
    name at its end. -/
def withFileName (path name : Text) : Text :=
  match fileName? path with
  | some _ => join (parent path) name
  | none => join path name

end Path
end Tagdown
