/-
  Tagdown.World.FileTree

  A tree of files and directories below its root, with the paths that programs
  use to read and write in it.

  A path starts at the root if a slash stands in front, and else at the place
  where the program works. It is walked piece by piece; every piece but the last
  has to lead to a directory. Above the root is the root. There are no links, no
  devices and no permissions.
-/

import Tagdown.Text.Basic

namespace Tagdown

/-- Why a file cannot be read or written. -/
inductive FileFault where
  | notFound
  | notDirectory
  | isDirectory
  | nameTooLong
  /-- A name with the character of code zero. -/
  | nulInName
  /-- The bytes of the file are not UTF-8. -/
  | notText
  /-- Any other reason, in the words of the system. -/
  | other (reason : Text)
  deriving DecidableEq, Repr

namespace FileFault

/-- The fault in words. -/
def message : FileFault → Text
  | notFound => "No such file or directory (os error 2)".toList
  | notDirectory => "Not a directory (os error 20)".toList
  | isDirectory => "Is a directory (os error 21)".toList
  | nameTooLong => "File name too long (os error 36)".toList
  | nulInName => "file name contained an unexpected NUL byte".toList
  | notText => "stream did not contain valid UTF-8".toList
  | other reason => reason

end FileFault

/-- The text of bytes that are UTF-8. -/
def decodeText (bytes : ByteArray) : Except FileFault Text :=
  match String.fromUTF8? bytes with
  | some s => .ok s.toList
  | none => .error .notText

/-- The UTF-8 bytes of a text. -/
def encodeText (t : Text) : ByteArray :=
  (String.ofList t).toUTF8

theorem decodeText_encodeText (t : Text) : decodeText (encodeText t) = .ok t := by
  have h : String.fromUTF8? (String.ofList t).toUTF8 = some (String.ofList t) :=
    dif_pos (String.ofList t).isValidUTF8
  simp only [decodeText, encodeText, h, String.toList_ofList]

/-- What stands at a place in a tree. -/
inductive Node where
  | directory
  | file (bytes : ByteArray)

/-- A tree below its root: what stands at each place, the place being the names
    on the way to it. -/
structure FileTree where
  nodes : List (List Text × Node)
  /-- The place where the program works. -/
  working : List Text

namespace FileTree

/-- What stands at a place. The root is a directory. -/
def get? (tree : FileTree) (place : List Text) : Option Node :=
  if place.isEmpty then some .directory
  else (tree.nodes.find? (·.1 == place)).map (·.2)

/-- The tree with a node at the place. -/
def set (tree : FileTree) (place : List Text) (node : Node) : FileTree :=
  { tree with nodes := go tree.nodes }
where
  /-- The nodes with one for the place, where the old one stands if there is
      one. -/
  go : List (List Text × Node) → List (List Text × Node)
    | [] => [(place, node)]
    | (other, old) :: rest =>
      if other = place then (place, node) :: rest else (other, old) :: go rest

/-- Names have at most this many bytes. -/
def nameLimit : Nat := 255

/-- Paths have fewer bytes than this. -/
def pathLimit : Nat := 4096

/-- The place where a path starts. -/
def start (tree : FileTree) (path : Text) : List Text :=
  if path.head? = some '/' then [] else tree.working

/-- Walks the pieces of a path from a place. A directory has to stand wherever
    the path goes on. -/
def walk (tree : FileTree) : List Text → List Text → Except FileFault (List Text)
  | place, [] => .ok place
  | place, piece :: rest =>
    match tree.get? place with
    | none => .error .notFound
    | some (.file _) => .error .notDirectory
    | some .directory =>
      if piece = [] ∨ piece = ['.'] then tree.walk place rest
      else if piece = ['.', '.'] then tree.walk place.dropLast rest
      else if nameLimit < Text.utf8Size piece then .error .nameTooLong
      else tree.walk (place ++ [piece]) rest

/-- The pieces of a path between its slashes. Only paths that are not too long
    have any. In front of the first slash of a path from the root stands an empty
    piece. -/
def piecesOf (path : Text) : Except FileFault (List Text) :=
  if '\x00' ∈ path then .error .nulInName
  else if pathLimit ≤ Text.utf8Size path then .error .nameTooLong
  else if path.isEmpty then .error .notFound
  else .ok (Text.splitOn '/' path)

/-- The place that a path leads to. Nothing need stand there. -/
def resolve (tree : FileTree) (path : Text) : Except FileFault (List Text) := do
  tree.walk (tree.start path) (← piecesOf path)

/-- The bytes of the file at a path. -/
def read (tree : FileTree) (path : Text) : Except FileFault ByteArray := do
  match tree.get? (← tree.resolve path) with
  | none => throw .notFound
  | some .directory => throw .isDirectory
  | some (.file bytes) => return bytes

/-- A file stands at the path. -/
def isFile (tree : FileTree) (path : Text) : Bool :=
  match tree.read path with
  | .ok _ => true
  | .error _ => false

/-- The tree after a file was written. The directory of the file has to exist. A
    path with a slash at its end is one of a directory, whatever its name. -/
def write (tree : FileTree) (path : Text) (bytes : ByteArray) : Except FileFault FileTree := do
  let pieces ← piecesOf path
  if path.getLast? = some '/' then
    let named := (pieces.reverse.dropWhile (·.isEmpty)).reverse
    let _ ← tree.walk (tree.start path) (named.dropLast ++ [['.']])
    throw .isDirectory
  else
    let place ← tree.walk (tree.start path) pieces
    match tree.get? place with
    | some .directory => throw .isDirectory
    | _ => return tree.set place (.file bytes)

end FileTree
end Tagdown
