/-
  Tagdown.Proofs.World.FileTree

  What a write changes in a tree of files. It puts a file at the one place that its
  path leads to and leaves every other place as it is (`FileTree.get?_of_write`).
  Directories stay what they are, and a path is walked along directories only, so
  after a write every path leads where it led before (`FileTree.resolve_of_write`).
-/

import Mathlib.Tactic.SplitIfs
import Tagdown.World.FileTree

namespace Tagdown
namespace FileTree

variable {tree later : FileTree} {path other : Text} {bytes : ByteArray} {place elsewhere : List Text}

/-! ## Places -/

theorem get?_nil (tree : FileTree) : tree.get? [] = some .directory :=
  rfl

theorem get?_cons (tree : FileTree) (name : Text) (names : List Text) :
    tree.get? (name :: names) = (tree.nodes.find? (·.1 == name :: names)).map (·.2) :=
  rfl

theorem find?_go (place elsewhere : List Text) (node : Node) (nodes : List (List Text × Node)) :
    ((set.go place node nodes).find? (·.1 == elsewhere)).map (·.2) =
      if elsewhere = place then some node else (nodes.find? (·.1 == elsewhere)).map (·.2) := by
  induction nodes with
  | nil =>
    by_cases h : elsewhere = place
    · simp [set.go, h]
    · simp [set.go, h, Ne.symm h]
  | cons first rest ih =>
    obtain ⟨old, oldNode⟩ := first
    by_cases hold : old = place
    · -- The new node stands where the old one stood.
      by_cases h : elsewhere = place
      · simp [set.go, hold, h]
      · simp [set.go, hold, h, Ne.symm h]
    · rw [set.go, if_neg hold]
      by_cases h : old = elsewhere
      · have hne : elsewhere ≠ place := h ▸ hold
        simp [h, hne]
      · simpa [h] using ih

/-- A node is put at its place and nowhere else. The root stays the directory that it is. -/
theorem get?_set (tree : FileTree) (hplace : place ≠ []) (elsewhere : List Text) (node : Node) :
    (tree.set place node).get? elsewhere =
      if elsewhere = place then some node else tree.get? elsewhere := by
  cases elsewhere with
  | nil => rw [get?_nil, get?_nil, if_neg (Ne.symm hplace)]
  | cons name names =>
    rw [get?_cons, get?_cons]
    exact find?_go _ _ _ _

/-! ## Reading and writing -/

theorem resolve_eq_ok_iff :
    tree.resolve path = .ok place ↔
      ∃ pieces, piecesOf path = .ok pieces ∧ tree.walk (tree.start path) pieces = .ok place := by
  rw [resolve]
  cases piecesOf path with
  | error fault => exact ⟨nofun, nofun⟩
  | ok pieces => exact ⟨fun h => ⟨pieces, rfl, h⟩, fun ⟨_, hpieces, h⟩ => by cases hpieces; exact h⟩

/-- A file is read exactly if it stands where its path leads. -/
theorem read_eq_ok_iff :
    tree.read path = .ok bytes ↔
      ∃ place, tree.resolve path = .ok place ∧ tree.get? place = some (.file bytes) := by
  rw [read]
  cases tree.resolve path with
  | error fault => exact ⟨nofun, nofun⟩
  | ok place =>
    simp only [bind, Except.bind]
    cases hnode : tree.get? place with
    | none => simp [hnode, throw, throwThe, MonadExceptOf.throw]
    | some node =>
      cases node <;> simp [hnode, pure, Except.pure, throw, throwThe, MonadExceptOf.throw]

theorem write_of_slash (hslash : path.getLast? = some '/') : tree.write path bytes ≠ .ok later := by
  simp only [write, if_pos hslash]
  cases piecesOf path with
  | error fault => nofun
  | ok pieces =>
    simp only [bind, Except.bind]
    split <;> nofun

theorem write_of_noSlash (hslash : path.getLast? ≠ some '/') :
    tree.write path bytes = tree.resolve path >>= fun place =>
      match tree.get? place with
      | some .directory => throw .isDirectory
      | _ => return tree.set place (.file bytes) := by
  rw [write, resolve]
  cases piecesOf path with
  | error fault => rfl
  | ok pieces => exact if_neg hslash

/-- A file can be written at the path: the path does not end in a slash and leads to a place
    that is no directory. What is written does not matter. -/
def IsWritable (tree : FileTree) (path : Text) : Prop :=
  path.getLast? ≠ some '/' ∧
    ∃ place, tree.resolve path = .ok place ∧ tree.get? place ≠ some .directory

theorem write_eq_ok_iff :
    tree.write path bytes = .ok later ↔
      path.getLast? ≠ some '/' ∧ ∃ place, tree.resolve path = .ok place ∧
        tree.get? place ≠ some .directory ∧ later = tree.set place (.file bytes) := by
  by_cases hslash : path.getLast? = some '/'
  · exact ⟨fun h => absurd h (write_of_slash hslash), fun h => absurd hslash h.1⟩
  rw [write_of_noSlash hslash]
  cases tree.resolve path with
  | error fault => exact ⟨nofun, nofun⟩
  | ok place =>
    simp only [bind, Except.bind]
    cases hnode : tree.get? place with
    | none => simp [hslash, hnode, pure, Except.pure, eq_comm]
    | some node =>
      cases node <;>
        simp [hslash, hnode, pure, Except.pure, throw, throwThe, MonadExceptOf.throw, eq_comm]

theorem isWritable_iff (bytes : ByteArray) :
    tree.IsWritable path ↔ ∃ later, tree.write path bytes = .ok later := by
  simp only [IsWritable, write_eq_ok_iff, exists_and_left, exists_comm (α := FileTree)]
  simp

/-! ## After a write -/

/-- The second tree has a file with the bytes where the path leads in the first one, and is
    the same everywhere else. -/
def Puts (tree : FileTree) (path : Text) (bytes : ByteArray) (later : FileTree) : Prop :=
  ∃ place, tree.resolve path = .ok place ∧ later.get? place = some (.file bytes) ∧
    ∀ elsewhere, elsewhere ≠ place → later.get? elsewhere = tree.get? elsewhere

/-- The program works where it worked before. -/
theorem start_of_write (h : tree.write path bytes = .ok later) : later.start other = tree.start other := by
  obtain ⟨-, place, -, -, rfl⟩ := write_eq_ok_iff.mp h
  rfl

theorem get?_of_write (h : tree.write path bytes = .ok later) :
    ∃ place, tree.resolve path = .ok place ∧ tree.get? place ≠ some .directory ∧
      ∀ elsewhere, later.get? elsewhere =
        if elsewhere = place then some (.file bytes) else tree.get? elsewhere := by
  obtain ⟨-, place, hresolve, hfree, rfl⟩ := write_eq_ok_iff.mp h
  have hplace : place ≠ [] := by
    rintro rfl
    exact hfree (get?_nil tree)
  exact ⟨place, hresolve, hfree, fun elsewhere => get?_set tree hplace elsewhere _⟩

/-- A walk only looks at directories, so it comes through where more of them stand. -/
theorem walk_of_directories
    (hdirs : ∀ place, tree.get? place = some .directory → later.get? place = some .directory)
    (pieces : List Text) {start : List Text} (h : tree.walk start pieces = .ok place) :
    later.walk start pieces = .ok place := by
  induction pieces generalizing start with
  | nil => exact h
  | cons piece rest ih =>
    rw [walk] at h ⊢
    cases hnode : tree.get? start with
    | none => simp [hnode] at h
    | some node =>
      cases node with
      | file bytes => simp [hnode] at h
      | directory =>
        -- Both walks look at the same directory and take the same branch.
        simp only [hnode, hdirs start hnode] at h ⊢
        split_ifs at h ⊢ <;> exact ih h

theorem directory_of_write (h : tree.write path bytes = .ok later) (elsewhere : List Text) :
    later.get? elsewhere = some .directory ↔ tree.get? elsewhere = some .directory := by
  obtain ⟨place, -, hfree, hget⟩ := get?_of_write h
  rw [hget]
  by_cases heq : elsewhere = place
  · subst heq
    simp [hfree]
  · rw [if_neg heq]

/-- A write does not change where a path leads. -/
theorem resolve_of_write (h : tree.write path bytes = .ok later) :
    later.resolve other = .ok elsewhere ↔ tree.resolve other = .ok elsewhere := by
  have hdirs := directory_of_write h
  rw [resolve_eq_ok_iff, resolve_eq_ok_iff, start_of_write h]
  constructor
  · rintro ⟨pieces, hpieces, hwalk⟩
    exact ⟨pieces, hpieces, walk_of_directories (fun place => (hdirs place).mp) pieces hwalk⟩
  · rintro ⟨pieces, hpieces, hwalk⟩
    exact ⟨pieces, hpieces, walk_of_directories (fun place => (hdirs place).mpr) pieces hwalk⟩

theorem isWritable_of_write (h : tree.write path bytes = .ok later) :
    later.IsWritable other ↔ tree.IsWritable other := by
  simp only [IsWritable, resolve_of_write h, ne_eq, directory_of_write h]

theorem puts_of_write (h : tree.write path bytes = .ok later) : tree.Puts path bytes later := by
  obtain ⟨place, hresolve, -, hget⟩ := get?_of_write h
  exact ⟨place, hresolve, by rw [hget, if_pos rfl], fun elsewhere hne => by rw [hget, if_neg hne]⟩

/-- Only the place that the path leads to can have changed. -/
theorem resolve_of_get?_ne (h : tree.write path bytes = .ok later)
    (hne : later.get? place ≠ tree.get? place) : tree.resolve path = .ok place := by
  obtain ⟨written, hresolve, -, hget⟩ := get?_of_write h
  by_cases heq : place = written
  · rw [heq]
    exact hresolve
  · rw [hget, if_neg heq] at hne
    exact absurd rfl hne

/-- What was written is read back. -/
theorem read_of_write (h : tree.write path bytes = .ok later) : later.read path = .ok bytes := by
  obtain ⟨place, hresolve, -, hget⟩ := get?_of_write h
  exact read_eq_ok_iff.mpr ⟨place, (resolve_of_write h).mpr hresolve, by rw [hget, if_pos rfl]⟩

/-! ## Writes that may be left out -/

/-- The second tree is the first one after a write to the path, or the first one itself if
    there is no path. -/
def WritesTo (tree : FileTree) (target : Option Text) (bytes : ByteArray) (later : FileTree) : Prop :=
  match target with
  | none => later = tree
  | some path => tree.write path bytes = .ok later

variable {target : Option Text}

theorem exists_writesTo (bytes : ByteArray) (h : ∀ path, target = some path → tree.IsWritable path) :
    ∃ later, tree.WritesTo target bytes later := by
  cases target with
  | none => exact ⟨tree, rfl⟩
  | some path => exact (isWritable_iff bytes).mp (h path rfl)

theorem WritesTo.resolve_of_get?_ne (h : tree.WritesTo target bytes later)
    (hne : later.get? place ≠ tree.get? place) :
    ∃ path, target = some path ∧ tree.resolve path = .ok place := by
  cases target with
  | none =>
    obtain rfl : later = tree := h
    exact absurd rfl hne
  | some path => exact ⟨path, rfl, FileTree.resolve_of_get?_ne h hne⟩

theorem WritesTo.resolve (h : tree.WritesTo target bytes later) :
    later.resolve other = .ok elsewhere ↔ tree.resolve other = .ok elsewhere := by
  cases target with
  | none =>
    obtain rfl : later = tree := h
    exact Iff.rfl
  | some path => exact resolve_of_write h

theorem WritesTo.isWritable (h : tree.WritesTo target bytes later) :
    later.IsWritable other ↔ tree.IsWritable other := by
  cases target with
  | none =>
    obtain rfl : later = tree := h
    exact Iff.rfl
  | some path => exact isWritable_of_write h

/-- A file stays what it is unless a write goes to its place. -/
theorem WritesTo.read {old : ByteArray} (h : tree.WritesTo target bytes later)
    (hread : tree.read other = .ok old) :
    later.read other = .ok old ∨ ∃ path place, target = some path ∧
      tree.resolve path = .ok place ∧ tree.resolve other = .ok place := by
  obtain ⟨place, hplace, hold⟩ := read_eq_ok_iff.mp hread
  by_cases hsame : later.get? place = tree.get? place
  · exact .inl (read_eq_ok_iff.mpr ⟨place, h.resolve.mpr hplace, by rw [hsame, hold]⟩)
  · obtain ⟨path, htarget, hresolve⟩ := h.resolve_of_get?_ne hsame
    exact .inr ⟨path, place, htarget, hresolve, hplace⟩

end FileTree
end Tagdown
