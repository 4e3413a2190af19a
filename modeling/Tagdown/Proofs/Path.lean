/-
  Tagdown.Proofs.Path

  The components of a path, piece by piece: the first piece tells how the path begins, and
  every other one is a step. So a name that is joined to a directory adds one step to it
  (`Path.components_join`), and a path with a file name is one step from its parent
  (`Path.components_eq_parent`). Another name in the place of the last component therefore
  leaves all others as they are (`Path.components_withFileName`).
-/

import Mathlib.Data.List.DropRight
import Tagdown.Path
import Tagdown.Proofs.Text.Lines

namespace Tagdown
namespace Path

variable {path directory name first : Text} {pieces rest : List Text}

/-- The steps that pieces stand for. -/
def steps (pieces : List Text) : List Component :=
  (pieces.filter (!isIdle ·)).map componentOf

/-- What the first piece of a path stands for. -/
def opening (first : Text) : Component :=
  if first = [] then .root else if first = ['.'] then .current else componentOf first

theorem steps_append (pieces rest : List Text) : steps (pieces ++ rest) = steps pieces ++ steps rest := by
  rw [steps, List.filter_append, List.map_append, steps, steps]

/-- The components of a path that is not empty: how it begins, then its steps. -/
theorem components_eq (hne : path ≠ []) (h : Text.splitOn '/' path = first :: rest) :
    components path = opening first :: steps rest := by
  rw [components, split, h]
  cases rest with
  | nil =>
    -- The path is its first piece, which is not empty then.
    have hfirst : first ≠ [] := by
      rintro rfl
      rw [Text.splitOn_eq_listSplitOn] at h
      have hjoin : List.intercalate ['/'] (List.splitOn '/' path) = path := List.intercalate_splitOn '/'
      rw [h] at hjoin
      exact hne hjoin.symm
    by_cases hdot : first = ['.']
    · simp [hdot, opening, steps]
    · simp [hdot, hfirst, opening, steps, isIdle]
  | cons second rest =>
    by_cases hroot : first = []
    · subst hroot
      simp [opening, steps]
    · by_cases hdot : first = ['.']
      · subst hdot
        simp [opening, steps]
      · simp [hroot, hdot, opening, steps, isIdle]

/-- A name in a directory is one step from it. Names of three or more characters are no dots. -/
theorem components_join (directory : Text) (hslash : '/' ∉ name) (hlength : 2 < name.length) :
    components (join directory name) = components directory ++ [.normal name] := by
  have hname : name ≠ [] := by
    rintro rfl
    exact absurd hlength (by decide)
  have hdot : name ≠ ['.'] := by
    rintro rfl
    exact absurd hlength (by decide)
  have hup : name ≠ ['.', '.'] := by
    rintro rfl
    exact absurd hlength (by decide)
  have hstep : steps [name] = [.normal name] := by
    simp [steps, isIdle, hname, hdot, componentOf, hup]
  by_cases hempty : directory = []
  · subst hempty
    rw [join, if_pos (.inl rfl), List.nil_append, components_eq hname (Text.splitOn_eq_singleton hslash)]
    simp [components, split, Text.splitOn, opening, hname, hdot, hup, steps, componentOf, isIdle]
  by_cases hlast : directory.getLast? = some '/'
  · -- The directory brings the slash, behind which it has an idle piece.
    obtain ⟨before, rfl⟩ := List.getLast?_eq_some_iff.mp hlast
    obtain ⟨first, rest, hpieces⟩ := List.exists_cons_of_ne_nil (Text.splitOn_ne_nil '/' before)
    have hdirectory : Text.splitOn '/' (before ++ ['/']) = first :: (rest ++ [[]]) := by
      rw [Text.splitOn_append_cons, hpieces, List.cons_append]
      rfl
    have hjoin : Text.splitOn '/' (before ++ '/' :: name) = first :: (rest ++ [name]) := by
      rw [Text.splitOn_append_cons, hpieces, Text.splitOn_eq_singleton hslash, List.cons_append]
    have hidlePiece : steps [[]] = [] := rfl
    rw [join, if_pos (.inr hlast), List.append_assoc, List.singleton_append,
      components_eq (by simp) hjoin, components_eq hempty hdirectory, steps_append, steps_append,
      hstep, hidlePiece, List.append_nil, List.cons_append]
  · obtain ⟨first, rest, hpieces⟩ := List.exists_cons_of_ne_nil (Text.splitOn_ne_nil '/' directory)
    have hjoin : Text.splitOn '/' (directory ++ '/' :: name) = first :: (rest ++ [name]) := by
      rw [Text.splitOn_append_cons, hpieces, Text.splitOn_eq_singleton hslash, List.cons_append]
    rw [join, if_neg (by simp [hempty, hlast]), components_eq (by simp) hjoin,
      components_eq hempty hpieces, steps_append, hstep, List.cons_append]

/-! ## The last component -/

/-- What the beginning of a path stands for. -/
def Start.components : Start → List Component
  | .root => [.root]
  | .current => [.current]
  | .plain => []

theorem components_eq_start (path : Text) :
    components path = (split path).1.components ++ steps (split path).2 := by
  rw [components]
  cases split path with
  | mk start pieces => cases start <;> rfl

/-- Only pieces that do not count are cut off at the end. -/
theorem exists_eq_trimPieces_append (pieces : List Text) :
    ∃ idle, pieces = trimPieces pieces ++ idle ∧ ∀ piece ∈ idle, isIdle piece = true :=
  ⟨pieces.rtakeWhile isIdle, List.rdropWhile_append_rtakeWhile.symm,
    fun _ hpiece => List.mem_rtakeWhile_imp hpiece⟩

/-- The pieces at the end that do not count are no steps. -/
theorem steps_trimPieces (pieces : List Text) : steps (trimPieces pieces) = steps pieces := by
  obtain ⟨idle, hpieces, hidle⟩ := exists_eq_trimPieces_append pieces
  have hnone : steps idle = [] := by
    rw [steps, List.filter_eq_nil_iff.mpr (by simpa using hidle), List.map_nil]
  conv_rhs => rw [hpieces]
  rw [steps_append, hnone, List.append_nil]

/-- The last piece that is left counts as a component. -/
theorem isIdle_of_trimPieces {before : List Text} {piece : Text}
    (h : trimPieces pieces = before ++ [piece]) : isIdle piece = false := by
  have hne : pieces.rdropWhile isIdle ≠ [] := by
    show trimPieces pieces ≠ []
    simp [h]
  have hlast := List.rdropWhile_last_not isIdle pieces hne
  have hpiece : (pieces.rdropWhile isIdle).getLast hne = piece :=
    (List.getLast_congr _ (by simp) h).trans (List.getLast_concat)
  simpa [hpiece] using hlast

theorem fileName?_eq_some_iff :
    fileName? path = some name ↔
      name ≠ ['.', '.'] ∧ ∃ before, trimPieces (split path).2 = before ++ [name] := by
  rw [fileName?, ← List.getLast?_eq_some_iff]
  cases (trimPieces (split path).2).getLast? with
  | none => simp
  | some piece =>
    by_cases hup : piece = ['.', '.']
    · simp only [hup, if_true, reduceCtorEq, Option.some.injEq, false_iff, not_and]
      exact fun hname h => hname h.symm
    · simp only [hup, if_false, Option.some.injEq]
      exact ⟨fun h => ⟨h ▸ hup, h⟩, And.right⟩

/-- The file name of a path is its last component, if that is a name. -/
theorem getLast?_components_eq_iff :
    (components path).getLast? = some (.normal name) ↔ fileName? path = some name := by
  rw [components_eq_start, ← steps_trimPieces, fileName?_eq_some_iff]
  rcases List.eq_nil_or_concat' (trimPieces (split path).2) with hnil | ⟨before, piece, hpieces⟩
  · -- Without a step only the beginning of the path is left, and that is no name.
    have hstart : ((split path).1.components ++ steps []).getLast? ≠ some (.normal name) := by
      cases (split path).1 <;> simp [Start.components, steps]
    rw [hnil]
    simp only [hstart, false_iff, not_and, not_exists]
    exact fun _ before hbefore => List.append_ne_nil_of_right_ne_nil before (by simp) hbefore.symm
  · have hidle := isIdle_of_trimPieces hpieces
    have hstep : steps [piece] = [componentOf piece] := by simp [steps, hidle]
    rw [hpieces, steps_append, hstep, ← List.append_assoc, List.getLast?_concat, Option.some.injEq,
      componentOf]
    by_cases hup : piece = ['.', '.']
    · simp only [hup, if_true, reduceCtorEq, false_iff, not_and, not_exists]
      intro hname other hother
      exact hname (List.append_inj' hother rfl |>.2 |> List.singleton_inj.mp).symm
    · simp only [hup, if_false, Component.normal.injEq]
      constructor
      · rintro rfl
        exact ⟨hup, before, rfl⟩
      · rintro ⟨-, other, hother⟩
        exact List.singleton_inj.mp (List.append_inj' hother rfl).2

/-! ## Paths from pieces -/

/-- How a path is split: at a slash in front, behind a dot, or into all of its pieces. -/
theorem split_cases (path : Text) :
    (∃ pieces, Text.splitOn '/' path = [] :: pieces ∧ split path = (.root, pieces)) ∨
    (∃ pieces, Text.splitOn '/' path = ['.'] :: pieces ∧ split path = (.current, pieces)) ∨
    ∃ first rest, Text.splitOn '/' path = first :: rest ∧ first ≠ ['.'] ∧ (first = [] → rest = []) ∧
      split path = (.plain, first :: rest) := by
  obtain ⟨first, rest, hpieces⟩ := List.exists_cons_of_ne_nil (Text.splitOn_ne_nil '/' path)
  rw [split, hpieces]
  by_cases hdot : first = ['.']
  · subst hdot
    exact .inr (.inl ⟨rest, rfl, by cases rest <;> rfl⟩)
  cases rest with
  | nil => exact .inr (.inr ⟨first, [], rfl, hdot, fun _ => rfl, by simp [hdot]⟩)
  | cons second rest =>
    by_cases hroot : first = []
    · subst hroot
      exact .inl ⟨second :: rest, rfl, rfl⟩
    · exact .inr (.inr ⟨first, second :: rest, rfl, hdot, fun h => absurd h hroot,
        by simp [hdot]⟩)

/-- The pieces of a path are the last ones between its slashes. -/
theorem exists_splitOn_eq (path : Text) :
    ∃ front, Text.splitOn '/' path = front ++ (split path).2 := by
  rcases split_cases path with ⟨pieces, hon, hsplit⟩ | ⟨pieces, hon, hsplit⟩ |
    ⟨first, rest, hon, -, -, hsplit⟩
  · exact ⟨[[]], by rw [hon, hsplit, List.singleton_append]⟩
  · exact ⟨[['.']], by rw [hon, hsplit, List.singleton_append]⟩
  · exact ⟨[], by rw [hon, hsplit, List.nil_append]⟩

theorem not_mem_of_mem_split {piece : Text} (h : piece ∈ (split path).2) : '/' ∉ piece := by
  obtain ⟨front, hon⟩ := exists_splitOn_eq path
  apply Text.not_mem_of_mem_splitOn (t := path)
  rw [hon]
  exact List.mem_append_right front h

/-- Joined pieces have the steps of the pieces. -/
theorem steps_splitOn_intercalate {pieces : List Text} (hslash : ∀ piece ∈ pieces, '/' ∉ piece) :
    steps (Text.splitOn '/' (List.intercalate ['/'] pieces)) = steps pieces := by
  by_cases hne : pieces = []
  · subst hne
    rfl
  · rw [Text.splitOn_eq_listSplitOn, List.splitOn_intercalate '/' hslash hne]

/-- A path that is put together from pieces stands for its beginning and their steps. Without a
    slash or a dot in front the first piece has to be a step. -/
theorem components_text (start : Start) {pieces : List Text}
    (hslash : ∀ piece ∈ pieces, '/' ∉ piece)
    (hfirst : start = .plain → ∀ first ∈ pieces.head?, isIdle first = false) :
    components (text start pieces) = start.components ++ steps pieces := by
  have hjoined := steps_splitOn_intercalate hslash
  cases start with
  | root =>
    have hon : Text.splitOn '/' ('/' :: List.intercalate ['/'] pieces) =
        [] :: Text.splitOn '/' (List.intercalate ['/'] pieces) := Text.splitOn_append_cons '/' [] _
    rw [text, components_eq (List.cons_ne_nil _ _) hon, hjoined]
    rfl
  | current =>
    by_cases hne : pieces = []
    · subst hne
      rfl
    · have hon : Text.splitOn '/' ('.' :: '/' :: List.intercalate ['/'] pieces) =
          ['.'] :: Text.splitOn '/' (List.intercalate ['/'] pieces) :=
        Text.splitOn_append_cons '/' ['.'] _
      simp only [text, List.isEmpty_iff, hne, if_false]
      rw [components_eq (List.cons_ne_nil _ _) hon, hjoined]
      rfl
  | plain =>
    cases pieces with
    | nil => rfl
    | cons first rest =>
      have hidle : isIdle first = false := hfirst rfl first rfl
      obtain ⟨hempty, hdot⟩ : first ≠ [] ∧ first ≠ ['.'] := by simpa [isIdle] using hidle
      have hon : Text.splitOn '/' (List.intercalate ['/'] (first :: rest)) = first :: rest := by
        rw [Text.splitOn_eq_listSplitOn, List.splitOn_intercalate '/' hslash (List.cons_ne_nil _ _)]
      have hne : List.intercalate ['/'] (first :: rest) ≠ [] := by
        intro hnil
        rw [hnil] at hon
        exact hempty (List.cons.inj hon).1.symm
      rw [text, components_eq hne hon, opening, if_neg hempty, if_neg hdot]
      simp [Start.components, steps, hidle]

/-- The parent of a path with a file name has all components but the last. -/
theorem components_eq_parent (h : fileName? path = some name) :
    components path = components (parent path) ++ [.normal name] := by
  obtain ⟨hup, before, hpieces⟩ := fileName?_eq_some_iff.mp h
  have hidle := isIdle_of_trimPieces hpieces
  have hstep : steps [name] = [.normal name] := by simp [steps, hidle, componentOf, hup]
  have hparent : parent path = text (split path).1 (trimPieces before) := by
    show text (split path).1 (trimPieces (trimPieces (split path).2).dropLast) = _
    rw [hpieces, List.dropLast_concat]
  -- What is left of the pieces are the first pieces of the path.
  have hinitial : trimPieces before <+: (split path).2 := by
    have hbefore : before <+: trimPieces (split path).2 := hpieces ▸ List.prefix_append before [name]
    exact ((List.rdropWhile_prefix isIdle before).trans hbefore).trans
      (List.rdropWhile_prefix isIdle _)
  have hslash : ∀ piece ∈ trimPieces before, '/' ∉ piece :=
    fun piece hpiece => not_mem_of_mem_split (hinitial.subset hpiece)
  have hfirst : (split path).1 = .plain → ∀ first ∈ (trimPieces before).head?,
      isIdle first = false := by
    intro hstart first hhead
    rcases split_cases path with ⟨pieces, -, hsplit⟩ | ⟨pieces, -, hsplit⟩ |
      ⟨piece, rest, -, hdot, hempty, hsplit⟩
    · rw [hsplit] at hstart
      cases hstart
    · rw [hsplit] at hstart
      cases hstart
    · -- The first piece is the first one of the path. If that were empty, it would be the only one.
      have hne : (split path).2 ≠ [[]] := by
        intro hsingle
        rw [hsingle] at hpieces
        exact List.append_ne_nil_of_right_ne_nil before (by simp) hpieces.symm
      obtain ⟨more, hmore⟩ := List.head?_eq_some_iff.mp hhead
      rw [hsplit, hmore] at hinitial
      obtain rfl : first = piece := (List.cons_prefix_cons.mp hinitial).1
      have hfirst : first ≠ [] := by
        rintro rfl
        exact hne (by rw [hsplit, hempty rfl])
      simp [isIdle, hdot, hfirst]
  rw [hparent, components_text _ hslash hfirst, components_eq_start path, ← steps_trimPieces,
    hpieces, steps_append, hstep, steps_trimPieces, List.append_assoc]

/-- Another file name takes the place of the last component. -/
theorem components_withFileName {other : Text} (h : fileName? path = some name) (hslash : '/' ∉ other)
    (hlength : 2 < other.length) :
    components (withFileName path other) = (components path).dropLast ++ [.normal other] := by
  have hjoin : withFileName path other = join (parent path) other := by rw [withFileName, h]
  rw [hjoin, components_join _ hslash hlength, components_eq_parent h, List.dropLast_concat]

/-- The file name is the last piece that counts. -/
theorem exists_splitOn_of_fileName? (h : fileName? path = some name) :
    ∃ before idle, Text.splitOn '/' path = before ++ name :: idle ∧ isIdle name = false ∧
      ∀ piece ∈ idle, isIdle piece = true := by
  obtain ⟨-, before, hpieces⟩ := fileName?_eq_some_iff.mp h
  obtain ⟨front, hon⟩ := exists_splitOn_eq path
  obtain ⟨idle, hsplit, hidle⟩ := exists_eq_trimPieces_append (split path).2
  refine ⟨front ++ before, idle, ?_, isIdle_of_trimPieces hpieces, hidle⟩
  rw [hon, hsplit, hpieces, List.append_assoc, List.append_assoc, List.singleton_append]

theorem not_mem_of_fileName? (h : fileName? path = some name) : '/' ∉ name := by
  obtain ⟨before, idle, hon, -, -⟩ := exists_splitOn_of_fileName? h
  apply Text.not_mem_of_mem_splitOn (t := path)
  simp [hon]

/-! ## Extensions -/

/-- The text is the name up to its last dot. A dot in front of a name is not where it is cut. -/
inductive IsStem : Text → Text → Prop where
  | cut (stem extension : Text) (hne : stem ≠ []) (hlast : '.' ∉ extension) :
      IsStem stem (stem ++ '.' :: extension)
  | whole (name : Text) (hdot : ∀ before after, name = before ++ '.' :: after → before = []) :
      IsStem name name

theorem IsStem.isPrefix {stem : Text} (h : IsStem stem name) : stem <+: name := by
  cases h with
  | cut extension => exact List.prefix_append stem _
  | whole => exact List.prefix_refl name

theorem stem_eq (h : fileName? path = some name) : stem path = (cutExtension name).1 := by
  rw [stem, h]

theorem cutExtension_append_cons {stem extension : Text} (hne : stem ≠ []) (hlast : '.' ∉ extension) :
    cutExtension (stem ++ '.' :: extension) = (stem, some extension) := by
  obtain ⟨c, rest, rfl⟩ := List.exists_cons_of_ne_nil hne
  rw [cutExtension, Text.cutLast?_eq_some_iff.mpr ⟨rfl, hlast⟩]

theorem isStem_cutExtension (name : Text) : IsStem (cutExtension name).1 name := by
  rw [cutExtension]
  cases hcut : Text.cutLast? '.' name with
  | none =>
    refine .whole name fun before after hname => ?_
    exact absurd (hname ▸ List.mem_append_right before List.mem_cons_self)
      (Text.cutLast?_eq_none_iff.mp hcut)
  | some parts =>
    obtain ⟨stem, extension⟩ := parts
    obtain ⟨rfl, hlast⟩ := Text.cutLast?_eq_some_iff.mp hcut
    cases stem with
    | cons c stem => exact .cut (c :: stem) extension (List.cons_ne_nil c stem) hlast
    | nil =>
      -- The only dot is in front.
      refine .whole _ fun before after hname => ?_
      by_contra hne
      obtain ⟨c, rest, rfl⟩ := List.exists_cons_of_ne_nil hne
      exact hlast ((List.cons.inj hname).2 ▸ List.mem_append_right rest List.mem_cons_self)

end Path
end Tagdown
