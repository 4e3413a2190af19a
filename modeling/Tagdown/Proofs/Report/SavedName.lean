/-
  Tagdown.Proofs.Report.SavedName

  Where statistics are saved. The name of the file is the stem of the analyzed one and an ending
  that no name has behind its own stem (`Path.IsStem.append_ne`), so a path never names the file
  that its statistics are saved in. A file stands at a place that ends in its name
  (`FileTree.getLast?_of_resolve`), so what is saved does not replace what was analyzed either
  (`statisticsPath_stands_beside`).
-/

import Tagdown.Proofs.Path
import Tagdown.Proofs.World.FileTree
import Tagdown.Report.Registry

namespace Tagdown

variable {path name : Text}

/-! ## Places and names -/

namespace FileTree

variable {tree : FileTree} {place : List Text}

/-- A walk along pieces is a walk along the first ones and then along the others. -/
theorem walk_append_eq_ok_iff (before after : List Text) {start : List Text} :
    tree.walk start (before ++ after) = .ok place ↔
      ∃ middle, tree.walk start before = .ok middle ∧ tree.walk middle after = .ok place := by
  induction before generalizing start with
  | nil => simp [walk]
  | cons piece rest ih =>
    rw [List.cons_append, walk, walk]
    cases tree.get? start with
    | none => simp
    | some node =>
      cases node with
      | file bytes => simp
      | directory =>
        dsimp only
        split_ifs
        · exact ih
        · exact ih
        · simp
        · exact ih

/-- Pieces that do not count lead nowhere else, and only a directory has any behind it. -/
theorem walk_idle {pieces start : List Text} (h : tree.walk start pieces = .ok place)
    (hidle : ∀ piece ∈ pieces, Path.isIdle piece = true) :
    place = start ∧ (pieces ≠ [] → tree.get? start = some .directory) := by
  induction pieces with
  | nil =>
    rw [walk, Except.ok.injEq] at h
    exact ⟨h.symm, fun hne => absurd rfl hne⟩
  | cons piece rest ih =>
    rw [List.forall_mem_cons] at hidle
    have hpiece : piece = [] ∨ piece = ['.'] := by simpa [Path.isIdle] using hidle.1
    rw [walk] at h
    cases hnode : tree.get? start with
    | none => simp [hnode] at h
    | some node =>
      cases node with
      | file bytes => simp [hnode] at h
      | directory =>
        simp only [hnode, if_pos hpiece] at h
        exact ⟨(ih h hidle.2).1, fun _ => rfl⟩

theorem piecesOf_eq_ok {pieces : List Text} (h : piecesOf path = .ok pieces) :
    pieces = Text.splitOn '/' path := by
  unfold piecesOf at h
  split_ifs at h
  exact (Except.ok.inj h).symm

/-- Where a path with a file name leads, unless a directory stands there, is called by that
    name. -/
theorem getLast?_of_resolve (hname : Path.fileName? path = some name)
    (hresolve : tree.resolve path = .ok place) (hplace : tree.get? place ≠ some .directory) :
    place.getLast? = some name := by
  obtain ⟨pieces, hpieces, hwalk⟩ := resolve_eq_ok_iff.mp hresolve
  obtain ⟨before, idle, hon, hcounts, hidle⟩ := Path.exists_splitOn_of_fileName? hname
  have hup := (Path.fileName?_eq_some_iff.mp hname).1
  rw [piecesOf_eq_ok hpieces, hon, walk_append_eq_ok_iff] at hwalk
  obtain ⟨middle, -, hwalk⟩ := hwalk
  have hpiece : ¬(name = [] ∨ name = ['.']) := by simpa [Path.isIdle] using hcounts
  rw [walk] at hwalk
  cases hnode : tree.get? middle with
  | none => simp [hnode] at hwalk
  | some node =>
    cases node with
    | file bytes => simp [hnode] at hwalk
    | directory =>
      simp only [hnode, if_neg hpiece, if_neg hup] at hwalk
      split_ifs at hwalk
      -- Behind the name nothing can follow, as no directory stands there.
      obtain ⟨rfl, -⟩ := walk_idle hwalk hidle
      exact List.getLast?_concat

end FileTree

/-! ## The name of saved statistics -/

/-- A name is not its stem and the ending of saved statistics: that ending has a dot, and the
    stem of the name stops in front of its last one. -/
theorem Path.IsStem.append_ne {stem : Text} (h : IsStem stem name) :
    stem ++ "-stats.json".toList ≠ name := by
  cases h with
  | cut extension hne hlast =>
    intro heq
    have hcons : "-stats.json".toList = '.' :: extension := List.append_cancel_left heq
    exact absurd (List.cons.inj hcons).1 (by decide)
  | whole hdot =>
    intro heq
    have hnil : "-stats.json".toList = [] := List.append_right_eq_self.mp heq
    exact absurd hnil (by decide)

/-- The name of saved statistics has the extension of the report for programs. -/
theorem Registry.detect?_of_fileName? {stem : Text}
    (h : Path.fileName? path = some (stem ++ "-stats.json".toList)) :
    standard.detect? path = some "json".toList := by
  have hcut : Path.cutExtension (stem ++ "-stats.json".toList) =
      (stem ++ "-stats".toList, some "json".toList) := by
    have hdot : stem ++ "-stats.json".toList = (stem ++ "-stats".toList) ++ '.' :: "json".toList := by
      rw [List.append_assoc]
      rfl
    rw [hdot, Path.cutExtension_append_cons (by simp) (by decide)]
  have hextension : Path.extension? path = some "json".toList := by
    rw [Path.extension?, h, Option.bind_some, hcut]
  rw [detect?, hextension]
  rfl

/-- **Saved statistics stand beside the text and never replace it.** If the last component of a path
    is a name, then the statistics are saved in the same directory, in a file whose name is the name
    up to its last dot and a fixed ending. That is another path, whatever the name, its extension
    asks for the report for programs, and writing there leaves the file of the path as it is. -/
theorem statisticsPath_stands_beside (h : (Path.components path).getLast? = some (.normal name)) :
    let stem := Path.stem path
    let saved := statisticsPath path
    Path.IsStem stem name ∧
      Path.components saved =
        (Path.components path).dropLast ++ [.normal (stem ++ "-stats.json".toList)] ∧
      Path.components saved ≠ Path.components path ∧
      Registry.standard.detect? saved = some "json".toList ∧
      ∀ (files later : FileTree) (text report : ByteArray), files.read path = .ok text →
        files.write saved report = .ok later → later.read path = .ok text := by
  have hname := Path.getLast?_components_eq_iff.mp h
  intro stem saved
  have hstem : Path.IsStem stem name := by
    have hcut := Path.isStem_cutExtension name
    rwa [← Path.stem_eq hname] at hcut
  have hsaved : saved = Path.withFileName path (stem ++ "-stats.json".toList) := rfl
  have hslash : '/' ∉ stem ++ "-stats.json".toList :=
    List.not_mem_append (fun hmem => Path.not_mem_of_fileName? hname (hstem.isPrefix.subset hmem))
      (by decide)
  have hcomponents : Path.components saved =
      (Path.components path).dropLast ++ [.normal (stem ++ "-stats.json".toList)] := by
    rw [hsaved]
    exact Path.components_withFileName hname hslash (by simp)
  have hlast : (Path.components saved).getLast? =
      some (.normal (stem ++ "-stats.json".toList)) := by
    rw [hcomponents, List.getLast?_concat]
  have hsavedName := Path.getLast?_components_eq_iff.mp hlast
  refine ⟨hstem, hcomponents, fun heq => ?_, Registry.detect?_of_fileName? hsavedName,
    fun files later text report hread hwrite => ?_⟩
  · rw [heq, h, Option.some.injEq, Path.Component.normal.injEq] at hlast
    exact hstem.append_ne hlast.symm
  · -- Both files stand at places with their own names, so these are two places.
    obtain ⟨place, hplace, hfile⟩ := FileTree.read_eq_ok_iff.mp hread
    obtain ⟨savedPlace, hsavedPlace, hfree, hget⟩ := FileTree.get?_of_write hwrite
    have hplaceName := FileTree.getLast?_of_resolve hname hplace (by rw [hfile]; nofun)
    have hsavedPlaceName := FileTree.getLast?_of_resolve hsavedName hsavedPlace hfree
    have hne : place ≠ savedPlace := by
      rintro rfl
      rw [hplaceName, Option.some.injEq] at hsavedPlaceName
      exact hstem.append_ne hsavedPlaceName.symm
    refine FileTree.read_eq_ok_iff.mpr ⟨place, (FileTree.resolve_of_write hwrite).mpr hplace, ?_⟩
    rw [hget, if_neg hne, hfile]

/-- A name that ends like a saved one, behind a dot and doubled slashes. -/
theorem statisticsPath_stands_beside_saved :
    let path := ".//.a.b-stats.json".toList
    let text := encodeText "# a".toList
    let report := encodeText "b".toList
    let files : FileTree := ⟨[([".a.b-stats.json".toList], .file text)], []⟩
    (Path.components path).getLast? = some (.normal ".a.b-stats.json".toList) ∧
      Path.components (statisticsPath path) =
        [.current, .normal ".a.b-stats-stats.json".toList] ∧
      Path.components (statisticsPath path) ≠ Path.components path ∧
      Registry.standard.detect? (statisticsPath path) = some "json".toList ∧
      ∃ later, files.write (statisticsPath path) report = .ok later ∧ later.read path = .ok text := by
  intro path text report files
  have hlast : (Path.components path).getLast? = some (.normal ".a.b-stats.json".toList) := by decide
  obtain ⟨-, hcomponents, hne, hdetect, hkept⟩ := statisticsPath_stands_beside hlast
  refine ⟨hlast, ?_, hne, hdetect, _, rfl, hkept files _ text report rfl rfl⟩
  rw [hcomponents]
  decide

end Tagdown
