/-
  Tagdown.Proofs.Command.Parts

  The effects of what all commands have in common: reading a text, writing a file and
  loading the settings. Each part either goes on with what it found, or gives up: it exits
  with the code 1 and has written nothing but complaints (`Effect.GaveUp`).

  A command line that asks for a command is carried out in these parts
  (`Program.perform_run`, `Program.gaveUp_run`).
-/

import Tagdown.Command.Run
import Tagdown.Proofs.World.Effect
import Tagdown.Proofs.World.FileTree

namespace Tagdown

/-! ## Giving up -/

/-- The script exited with the code 1. It wrote complaints at most and left the files. -/
def Effect.GaveUp {α : Type} (files : FileTree) (e : Effect α) : Prop :=
  ∃ err, e = ⟨.error 1, [], err, files⟩

namespace Effect.GaveUp

variable {α β : Type} {files : FileTree} {e : Effect α} {m : Machine} {s : Script α}

theorem after (h : e.GaveUp files) (err : Text) : (e.after [] err).GaveUp files := by
  obtain ⟨err', rfl⟩ := h
  exact ⟨err ++ err', rfl⟩

theorem bind (h : (m.perform s).GaveUp files) (f : α → Script β) :
    (m.perform (s >>= f)).GaveUp files := by
  obtain ⟨err, herr⟩ := h
  exact ⟨err, Machine.perform_bind_of_error herr⟩

theorem ending_ne (h : e.GaveUp files) (a : α) : e.ending ≠ .ok a := by
  obtain ⟨err, rfl⟩ := h
  exact nofun

theorem fail (m : Machine) (t : Text) : (m.perform (Script.fail t : Script α)).GaveUp m.files :=
  ⟨t ++ ['\n'], Machine.perform_fail m t⟩

theorem outcome {s : Script Unit} (h : (m.perform s).GaveUp files) :
    (m.run s).code = 1 ∧ (m.run s).out = [] ∧ (m.run s).files = files := by
  obtain ⟨err, herr⟩ := h
  rw [Machine.run_eq, herr]
  exact ⟨rfl, rfl, rfl⟩

end Effect.GaveUp

/-! ## Texts and files -/

/-- The text of the file at a path. -/
def FileTree.readText (files : FileTree) (path : Text) : Except FileFault Text :=
  files.read path >>= decodeText

/-- The text that a file was written with is its text. -/
theorem FileTree.readText_of_read {files : FileTree} {path t : Text}
    (h : files.read path = .ok (encodeText t)) : files.readText path = .ok t := by
  rw [readText, h]
  exact decodeText_encodeText t

namespace Program

open Script (report fail forEach complain)

variable {m : Machine} {path content t : Text} {fault : FileFault}

/-- What all readers do: they report what they read, and give up if that is no text. -/
theorem perform_reader {source : Except FileFault Text} {s : Script Text} {step : Text}
    {complaint : FileFault → Text}
    (h : m.perform s = (m.perform (match source with
      | .ok t => pure t
      | .error fault => fail (complaint fault))).after [] (m.traceText .program step)) :
    (∀ t, source = .ok t → m.perform s = ⟨.ok t, [], m.traceText .program step, m.files⟩) ∧
      ∀ fault, source = .error fault → (m.perform s).GaveUp m.files := by
  rw [h]
  constructor
  · rintro t rfl
    simp [Effect.after]
  · rintro fault rfl
    exact (Effect.GaveUp.fail m _).after _

theorem perform_readSource (h : m.files.readText path = .ok t) :
    m.perform (readSource path) =
      ⟨.ok t, [], m.traceText .program ("reading ".toList ++ path), m.files⟩ :=
  (perform_reader (s := readSource path) rfl).1 t h

theorem gaveUp_readSource (h : m.files.readText path = .error fault) :
    (m.perform (readSource path)).GaveUp m.files :=
  (perform_reader (s := readSource path) rfl).2 fault h

theorem perform_readInput (h : decodeText m.input = .ok t) :
    m.perform readInput = ⟨.ok t, [], m.traceText .program "reading stdin".toList, m.files⟩ :=
  (perform_reader (s := readInput) rfl).1 t h

theorem gaveUp_readInput (h : decodeText m.input = .error fault) :
    (m.perform readInput).GaveUp m.files :=
  (perform_reader (s := readInput) rfl).2 fault h

theorem perform_writeTarget {later : FileTree} (h : m.files.write path (encodeText content) = .ok later) :
    m.perform (writeTarget path content) =
      ⟨.ok (), [], m.traceText .program ("writing ".toList ++ path), later⟩ := by
  have hwrite : m.perform (.writeFile path content .done) = ⟨.ok (.ok ()), [], [], later⟩ := by
    rw [Machine.perform, h]
    rfl
  rw [writeTarget, Machine.perform_bind_of_same (Machine.perform_report m _ _),
    Machine.perform_bind_of_ok hwrite]
  simp [Effect.after, Machine.withFiles]

theorem gaveUp_writeTarget (h : ¬ m.files.IsWritable path) :
    (m.perform (writeTarget path content)).GaveUp m.files := by
  obtain ⟨fault, hfault⟩ : ∃ fault, m.files.write path (encodeText content) = .error fault := by
    cases hwrite : m.files.write path (encodeText content) with
    | error fault => exact ⟨fault, rfl⟩
    | ok later => exact absurd ((FileTree.isWritable_iff _).mpr ⟨later, hwrite⟩) h
  have hwrite : m.perform (.writeFile path content .done) =
      ⟨.ok (.error fault), [], [], m.files⟩ := by
    rw [Machine.perform, hfault]
    rfl
  rw [writeTarget, Machine.perform_bind_of_same (Machine.perform_report m _ _),
    Machine.perform_bind_of_same hwrite]
  exact ((Effect.GaveUp.fail m _).after _).after _

end Program

/-! ## Settings -/

namespace FileTree

/-- The file that a path of settings means. -/
def settingsPath? (files : FileTree) (path : Text) : Option Text :=
  if files.isFile path then some path
  else
    match Path.fileName? path with
    | none => none
    | some name =>
      let longer := Path.withFileName path (name ++ ".toml".toList)
      if files.isFile longer then some longer else none

/-- The layer of settings that a path means. -/
def layerAt (files : FileTree) (path : Text) (optional : Bool) : Settings.Layer :=
  match files.settingsPath? path with
  | none => .absent optional
  | some path =>
    match files.readText path with
    | .ok t => .file t
    | .error _ => .absent optional

/-- The settings that the files hold: the local ones if there are any, then those of the
    file that is named. -/
def settings (files : FileTree) (config : Option Text) : Except SettingsFault Settings :=
  Settings.load (files.layerAt Program.localSettings true ::
    (config.map (files.layerAt · false)).toList) []

/-- What every command needs: the settings load, and their tags make a table. -/
structure IsConfigured (files : FileTree) (config : Option Text) (settings : Settings)
    (table : TagTable) : Prop where
  settings_eq : files.settings config = .ok settings
  table_eq : settings.tagTable = .ok table

end FileTree

namespace Program

open Script (report fail forEach complain)

variable {m : Machine}

theorem perform_findSettings (m : Machine) (path : Text) :
    m.perform (findSettings path) = ⟨.ok (m.files.settingsPath? path), [], [], m.files⟩ := by
  have hask : ∀ path, m.perform (.isFile path .done) = ⟨.ok (m.files.isFile path), [], [], m.files⟩ :=
    fun _ => rfl
  rw [findSettings, Machine.perform_bind_of_same (hask path), FileTree.settingsPath?]
  cases m.files.isFile path with
  | true => rfl
  | false =>
    cases Path.fileName? path with
    | none => rfl
    | some name =>
      -- The path itself is no file, so the one with the longer name is asked for.
      simp only [Bool.false_eq_true, if_false]
      rw [Machine.perform_bind_of_same (hask _)]
      cases m.files.isFile (Path.withFileName path (name ++ ".toml".toList)) <;> rfl

theorem perform_readLayer (m : Machine) (path : Text) (optional : Bool) :
    m.perform (readLayer path optional) = ⟨.ok (m.files.layerAt path optional), [], [], m.files⟩ := by
  rw [readLayer, Machine.perform_bind_of_same (perform_findSettings m path), FileTree.layerAt]
  cases m.files.settingsPath? path with
  | none => rfl
  | some found =>
    have hread : m.perform (.readFile found .done) = ⟨.ok (m.files.readText found), [], [], m.files⟩ :=
      rfl
    dsimp only
    rw [Machine.perform_bind_of_same hread]
    cases m.files.readText found <;> rfl

theorem perform_loadSettings_eq (m : Machine) (config : Option Text) :
    m.perform (loadSettings config) = m.perform (match m.files.settings config with
      | .ok settings => pure settings
      | .error fault => fail ("Failed to load configuration: ".toList ++ fault.message)) := by
  rw [loadSettings, Machine.perform_bind_of_same (perform_readLayer m localSettings true)]
  cases config with
  | none => rfl
  | some path =>
    dsimp only
    rw [Machine.perform_bind_of_same (perform_readLayer m path false)]
    rfl

theorem perform_loadSettings {config : Option Text} {settings : Settings}
    (h : m.files.settings config = .ok settings) :
    m.perform (loadSettings config) = ⟨.ok settings, [], [], m.files⟩ := by
  rw [perform_loadSettings_eq, h]
  rfl

theorem gaveUp_loadSettings {config : Option Text} {fault : SettingsFault}
    (h : m.files.settings config = .error fault) :
    (m.perform (loadSettings config)).GaveUp m.files := by
  rw [perform_loadSettings_eq, h]
  exact Effect.GaveUp.fail m _

/-! ## Colours -/

/-- What has colours in a run on the machine. -/
def colours (m : Machine) : ColourChoice → Colouring
  | .always => ⟨true, true⟩
  | .never => ⟨false, false⟩
  | .auto => ⟨m.styled, m.terminal⟩

theorem colours_highlight_iff {choice : ColourChoice} :
    ((colours m choice).styled && (colours m choice).highlighted) = true ↔
      choice = .always ∨ choice = .auto ∧ m.styled = true ∧ m.terminal = true := by
  cases choice <;> simp [colours]

theorem perform_colouring (m : Machine) (choice : ColourChoice) :
    m.perform (colouring choice) = ⟨.ok (colours m choice), [], [], m.files⟩ := by
  cases choice <;> rfl

/-! ## Command lines -/

/-- The warnings about the filter of reported steps, as they are written. -/
def warningText (texts : LibraryTexts) : Text :=
  texts.warnings.flatMap (· ++ ['\n'])

variable {words : List Text} {i : Invocation} {command : Command}

theorem perform_warnings (m : Machine) (texts : LibraryTexts) :
    m.perform (forEach complain texts.warnings) = ⟨.ok (), [], warningText texts, m.files⟩ :=
  Machine.perform_forEach texts.warnings fun warning _ => Machine.perform_complain m warning

theorem perform_run_eq (texts : LibraryTexts) (hread : Invocation.read words = .ok i) :
    m.perform (run texts words) = (m.perform (runInvocation i)).after [] (warningText texts) := by
  rw [run, Machine.perform_bind_of_same (perform_warnings m texts), hread]

/-- A command is carried out with the settings and the table. -/
theorem perform_run {settings : Settings} {table : TagTable} (texts : LibraryTexts)
    (hread : Invocation.read words = .ok i) (hlist : i.listFormats = false)
    (hcommand : i.command = some command) (h : m.files.IsConfigured i.config settings table) :
    m.perform (run texts words) =
      (m.perform (runCommand (colours m i.colour) settings table command)).after []
        (warningText texts) := by
  rw [perform_run_eq texts hread, runInvocation,
    Machine.perform_bind_of_same (perform_colouring m i.colour), hlist, hcommand]
  simp only [Bool.false_eq_true, if_false]
  rw [Machine.perform_bind_of_same (perform_loadSettings h.settings_eq), h.table_eq]
  rfl

/-- Without settings or without a table no command is carried out. -/
theorem gaveUp_run (texts : LibraryTexts) (hread : Invocation.read words = .ok i)
    (hlist : i.listFormats = false)
    (h : ∀ settings table, ¬ m.files.IsConfigured i.config settings table) :
    (m.perform (run texts words)).GaveUp m.files := by
  rw [perform_run_eq texts hread, runInvocation,
    Machine.perform_bind_of_same (perform_colouring m i.colour), hlist]
  simp only [Bool.false_eq_true, if_false]
  apply Effect.GaveUp.after
  apply Effect.GaveUp.after
  cases hsettings : m.files.settings i.config with
  | error fault => exact (gaveUp_loadSettings hsettings).bind _
  | ok settings =>
    rw [Machine.perform_bind_of_same (perform_loadSettings hsettings)]
    apply Effect.GaveUp.after
    cases htable : settings.tagTable with
    | error fault => exact Effect.GaveUp.fail m _
    | ok table => exact absurd ⟨hsettings, htable⟩ (h settings table)

end Program

/-! ## A small world -/

/-- A machine without traces, terminals and styles, that works in the directory `/home/work`. -/
def Machine.working (nodes : List (List Text × Node)) (input : Text) : Machine :=
  { files := ⟨[(["home".toList], .directory), (["home".toList, "work".toList], .directory)] ++ nodes,
      ["home".toList, "work".toList]⟩
    input := encodeText input
    clock := ⟨0, 0⟩
    terminal := false
    styled := false
    traced := fun _ _ => false }

/-- The file with the text stands in the directory `/tmp`. -/
def Machine.workingBeside (name text : Text) : Machine :=
  .working [(["tmp".toList], .directory), (["tmp".toList, name], .file (encodeText text))] []

/-- No library says anything. -/
def LibraryTexts.silent : LibraryTexts :=
  ⟨[], fun _ _ => []⟩

end Tagdown
