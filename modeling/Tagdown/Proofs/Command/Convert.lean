/-
  Tagdown.Proofs.Command.Convert

  What a run of the command `convert` leaves behind. It succeeds exactly if everything it
  needs is there (`Program.CanConvert`); then the markdown stands in one place and all else
  is as it was (`Program.Delivers`). A run that fails leaves the files and has no output.

  The module goes through the command from its end: first where the markdown goes, then
  the diagnostics before it, then the text before these.
-/

import Tagdown.Proofs.Command.Parts
import Tagdown.Proofs.Display.Lines
import Tagdown.Proofs.Path
import Tagdown.Proofs.Tag.Declared

namespace Tagdown
namespace Program

open Script (report fail forEach complain printLine)

variable {m : Machine} {settings : Settings} {table : TagTable} {t : Conversion}
variable {input output : Option Text} {save : Bool} {c : Colouring} {source path name : Text}

/-! ## Where the markdown goes -/

/-- The file that the markdown is to be written to: the one that is named, else, if it is to
    be saved, the one with the name of the first tag in the directory of the settings. -/
inductive IsDestination (settings : Settings) (t : Conversion) :
    Option Text → Bool → Text → Prop where
  | output (path : Text) (save : Bool) : IsDestination settings t (some path) save path
  | saved {first : Block} {rest : List Block} (h : t.blocks = first :: rest) :
      IsDestination settings t none true
        (Path.join settings.directory (first.name ++ ".md".toList))

theorem convertTarget_eq_some_iff (hne : t.blocks ≠ []) :
    convertTarget settings output save t = some path ↔ IsDestination settings t output save path := by
  obtain ⟨first, rest, hblocks⟩ := List.exists_cons_of_ne_nil hne
  have hname : t.fileName = first.name ++ ".md".toList := by rw [Conversion.fileName, hblocks]
  constructor
  · intro h
    cases output with
    | some named =>
      obtain rfl : named = path := Option.some.inj h
      exact .output named save
    | none =>
      -- Without an output only a run that saves has a target, named after the first block.
      cases save with
      | false => cases h
      | true =>
        obtain rfl := Option.some.inj h
        rw [hname]
        exact .saved hblocks
  · rintro (_ | hfirst)
    · rfl
    · rw [hblocks, List.cons.injEq] at hfirst
      rw [convertTarget, hname, hfirst.1]
      rfl

/-- A markdown that is to be saved has one destination, named after its first block. -/
theorem IsDestination.exists_saved (settings : Settings) (hne : t.blocks ≠ []) :
    ∃ path, IsDestination settings t none true path := by
  obtain ⟨first, rest, hblocks⟩ := List.exists_cons_of_ne_nil hne
  exact ⟨_, .saved hblocks⟩

theorem IsDestination.unique {other : Text} (hne : t.blocks ≠ [])
    (h : IsDestination settings t output save path)
    (h' : IsDestination settings t output save other) : path = other := by
  rw [← convertTarget_eq_some_iff hne] at h h'
  exact Option.some.inj (h.symm.trans h')

/-- A saved file is named after a tag of the table, so it lies in the directory itself. -/
theorem IsDestination.lies_in_directory {text : Text}
    (h : IsDestination settings (.ofText table text) none true path) :
    ∃ name, (Conversion.ofText table text).blocks.head?.map (·.name) = some name ∧
      Tag.IsWord name ∧ Path.components path =
        Path.components settings.directory ++ [.normal (name ++ ".md".toList)] := by
  obtain _ | @⟨first, rest, hblocks⟩ := h
  have hmem : first ∈ (Conversion.ofText table text).blocks := hblocks ▸ List.mem_cons_self
  obtain ⟨marker, htag, -⟩ := (Conversion.wellFormed_of_mem_blocks hmem).exists_marker
  -- A name has letters and digits only, so it cannot leave the directory.
  have hname := (table.valid _ htag).1
  have hslash : '/' ∉ first.name ++ ".md".toList :=
    List.not_mem_append (Tag.not_mem_of_isName hname (by decide)) (by decide)
  have hlength : 2 < (first.name ++ ".md".toList).length := by
    rw [List.length_append]
    show 2 < first.name.length + 3
    omega
  exact ⟨first.name, by rw [hblocks]; rfl, Tag.isName_iff.mp hname,
    Path.components_join settings.directory hslash hlength⟩

/-! ## The last part of the command -/

/-- What `convert` does with a conversion that is diagnosed. -/
def deliver (c : Colouring) (settings : Settings) (name : Text) (output : Option Text) (save : Bool)
    (t : Conversion) : Script Unit :=
  if t.blocks.isEmpty then
    fail ("Error: No valid content to process in '".toList ++ name ++ "'".toList)
  else
    match convertTarget settings output save t with
    | some path => do
      writeTarget path t.markdown
      complain ("File saved: ".toList ++ path)
    | none =>
      printLine (if c.highlighted then Display.markdown c.styled t.markdown else t.markdown)

/-- The markdown on the standard output. It is highlighted if it is to be and styles are
    written. -/
def shownMarkdown (c : Colouring) (t : Conversion) : Text :=
  if c.styled && c.highlighted then Display.markdown true t.markdown else t.markdown

theorem shownMarkdown_eq (c : Colouring) (t : Conversion) :
    shownMarkdown c t = Display.markdown (c.styled && c.highlighted) t.markdown := by
  rw [shownMarkdown]
  cases c.styled && c.highlighted with
  | true => rfl
  | false => exact (Display.markdown_off t.markdown).symm

/-- Markdown that is not to be highlighted is written as if there were no styles. -/
theorem ite_highlighted_eq (c : Colouring) (t : Text) :
    (if c.highlighted then Display.markdown c.styled t else t) =
      Display.markdown (c.styled && c.highlighted) t := by
  cases c.highlighted with
  | true => rw [Bool.and_true, if_pos rfl]
  | false => rw [Bool.and_false, Display.markdown_off, if_neg Bool.false_ne_true]

theorem gaveUp_deliver_of_nil (h : t.blocks = []) :
    (m.perform (deliver c settings name output save t)).GaveUp m.files := by
  rw [deliver, h]
  exact Effect.GaveUp.fail m _

theorem gaveUp_deliver (hne : t.blocks ≠ []) (h : IsDestination settings t output save path)
    (hwritable : ¬ m.files.IsWritable path) :
    (m.perform (deliver c settings name output save t)).GaveUp m.files := by
  rw [deliver, if_neg (by simpa using hne), (convertTarget_eq_some_iff hne).mpr h]
  exact (gaveUp_writeTarget hwritable).bind _

theorem perform_deliver_file (c : Colouring) (name : Text) (hne : t.blocks ≠ [])
    (h : IsDestination settings t output save path) {later : FileTree}
    (hwrite : m.files.write path (encodeText t.markdown) = .ok later) :
    ∃ err, m.perform (deliver c settings name output save t) = ⟨.ok (), [], err, later⟩ := by
  rw [deliver, if_neg (by simpa using hne), (convertTarget_eq_some_iff hne).mpr h]
  dsimp only
  rw [Machine.perform_bind_of_ok (perform_writeTarget hwrite), Machine.perform_complain]
  exact ⟨_, rfl⟩

theorem perform_deliver_shown (hne : t.blocks ≠ [])
    (h : ∀ path, ¬ IsDestination settings t output save path) :
    m.perform (deliver c settings name output save t) =
      ⟨.ok (), shownMarkdown c t ++ ['\n'], [], m.files⟩ := by
  have hnone : convertTarget settings output save t = none := by
    rw [Option.eq_none_iff_forall_ne_some]
    exact fun path hpath => h path ((convertTarget_eq_some_iff hne).mp hpath)
  rw [deliver, if_neg (by simpa using hne), hnone, shownMarkdown_eq, ← ite_highlighted_eq]
  exact Machine.perform_printLine m _

/-! ## The text and its diagnostics -/

/-- The text that is to be converted: that of a file if one is named, else that of the
    standard input. -/
def sourceText (m : Machine) (input : Option Text) : Except FileFault Text :=
  match input with
  | none => decodeText m.input
  | some path => if path = inputMark then decodeText m.input else m.files.readText path

/-- The diagnostics as they are written, each with a line feed behind it. -/
def diagnosticText (colour : Bool) (t : Conversion) : Text :=
  t.diagnostics.flatMap fun d => Display.diagnostic colour d ++ ['\n']

theorem perform_convertSource (h : sourceText m input = .ok source) :
    ∃ name log, m.IsLog log ∧
      m.perform (convertSource input) = ⟨.ok (name, source), [], log, m.files⟩ := by
  cases input with
  | none =>
    refine ⟨"<stdin>".toList, _, m.isLog_traceText .program "reading stdin".toList, ?_⟩
    rw [convertSource, Machine.perform_bind_of_same (perform_readInput h)]
    simp [Effect.after]
  | some path =>
    rw [sourceText] at h
    rw [convertSource]
    by_cases hmark : path = inputMark
    · rw [if_pos hmark] at h
      refine ⟨"<stdin>".toList, _, m.isLog_traceText .program "reading stdin".toList, ?_⟩
      rw [if_pos hmark, Machine.perform_bind_of_same (perform_readInput h)]
      simp [Effect.after]
    · rw [if_neg hmark] at h
      refine ⟨path, _, m.isLog_traceText .program ("reading ".toList ++ path), ?_⟩
      rw [if_neg hmark, Machine.perform_bind_of_same (perform_readSource h)]
      simp [Effect.after]

theorem gaveUp_convertSource {fault : FileFault} (h : sourceText m input = .error fault) :
    (m.perform (convertSource input)).GaveUp m.files := by
  cases input with
  | none => exact (gaveUp_readInput h).bind _
  | some path =>
    rw [sourceText] at h
    rw [convertSource]
    by_cases hmark : path = inputMark
    · rw [if_pos hmark] at h
      rw [if_pos hmark]
      exact (gaveUp_readInput h).bind _
    · rw [if_neg hmark] at h
      rw [if_neg hmark]
      exact (gaveUp_readSource h).bind _

/-- Whatever becomes of the conversion, its diagnostics are written before. -/
theorem perform_convert (c : Colouring) (settings : Settings) (table : TagTable)
    (output : Option Text) (save : Bool) (h : sourceText m input = .ok source) :
    ∃ name log, m.IsLog log ∧
      m.perform (convert c settings table input output save) =
        (m.perform (deliver c settings name output save (.ofText table source))).after []
          (log ++ diagnosticText c.styled (.ofText table source)) := by
  obtain ⟨name, log, hlog, hsource⟩ := perform_convertSource h
  have htrace : m.perform (forEach (report .conversion) (Conversion.ofText table source).trace) =
      ⟨.ok (), [], (Conversion.ofText table source).trace.flatMap (m.traceText .conversion), m.files⟩ :=
    Machine.perform_forEach _ fun step _ => Machine.perform_report m .conversion step
  have hdiagnostics : m.perform (forEach (fun d => complain (Display.diagnostic c.styled d))
      (Conversion.ofText table source).diagnostics) =
      ⟨.ok (), [], diagnosticText c.styled (.ofText table source), m.files⟩ :=
    Machine.perform_forEach _ fun d _ => Machine.perform_complain m (Display.diagnostic c.styled d)
  refine ⟨name, _, hlog.append (m.isLog_flatMap .conversion (Conversion.ofText table source).trace), ?_⟩
  rw [convert, Machine.perform_bind_of_same hsource, Machine.perform_bind_of_same htrace,
    Machine.perform_bind_of_same hdiagnostics, Effect.after_after, Effect.after_after]
  rfl

/-! ## Whole runs -/

/-- What a run of `convert` needs: settings and their table, a text, a line of it that is
    recognized, and a file that can be written if the markdown goes to one. -/
structure CanConvert (m : Machine) (config input output : Option Text) (save : Bool)
    (settings : Settings) (table : TagTable) (source : Text) : Prop where
  configured : m.files.IsConfigured config settings table
  source_eq : sourceText m input = .ok source
  recognized : (Conversion.ofText table source).blocks ≠ []
  writable : ∀ path, IsDestination settings (.ofText table source) output save path →
    m.files.IsWritable path

/-- The markdown stands in one place: in the file it is to be written to, without an output,
    or on the standard output, without a change of the files. -/
structure Delivers (m : Machine) (c : Colouring) (settings : Settings) (t : Conversion)
    (output : Option Text) (save : Bool) (o : Outcome) : Prop where
  file : ∀ path, IsDestination settings t output save path →
    m.files.Puts path (encodeText t.markdown) o.files ∧ o.out = []
  /-- A saved file lies in the directory of the settings and is named after a tag. -/
  saved : output = none → save = true → ∃ path name, IsDestination settings t output save path ∧
    Tag.IsWord name ∧ t.blocks.head?.map (·.name) = some name ∧
      Path.components path =
        Path.components settings.directory ++ [.normal (name ++ ".md".toList)]
  shown : output = none → save = false → o.files = m.files ∧ o.out = shownMarkdown c t ++ ['\n']

/-- The diagnostics are written in order, two lines each, behind what the log has of the
    steps before. -/
structure Diagnoses (m : Machine) (texts : LibraryTexts) (colour : Bool) (t : Conversion)
    (err : Text) : Prop where
  in_order : ∃ log rest, m.IsLog log ∧
    err = warningText texts ++ log ++ diagnosticText colour t ++ rest
  /-- Without a log they come first. -/
  first : texts.warnings = [] → (∀ source step, m.traced source step = false) →
    diagnosticText colour t <+: err
  two_lines : ∀ d ∈ t.diagnostics, (Text.lines (Display.diagnostic colour d)).length = 2

section Runs

variable {texts : LibraryTexts} {words : List Text} {i : Invocation}

/-- The whole run, as far as it does not depend on what becomes of the conversion. -/
theorem perform_run_convert (texts : LibraryTexts) (hread : Invocation.read words = .ok i)
    (hlist : i.listFormats = false) (hcommand : i.command = some (.convert input output save))
    (hconfigured : m.files.IsConfigured i.config settings table)
    (hsource : sourceText m input = .ok source) :
    ∃ name log, m.IsLog log ∧ m.perform (run texts words) =
      (m.perform (deliver (colours m i.colour) settings name output save (.ofText table source))).after
        [] (warningText texts ++ log ++ diagnosticText (colours m i.colour).styled (.ofText table source)) := by
  obtain ⟨name, log, hlog, hconvert⟩ :=
    perform_convert (colours m i.colour) settings table output save hsource
  refine ⟨name, log, hlog, ?_⟩
  rw [perform_run texts hread hlist hcommand hconfigured, runCommand, hconvert,
    Effect.after_after, List.append_assoc (warningText texts)]
  rfl

theorem gaveUp_run_convert (texts : LibraryTexts) (hread : Invocation.read words = .ok i)
    (hlist : i.listFormats = false) (hcommand : i.command = some (.convert input output save))
    (h : ∀ settings table source,
      ¬ CanConvert m i.config input output save settings table source) :
    (m.perform (run texts words)).GaveUp m.files := by
  by_cases hconfigured : ∃ settings table, m.files.IsConfigured i.config settings table
  case neg =>
    push Not at hconfigured
    exact gaveUp_run texts hread hlist hconfigured
  obtain ⟨settings, table, hconfigured⟩ := hconfigured
  cases hsource : sourceText m input with
  | error fault =>
    rw [perform_run texts hread hlist hcommand hconfigured]
    exact ((gaveUp_convertSource hsource).bind _).after _
  | ok source =>
    obtain ⟨name, log, -, hrun⟩ := perform_run_convert texts hread hlist hcommand hconfigured hsource
    rw [hrun]
    apply Effect.GaveUp.after
    by_cases hne : (Conversion.ofText table source).blocks = []
    · exact gaveUp_deliver_of_nil hne
    -- Only a file that cannot be written is left as a reason.
    obtain ⟨path, hpath, hwritable⟩ : ∃ path,
        IsDestination settings (.ofText table source) output save path ∧
          ¬ m.files.IsWritable path := by
      by_contra hnone
      push Not at hnone
      exact h settings table source ⟨hconfigured, hsource, hne, hnone⟩
    exact gaveUp_deliver hne hpath hwritable

theorem delivers_run (texts : LibraryTexts) (hread : Invocation.read words = .ok i)
    (hlist : i.listFormats = false) (hcommand : i.command = some (.convert input output save))
    (h : CanConvert m i.config input output save settings table source) :
    (m.run (run texts words)).code = 0 ∧
      Delivers m (colours m i.colour) settings (.ofText table source) output save
        (m.run (run texts words)) := by
  have hne := h.recognized
  obtain ⟨name, log, -, hrun⟩ :=
    perform_run_convert texts hread hlist hcommand h.configured h.source_eq
  have hsaved : output = none → save = true → ∃ path name,
      IsDestination settings (.ofText table source) output save path ∧ Tag.IsWord name ∧
        (Conversion.ofText table source).blocks.head?.map (·.name) = some name ∧
          Path.components path =
            Path.components settings.directory ++ [.normal (name ++ ".md".toList)] := by
    rintro rfl rfl
    obtain ⟨path, hpath⟩ := IsDestination.exists_saved settings hne
    obtain ⟨name, hhead, hword, hcomponents⟩ := hpath.lies_in_directory
    exact ⟨path, name, hpath, hword, hhead, hcomponents⟩
  -- The markdown goes to the one file that it has as its destination, or is shown.
  by_cases hfile : ∃ path, IsDestination settings (.ofText table source) output save path
  · obtain ⟨path, hpath⟩ := hfile
    obtain ⟨later, hwrite⟩ := (FileTree.isWritable_iff _).mp (h.writable path hpath)
    obtain ⟨err, hdeliver⟩ :=
      perform_deliver_file (colours m i.colour) name hne hpath hwrite
    rw [Machine.run_eq, hrun, hdeliver]
    refine ⟨rfl, fun other hother => ?_, hsaved, ?_⟩
    · obtain rfl := hpath.unique hne hother
      exact ⟨FileTree.puts_of_write hwrite, rfl⟩
    · rintro rfl rfl
      cases hpath
  · push Not at hfile
    rw [Machine.run_eq, hrun, perform_deliver_shown hne hfile]
    exact ⟨rfl, fun path hpath => absurd hpath (hfile path), hsaved, fun _ _ => ⟨rfl, rfl⟩⟩

theorem diagnoses_run (texts : LibraryTexts) (hread : Invocation.read words = .ok i)
    (hlist : i.listFormats = false) (hcommand : i.command = some (.convert input output save))
    (hconfigured : m.files.IsConfigured i.config settings table)
    (hsource : sourceText m input = .ok source) :
    Diagnoses m texts (colours m i.colour).styled (.ofText table source)
      (m.run (run texts words)).err := by
  obtain ⟨name, log, hlog, hrun⟩ := perform_run_convert texts hread hlist hcommand hconfigured hsource
  rw [Machine.run_err, hrun, Effect.after_err]
  refine ⟨⟨log, _, hlog, rfl⟩, ?_, fun d => Display.lines_diagnostic _⟩
  intro hsilent hquiet
  rw [hlog.eq_nil hquiet, warningText, hsilent]
  exact List.prefix_append _ _

/-- A run of `convert` succeeds exactly if everything it needs is there, and then the
    markdown stands in the one place it is to go to. A run that fails leaves the files as
    they were and has no output. As soon as there is a text, its diagnostics are written,
    whether the run succeeds or not. Markdown on the standard output is highlighted where
    colours are asked for, and without a choice on a terminal with styles. -/
theorem convert_is_all_or_nothing (m : Machine) (texts : LibraryTexts)
    (hread : Invocation.read words = .ok i) (hlist : i.listFormats = false)
    (hcommand : i.command = some (.convert input output save)) :
    let o := m.run (run texts words)
    let c := colours m i.colour
    (o.code = 0 ↔ ∃ settings table source,
      CanConvert m i.config input output save settings table source) ∧
    (∀ settings table source, CanConvert m i.config input output save settings table source →
      Delivers m c settings (.ofText table source) output save o) ∧
    (o.code ≠ 0 → o.files = m.files ∧ o.out = []) ∧
    (∀ settings table source, m.files.IsConfigured i.config settings table →
      sourceText m input = .ok source → Diagnoses m texts c.styled (.ofText table source) o.err) ∧
    ((c.styled && c.highlighted) = true ↔
      i.colour = .always ∨ i.colour = .auto ∧ m.styled = true ∧ m.terminal = true) := by
  intro o c
  by_cases hcan : ∃ settings table source,
      CanConvert m i.config input output save settings table source
  · obtain ⟨settings, table, source, h⟩ := hcan
    have hcode := (delivers_run texts hread hlist hcommand h).1
    exact ⟨iff_of_true hcode ⟨settings, table, source, h⟩,
      fun _ _ _ h => (delivers_run texts hread hlist hcommand h).2,
      fun hfail => absurd hcode hfail,
      fun _ _ _ => diagnoses_run texts hread hlist hcommand, colours_highlight_iff⟩
  · have hnone : ∀ settings table source,
        ¬ CanConvert m i.config input output save settings table source := by
      push Not at hcan
      exact hcan
    obtain ⟨hcode, hout, hfiles⟩ := (gaveUp_run_convert texts hread hlist hcommand hnone).outcome
    exact ⟨iff_of_false (by rw [hcode]; decide) hcan,
      fun settings table source h => absurd h (hnone settings table source),
      fun _ => ⟨hfiles, hout⟩,
      fun _ _ _ => diagnoses_run texts hread hlist hcommand, colours_highlight_iff⟩

end Runs

/-! ## Two runs -/

/-- The settings where there is no file of settings. -/
def builtInSettings : Settings :=
  ⟨['.'], 20, "console".toList, []⟩

/-- One of two lines of a file elsewhere is recognized, and the markdown is saved under the name
    of its tag where the run works. -/
theorem convert_saves_first_tag :
    let words := ["convert".toList, "/tmp/notes.tags".toList, "--save".toList]
    let m := Machine.workingBeside "notes.tags".toList "oops\nAAA(Title)".toList
    Invocation.read words =
        .ok ⟨false, none, .auto, some (.convert (some "/tmp/notes.tags".toList) none true)⟩ ∧
      let o := m.run (run .silent words)
      o.code = 0 ∧ o.out = [] ∧ "Line 1: Invalid format: \"oops\"\n".toList <+: o.err ∧
        o.files.get? ["home".toList, "work".toList, "AAA.md".toList] =
          some (.file (encodeText "# Title".toList)) := by
  intro words m
  have hread : Invocation.read words =
      .ok ⟨false, none, .auto, some (.convert (some "/tmp/notes.tags".toList) none true)⟩ := rfl
  refine ⟨hread, ?_⟩
  obtain ⟨hcode, hdelivers, -, hdiagnoses, -⟩ := convert_is_all_or_nothing m .silent hread rfl rfl
  have hconfigured : m.files.IsConfigured none builtInSettings .standard := ⟨rfl, rfl⟩
  have hsource : sourceText m (some "/tmp/notes.tags".toList) = .ok "oops\nAAA(Title)".toList :=
    FileTree.readText_of_read rfl
  have hblocks : (Conversion.ofText .standard "oops\nAAA(Title)".toList).blocks =
      [⟨"AAA".toList, "Title".toList, "# Title".toList⟩] := rfl
  have hdestination : IsDestination builtInSettings
      (.ofText .standard "oops\nAAA(Title)".toList) none true "./AAA.md".toList :=
    .saved hblocks
  have hplace : m.files.resolve "./AAA.md".toList =
      .ok ["home".toList, "work".toList, "AAA.md".toList] := rfl
  -- Everything the run needs is there, so what is known of such runs gives the rest.
  have hcan : CanConvert m none (some "/tmp/notes.tags".toList) none true builtInSettings .standard
      "oops\nAAA(Title)".toList := by
    refine ⟨hconfigured, hsource, by decide, fun path hpath => ?_⟩
    obtain rfl := hdestination.unique (by decide) hpath
    exact ⟨by decide, _, hplace, by rw [FileTree.get?_cons]; nofun⟩
  obtain ⟨hfile, -, -⟩ := hdelivers _ _ _ hcan
  obtain ⟨⟨place, hresolve, hput, -⟩, hout⟩ := hfile _ hdestination
  obtain rfl := Except.ok.inj (hplace.symm.trans hresolve)
  have hfirst := (hdiagnoses _ _ _ hconfigured hsource).first rfl fun _ _ => rfl
  refine ⟨hcode.mpr ⟨_, _, _, hcan⟩, hout, List.IsPrefix.trans ?_ hfirst, hput⟩
  decide

/-- Where colours are asked for, the markdown is not what stands on the standard output. -/
theorem coloured_output_is_not_the_markdown :
    let words := ["convert".toList, "--color".toList, "always".toList]
    let m := Machine.working [] "AAA(Title)".toList
    Invocation.read words = .ok ⟨false, none, .always, some (.convert none none false)⟩ ∧
      CanConvert m none none none false builtInSettings .standard "AAA(Title)".toList ∧
      let o := m.run (run .silent words)
      o.code = 0 ∧
        o.out ≠ (Conversion.ofText .standard "AAA(Title)".toList).markdown ++ ['\n'] := by
  intro words m
  have hread : Invocation.read words =
      .ok ⟨false, none, .always, some (.convert none none false)⟩ := rfl
  have hcan : CanConvert m none none none false builtInSettings .standard "AAA(Title)".toList :=
    ⟨⟨rfl, rfl⟩, decodeText_encodeText _, by decide, nofun⟩
  obtain ⟨hcode, -, -, hshown⟩ := delivers_run .silent hread rfl rfl hcan
  refine ⟨hread, hcan, hcode, ?_⟩
  rw [(hshown rfl rfl).2]
  decide

end Program
end Tagdown
