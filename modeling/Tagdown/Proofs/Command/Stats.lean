/-
  Tagdown.Proofs.Command.Stats

  What a run of the command `stats` leaves behind. It makes the report in one format, puts
  it where it is asked for and then, if it is to be saved, writes the report for programs
  next to the input (`Program.Reports`). Both files are written after everything was read,
  so it does not matter whether they are one file, or the input.

  The module goes through the command from its end: first the file that is saved, then the
  report before it, then the text before that.
-/

import Tagdown.Proofs.Command.Parts
import Tagdown.Proofs.Latest
import Tagdown.Proofs.Statistics.Extent

namespace Tagdown

/-! ## Formats -/

/-- The report in a format, made at the given time. Only two formats are known. -/
def reportIn? (format : Text) (s : Statistics) (now : Instant) : Option Text :=
  if format = "console".toList then some (ConsoleReport.render s)
  else if format = "json".toList then some (ReportDocument.write ⟨s, now.timestamp⟩)
  else none

theorem reportIn?_eq_none {format : Text} (hconsole : format ≠ "console".toList)
    (hjson : format ≠ "json".toList) (s : Statistics) (now : Instant) :
    reportIn? format s now = none := by
  rw [reportIn?, if_neg hconsole, if_neg hjson]

theorem Registry.standard_formats : standard.formats = [.console, .json] :=
  rfl

theorem Registry.find?_standard (format : Text) :
    standard.formats.find? (·.name == format) =
      if "console".toList = format then some .console
      else if "json".toList = format then some .json
      else none := by
  rw [standard_formats, find?_key_cons, find?_key_cons]
  rfl

theorem Registry.render_standard (format : Text) (s : Statistics) (now : Instant) :
    standard.render format s now =
      match reportIn? format s now with
      | some t => .ok t
      | none => .error (.formatNotFound format) := by
  rw [render, get, find?_standard, reportIn?]
  by_cases hconsole : format = "console".toList
  · rw [if_pos hconsole.symm, if_pos hconsole]
    rfl
  by_cases hjson : format = "json".toList
  · rw [if_neg (Ne.symm hconsole), if_pos hjson.symm, if_neg hconsole, if_pos hjson]
    rfl
  · rw [if_neg (Ne.symm hconsole), if_neg (Ne.symm hjson), if_neg hconsole, if_neg hjson]
    rfl

theorem Registry.detect?_standard (fileName : Text) :
    standard.detect? fileName =
      if Path.extension? fileName = some "json".toList then some "json".toList
      else if Path.extension? fileName = some "txt".toList then some "console".toList
      else none := by
  rw [detect?, standard_formats]
  cases Path.extension? fileName with
  | none => rfl
  | some extension =>
    have hone : ∀ only : Text, [only].contains extension = decide (extension = only) := by simp
    have hconsole : ReportFormat.console.extensions.contains extension =
        decide (extension = "txt".toList) := hone _
    have hjson : ReportFormat.json.extensions.contains extension =
        decide (extension = "json".toList) := hone _
    simp only [List.find?_cons, hconsole, hjson, Option.some.injEq]
    by_cases htxt : extension = "txt".toList
    · subst htxt
      rfl
    · by_cases hext : extension = "json".toList
      · subst hext
        rfl
      · simp only [htxt, hext, decide_false, if_false]
        rfl

namespace Program

open Script (report fail forEach complain printLine)

/-- The format of a report: the one that is named, else the one that the extension of the
    output stands for, else the one of the settings. -/
def chosenFormat (settings : Settings) (format output : Option Text) : Text :=
  match format with
  | some format => format
  | none =>
    if output.bind Path.extension? = some "json".toList then "json".toList
    else if output.bind Path.extension? = some "txt".toList then "console".toList
    else settings.format

theorem reportFormat_eq (settings : Settings) (format output : Option Text) :
    reportFormat settings format output = chosenFormat settings format output := by
  cases format with
  | some format => rfl
  | none =>
    cases output with
    | none => rfl
    | some path =>
      rw [reportFormat, chosenFormat, Option.bind_some, Registry.detect?_standard, Option.bind_some]
      split_ifs <;> rfl

variable {m : Machine} {colour save : Bool} {input format path t report : Text}
variable {output : Option Text} {s : Statistics} {later : FileTree}

theorem perform_makeReport (h : reportIn? format s m.clock = some report) :
    m.perform (makeReport format s) = ⟨.ok report, [], [], m.files⟩ := by
  have hnow : m.perform (.now .done) = ⟨.ok m.clock, [], [], m.files⟩ := rfl
  rw [makeReport, Machine.perform_bind_of_same hnow, Registry.render_standard, h]
  rfl

theorem gaveUp_makeReport (h : reportIn? format s m.clock = none) :
    (m.perform (makeReport format s)).GaveUp m.files := by
  have hnow : m.perform (.now .done) = ⟨.ok m.clock, [], [], m.files⟩ := rfl
  rw [makeReport, Machine.perform_bind_of_same hnow, Registry.render_standard, h]
  exact (Effect.GaveUp.fail m _).after _

/-! ## The file that is saved -/

/-- The report for programs, made at the time of the machine. -/
def savedReport (m : Machine) (s : Statistics) : Text :=
  ReportDocument.write ⟨s, m.clock.timestamp⟩

/-- What `stats` does when the report is out. -/
def saveReport (input format : Text) (s : Statistics) (report : Text) : Script Unit := do
  let json ← if format = "json".toList then pure report else makeReport "json".toList s
  writeTarget (statisticsPath input) json
  complain ("JSON report saved: ".toList ++ statisticsPath input)

/-- Whatever the format, the report for programs is written. -/
theorem perform_saveReport_eq (input : Text) (h : reportIn? format s m.clock = some report) :
    m.perform (saveReport input format s report) = m.perform (do
      writeTarget (statisticsPath input) (savedReport m s)
      complain ("JSON report saved: ".toList ++ statisticsPath input)) := by
  by_cases hjson : format = "json".toList
  · subst hjson
    obtain rfl : savedReport m s = report := Option.some.inj h
    rw [saveReport, if_pos rfl]
    rfl
  · have hmake : m.perform (makeReport "json".toList s) = ⟨.ok (savedReport m s), [], [], m.files⟩ :=
      perform_makeReport rfl
    rw [saveReport, if_neg hjson]
    exact Machine.perform_bind_of_same hmake

/-- The file that is saved, if one is. -/
def saveTarget (input : Text) (save : Bool) : Option Text :=
  if save then some (statisticsPath input) else none

theorem saveTarget_eq_some_iff :
    saveTarget input save = some path ↔ save = true ∧ path = statisticsPath input := by
  cases save with
  | false => simp [saveTarget]
  | true => simp [saveTarget, eq_comm]

theorem perform_save (m : Machine) (h : reportIn? format s m.clock = some report)
    (hwrite : m.files.WritesTo (saveTarget input save) (encodeText (savedReport m s)) later) :
    ∃ err, m.perform (if save then saveReport input format s report else pure ()) =
      ⟨.ok (), [], err, later⟩ := by
  cases save with
  | false =>
    obtain rfl : later = m.files := hwrite
    exact ⟨[], rfl⟩
  | true =>
    rw [if_pos rfl, perform_saveReport_eq input h,
      Machine.perform_bind_of_ok (perform_writeTarget hwrite), Machine.perform_complain]
    exact ⟨_, rfl⟩

theorem gaveUp_save (m : Machine) (input : Text) (h : reportIn? format s m.clock = some report)
    (hwritable : ¬ m.files.IsWritable (statisticsPath input)) :
    (m.perform (if true then saveReport input format s report else pure ())).GaveUp m.files := by
  rw [if_pos rfl, perform_saveReport_eq input h]
  exact (gaveUp_writeTarget hwritable).bind _

/-! ## The report -/

/-- What `stats` does with the report, and what it does then. -/
def putReport (colour : Bool) (format : Text) (output : Option Text) (report : Text)
    (next : Script Unit) : Script Unit :=
  match output with
  | some path => do
    writeTarget path report
    complain ("Report saved: ".toList ++ path)
    next
  | none => do
    printLine (if format = "console".toList then Display.report colour report else report)
    next

/-- What stands on the standard output: the report, unless it goes to a file. -/
def shownReport (colour : Bool) (format : Text) (output : Option Text) (report : Text) : Text :=
  match output with
  | some _ => []
  | none =>
    (if format = "console".toList then Display.report colour report else report) ++ ['\n']

theorem perform_putReport (colour : Bool) (format : Text) (next : Script Unit)
    (hwrite : m.files.WritesTo output (encodeText report) later) :
    ∃ err, m.perform (putReport colour format output report next) =
      ((m.withFiles later).perform next).after (shownReport colour format output report) err := by
  cases output with
  | none =>
    obtain rfl : later = m.files := hwrite
    rw [putReport, Machine.perform_bind_of_same (Machine.perform_printLine m _)]
    exact ⟨[], rfl⟩
  | some path =>
    rw [putReport, Machine.perform_bind_of_ok (perform_writeTarget hwrite),
      Machine.perform_bind_of_same (Machine.perform_complain _ _), Effect.after_after]
    exact ⟨_, rfl⟩

theorem gaveUp_putReport {next : Script Unit} (hwritable : ¬ m.files.IsWritable path) :
    (m.perform (putReport colour format (some path) report next)).GaveUp m.files :=
  (gaveUp_writeTarget hwritable).bind _

/-! ## The command -/

theorem stats_eq (colour : Bool) (input format : Text) (output : Option Text) (save : Bool) :
    stats colour input format output save = (do
      let s ← analyze (← readSource input)
      let report ← makeReport format s
      putReport colour format output report
        (if save then saveReport input format s report else pure ())) :=
  rfl

theorem perform_analyze (m : Machine) (t : Text) :
    m.perform (analyze t) = ⟨.ok (.ofText t), [], m.traceText .statistics
      ((Statistics.ofText t).trace t), m.files⟩ := by
  rw [analyze, Machine.perform_bind_of_same (Machine.perform_report m _ _), Machine.perform_pure]
  simp [Effect.after]

theorem perform_stats (colour : Bool) (output : Option Text) (save : Bool)
    (hread : m.files.readText input = .ok t)
    (h : reportIn? format (Statistics.ofText t) m.clock = some report) :
    ∃ log, m.perform (stats colour input format output save) =
      (m.perform (putReport colour format output report
        (if save then saveReport input format (.ofText t) report else pure ()))).after [] log := by
  rw [stats_eq, Machine.perform_bind_of_same (perform_readSource hread),
    Machine.perform_bind_of_same (perform_analyze m t), Machine.perform_bind_of_same (perform_makeReport h),
    Effect.after_nil, Effect.after_after]
  exact ⟨_, rfl⟩

theorem gaveUp_stats (hreport : ∀ t, m.files.readText input = .ok t →
      reportIn? format (.ofText t) m.clock = none) :
    (m.perform (stats colour input format output save)).GaveUp m.files := by
  rw [stats_eq]
  cases hread : m.files.readText input with
  | error fault => exact (gaveUp_readSource hread).bind _
  | ok t =>
    rw [Machine.perform_bind_of_same (perform_readSource hread),
      Machine.perform_bind_of_same (perform_analyze m t)]
    exact (((gaveUp_makeReport (hreport t hread)).bind _).after _).after _

/-! ## Whole runs -/

/-- The paths of the files that a run may change. -/
def MayChange (input : Text) (output : Option Text) (save : Bool) (path : Text) : Prop :=
  output = some path ∨ save = true ∧ path = statisticsPath input

/-- What a run of `stats` needs besides settings: a text, a known format, and files that can
    be written where they are asked for. -/
structure CanReport (m : Machine) (format input : Text) (output : Option Text) (save : Bool)
    (t report : Text) : Prop where
  text_eq : m.files.readText input = .ok t
  report_eq : reportIn? format (.ofText t) m.clock = some report
  writable : ∀ path, MayChange input output save path → m.files.IsWritable path

/-- The report stands where it is asked for, and the report that is saved is read back as the
    statistics of the text. No other file is changed. -/
structure Reports (m : Machine) (colour : Bool) (format input : Text) (output : Option Text)
    (save : Bool) (t report : Text) (o : Outcome) : Prop where
  frame : ∀ place, o.files.get? place ≠ m.files.get? place →
    ∃ path, MayChange input output save path ∧ m.files.resolve path = .ok place
  shown : o.out = shownReport colour format output report
  /-- The report in the file is only replaced by the one that is saved in its place. -/
  written : ∀ path, output = some path → o.files.readText path = .ok report ∨
    save = true ∧ ∃ place, m.files.resolve (statisticsPath input) = .ok place ∧
      m.files.resolve path = .ok place
  /-- Texts that fit into memory have fewer bytes than a word counts. -/
  saved : save = true → ∃ json, o.files.readText (statisticsPath input) = .ok json ∧
    (Text.utf8Size t < wordLimit →
      ReportDocument.read json = .ok ⟨.ofText t, m.clock.timestamp⟩)

/-- The report was written before the file that is to be saved could not be. -/
structure ReportsInPart (m : Machine) (format input : Text) (output : Option Text) (save : Bool)
    (o : Outcome) : Prop where
  save_eq : save = true
  not_writable : ¬ m.files.IsWritable (statisticsPath input)
  written : ∃ path t report, output = some path ∧ m.files.readText input = .ok t ∧
    reportIn? format (.ofText t) m.clock = some report ∧
      m.files.Puts path (encodeText report) o.files

/-- A report of a text that fits into memory is read back. -/
theorem read_savedReport (m : Machine) (hsize : Text.utf8Size t < wordLimit) :
    ReportDocument.read (savedReport m (.ofText t)) = .ok ⟨.ofText t, m.clock.timestamp⟩ := by
  have hcounts : ∀ n ∈ (Statistics.ofText t).counts, n < wordLimit := fun n hn =>
    (Statistics.counts_le_length t n hn).trans_lt ((Text.length_le_utf8Size t).trans_lt hsize)
  obtain ⟨hplain, hformatting⟩ := Statistics.isTenth_ratios_ofText hsize
  have hreads := ReportDocument.readsAs_statistics hcounts (Json.readsAs_tenth hplain)
    (Json.readsAs_tenth hformatting)
  exact ReportDocument.read_write ⟨.ofText t, m.clock.timestamp⟩ m.clock.isPlain_timestamp hreads

section Runs

variable {settings : Settings} {table : TagTable} {words : List Text} {i : Invocation}
variable {format : Option Text}

theorem perform_run_stats (texts : LibraryTexts) (hread : Invocation.read words = .ok i)
    (hlist : i.listFormats = false) (hcommand : i.command = some (.stats input format output save))
    (hconfigured : m.files.IsConfigured i.config settings table) :
    m.perform (run texts words) =
      (m.perform (stats (colours m i.colour).styled input (chosenFormat settings format output) output
        save)).after [] (warningText texts) := by
  rw [perform_run texts hread hlist hcommand hconfigured, runCommand, reportFormat_eq]

/-- The whole run, as far as it does not depend on what becomes of the file that is saved. -/
theorem perform_run_report (texts : LibraryTexts) (hread : Invocation.read words = .ok i)
    (hlist : i.listFormats = false) (hcommand : i.command = some (.stats input format output save))
    (hconfigured : m.files.IsConfigured i.config settings table)
    (htext : m.files.readText input = .ok t)
    (hreport : reportIn? (chosenFormat settings format output) (.ofText t) m.clock = some report)
    (hwrite : m.files.WritesTo output (encodeText report) later) :
    ∃ err, m.perform (run texts words) = ((m.withFiles later).perform
      (if save then saveReport input (chosenFormat settings format output) (.ofText t) report
        else pure ())).after
      (shownReport (colours m i.colour).styled (chosenFormat settings format output) output report) err := by
  obtain ⟨log, hstats⟩ := perform_stats (colours m i.colour).styled output save htext hreport
  obtain ⟨err, hput⟩ := perform_putReport (colours m i.colour).styled (chosenFormat settings format output)
    (if save then saveReport input (chosenFormat settings format output) (.ofText t) report
      else pure ()) hwrite
  rw [perform_run_stats texts hread hlist hcommand hconfigured, hstats, hput, Effect.after_after,
    Effect.after_after]
  exact ⟨_, rfl⟩

theorem reports_run (texts : LibraryTexts) (hread : Invocation.read words = .ok i)
    (hlist : i.listFormats = false) (hcommand : i.command = some (.stats input format output save))
    (hconfigured : m.files.IsConfigured i.config settings table)
    (h : CanReport m (chosenFormat settings format output) input output save t report) :
    (m.run (run texts words)).code = 0 ∧
      Reports m (colours m i.colour).styled (chosenFormat settings format output) input output save t
        report (m.run (run texts words)) := by
  obtain ⟨mid, hmid⟩ := FileTree.exists_writesTo (encodeText report)
    fun path hpath => h.writable path (.inl hpath)
  -- Where the second file is written, paths lead where they led before the first.
  obtain ⟨last, hlast⟩ : ∃ last, mid.WritesTo (saveTarget input save)
      (encodeText (savedReport m (.ofText t))) last := by
    apply FileTree.exists_writesTo
    intro path hpath
    rw [hmid.isWritable]
    exact h.writable path (.inr (saveTarget_eq_some_iff.mp hpath))
  obtain ⟨err, hrun⟩ :=
    perform_run_report texts hread hlist hcommand hconfigured h.text_eq h.report_eq hmid
  obtain ⟨err', hsave⟩ := perform_save (m.withFiles mid) h.report_eq hlast
  rw [Machine.run_eq, hrun, hsave]
  refine ⟨rfl, ?_, by simp, ?_, ?_⟩
  · -- A place that is not what it was was changed by the second write or by the first.
    intro place hne
    by_cases hsame : last.get? place = mid.get? place
    · have hne' : mid.get? place ≠ m.files.get? place := fun heq => hne (hsame.trans heq)
      obtain ⟨path, hpath, hresolve⟩ := hmid.resolve_of_get?_ne hne'
      exact ⟨path, .inl hpath, hresolve⟩
    · obtain ⟨path, hpath, hresolve⟩ := hlast.resolve_of_get?_ne hsame
      exact ⟨path, .inr (saveTarget_eq_some_iff.mp hpath), hmid.resolve.mp hresolve⟩
  · -- The report stays in its file unless the second write goes to the same place.
    rintro path rfl
    have hmidRead : mid.read path = .ok (encodeText report) := FileTree.read_of_write hmid
    rcases hlast.read hmidRead with hlastRead | ⟨other, place, hother, hplace, hsame⟩
    · exact .inl (FileTree.readText_of_read hlastRead)
    · obtain ⟨rfl, rfl⟩ := saveTarget_eq_some_iff.mp hother
      exact .inr ⟨rfl, place, hmid.resolve.mp hplace, hmid.resolve.mp hsame⟩
  · rintro rfl
    have hlastRead : last.read (statisticsPath input) =
        .ok (encodeText (savedReport m (.ofText t))) := FileTree.read_of_write hlast
    exact ⟨_, FileTree.readText_of_read hlastRead, read_savedReport m⟩

/-- Without a report nothing is written. -/
theorem gaveUp_run_stats (texts : LibraryTexts) (hread : Invocation.read words = .ok i)
    (hlist : i.listFormats = false) (hcommand : i.command = some (.stats input format output save))
    (hconfigured : m.files.IsConfigured i.config settings table)
    (h : ∀ t, m.files.readText input = .ok t →
      reportIn? (chosenFormat settings format output) (.ofText t) m.clock = none) :
    (m.perform (run texts words)).GaveUp m.files := by
  rw [perform_run_stats texts hread hlist hcommand hconfigured]
  exact (gaveUp_stats h).after _

/-- A run that does not have all it needs fails. It leaves the files as they were, unless only
    the file that is to be saved cannot be written. -/
theorem fails_run (texts : LibraryTexts) (hread : Invocation.read words = .ok i)
    (hlist : i.listFormats = false) (hcommand : i.command = some (.stats input format output save))
    (hconfigured : m.files.IsConfigured i.config settings table)
    (h : ∀ t report,
      ¬ CanReport m (chosenFormat settings format output) input output save t report) :
    (m.run (run texts words)).code = 1 ∧ ((m.run (run texts words)).files = m.files ∨
      ReportsInPart m (chosenFormat settings format output) input output save
        (m.run (run texts words))) := by
  by_cases hreport : ∃ t report, m.files.readText input = .ok t ∧
      reportIn? (chosenFormat settings format output) (.ofText t) m.clock = some report
  case neg =>
    -- Without a text or without its format the run gives up before it writes anything.
    push Not at hreport
    have hnone : ∀ t, m.files.readText input = .ok t →
        reportIn? (chosenFormat settings format output) (.ofText t) m.clock = none :=
      fun t ht => Option.eq_none_iff_forall_ne_some.mpr fun report => hreport t report ht
    obtain ⟨hcode, -, hfiles⟩ :=
      (gaveUp_run_stats texts hread hlist hcommand hconfigured hnone).outcome
    exact ⟨hcode, .inl hfiles⟩
  obtain ⟨t, report, htext, hreport⟩ := hreport
  by_cases houtput : ∃ path, output = some path ∧ ¬ m.files.IsWritable path
  · -- The report cannot be written, and nothing is written after it.
    obtain ⟨path, rfl, hwritable⟩ := houtput
    obtain ⟨log, hstats⟩ := perform_stats (colours m i.colour).styled (some path) save htext hreport
    have hgave : (m.perform (run texts words)).GaveUp m.files := by
      rw [perform_run_stats texts hread hlist hcommand hconfigured, hstats]
      exact ((gaveUp_putReport hwritable).after _).after _
    obtain ⟨hcode, -, hfiles⟩ := hgave.outcome
    exact ⟨hcode, .inl hfiles⟩
  push Not at houtput
  -- The report can be written, so it is the file to be saved that cannot.
  obtain ⟨hsave, hsaved⟩ : save = true ∧ ¬ m.files.IsWritable (statisticsPath input) := by
    by_contra hwritable
    rw [not_and_not_right] at hwritable
    refine h t report ⟨htext, hreport, fun path hpath => ?_⟩
    rcases hpath with hpath | ⟨hsave, rfl⟩
    · exact houtput path hpath
    · exact hwritable hsave
  subst hsave
  obtain ⟨mid, hmid⟩ := FileTree.exists_writesTo (encodeText report) houtput
  obtain ⟨err, hrun⟩ := perform_run_report texts hread hlist hcommand hconfigured htext hreport hmid
  obtain ⟨err', hgave⟩ := gaveUp_save (m.withFiles mid) input hreport
    fun hwritable => hsaved (hmid.isWritable.mp hwritable)
  rw [Machine.run_eq, hrun, hgave]
  refine ⟨rfl, ?_⟩
  cases output with
  | none => exact .inl hmid
  | some path => exact .inr ⟨rfl, hsaved, path, t, report, rfl, htext, hreport, FileTree.puts_of_write hmid⟩

/-- With settings and a table, a run of `stats` succeeds exactly if it can report. Then only
    the files that are asked for are changed, and what is saved is read back as the statistics
    of the text that the input had, whatever the format and wherever the report goes. Where the
    input is no text or the format is not known nothing is changed, and neither is anything by
    another run that fails, unless only the file that is to be saved cannot be written. -/
theorem stats_changes_only_its_files (m : Machine) (texts : LibraryTexts)
    (hread : Invocation.read words = .ok i) (hlist : i.listFormats = false)
    (hcommand : i.command = some (.stats input format output save))
    (hconfigured : m.files.IsConfigured i.config settings table) :
    let o := m.run (run texts words)
    let used := chosenFormat settings format output
    let colour := (colours m i.colour).styled
    (o.code = 0 ↔ ∃ t report, CanReport m used input output save t report) ∧
    (∀ t report, CanReport m used input output save t report →
      Reports m colour used input output save t report o) ∧
    ((∀ t, m.files.readText input ≠ .ok t) ∨ (used ≠ "console".toList ∧ used ≠ "json".toList) →
      o.code = 1 ∧ o.files = m.files) ∧
    (o.code ≠ 0 → o.files = m.files ∨ ReportsInPart m used input output save o) := by
  intro o used colour
  have hmissing : (∀ t, m.files.readText input ≠ .ok t) ∨
      (used ≠ "console".toList ∧ used ≠ "json".toList) → o.code = 1 ∧ o.files = m.files := by
    intro h
    have hnone : ∀ t, m.files.readText input = .ok t →
        reportIn? used (.ofText t) m.clock = none := by
      intro t ht
      rcases h with hunreadable | ⟨hconsole, hjson⟩
      · exact absurd ht (hunreadable t)
      · exact reportIn?_eq_none hconsole hjson _ _
    obtain ⟨hcode, -, hfiles⟩ :=
      (gaveUp_run_stats texts hread hlist hcommand hconfigured hnone).outcome
    exact ⟨hcode, hfiles⟩
  by_cases hcan : ∃ t report, CanReport m used input output save t report
  · obtain ⟨t, report, h⟩ := hcan
    have hcode := (reports_run texts hread hlist hcommand hconfigured h).1
    exact ⟨iff_of_true hcode ⟨t, report, h⟩,
      fun _ _ h => (reports_run texts hread hlist hcommand hconfigured h).2, hmissing,
      fun hfail => absurd hcode hfail⟩
  · have hnone : ∀ t report, ¬ CanReport m used input output save t report := by
      push Not at hcan
      exact hcan
    obtain ⟨hcode, hfiles⟩ := fails_run texts hread hlist hcommand hconfigured hnone
    exact ⟨iff_of_false (by rw [hcode]; decide) hcan, fun t report h => absurd h (hnone t report),
      hmissing, fun _ => hfiles⟩

end Runs

/-! ## A run that writes one file twice -/

/-- The command line asks for the report for readers in the file that the one for programs is
    saved in, by another path. The saved one stands there in the end. -/
theorem stats_saves_over_its_output :
    let input := "../../tmp/a.md".toList
    let target := "/tmp/a-stats.json".toList
    let words := ["stats".toList, input, "--format".toList, "console".toList, "-o".toList, target,
      "--save".toList]
    let m := Machine.workingBeside "a.md".toList "# T".toList
    Invocation.read words =
        .ok ⟨false, none, .auto, some (.stats input (some "console".toList) (some target) true)⟩ ∧
      statisticsPath input ≠ target ∧
      m.files.resolve (statisticsPath input) = m.files.resolve target ∧
      let o := m.run (run .silent words)
      o.code = 0 ∧ o.out = [] ∧ ∃ json, o.files.readText (statisticsPath input) = .ok json ∧
        ReportDocument.read json =
          .ok ⟨.ofText "# T".toList, (⟨0, 0⟩ : Instant).timestamp⟩ := by
  intro input target words m
  have hread : Invocation.read words =
      .ok ⟨false, none, .auto, some (.stats input (some "console".toList) (some target) true)⟩ := rfl
  have hconfigured : m.files.IsConfigured none ⟨['.'], 20, "console".toList, []⟩ .standard :=
    ⟨rfl, rfl⟩
  have htext : m.files.readText input = .ok "# T".toList := by
    have hplace : m.files.resolve input = .ok ["tmp".toList, "a.md".toList] := rfl
    exact FileTree.readText_of_read (FileTree.read_eq_ok_iff.mpr ⟨_, hplace, rfl⟩)
  -- Both paths lead to the place where the report is saved.
  have hpath : statisticsPath input = "../../tmp/a-stats.json".toList := by decide
  have hsaved : m.files.resolve (statisticsPath input) =
      .ok ["tmp".toList, "a-stats.json".toList] := by
    rw [hpath]
    rfl
  have htarget : m.files.resolve target = .ok ["tmp".toList, "a-stats.json".toList] := rfl
  refine ⟨hread, by rw [hpath]; decide, hsaved.trans htarget.symm, ?_⟩
  obtain ⟨hcode, hreports, -, -⟩ :=
    stats_changes_only_its_files m .silent hread rfl rfl hconfigured
  have hcan : CanReport m "console".toList input (some target) true "# T".toList
      (ConsoleReport.render (.ofText "# T".toList)) := by
    refine ⟨htext, rfl, fun path hpath => ?_⟩
    rcases hpath with hpath | ⟨-, rfl⟩
    · obtain rfl := Option.some.inj hpath
      exact ⟨by decide, _, htarget, by rw [FileTree.get?_cons]; nofun⟩
    · exact ⟨by decide, _, hsaved, by rw [FileTree.get?_cons]; nofun⟩
  obtain ⟨json, hjson, hback⟩ := (hreports _ _ hcan).saved rfl
  exact ⟨hcode.mpr ⟨_, _, hcan⟩, (hreports _ _ hcan).shown, json, hjson, hback (by decide)⟩

end Program
end Tagdown
