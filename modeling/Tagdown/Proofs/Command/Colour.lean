/-
  Tagdown.Proofs.Command.Colour

  Colours change how a run looks and nothing else. The parts of a command do the same with
  colours and without, but for the styles of what they write (`Machine.Restyles`), so the
  commands do too, and whole runs of two command lines that differ in the choice of colours
  (`Program.colour_changes_only_styles`).
-/

import Tagdown.Proofs.Command.Convert
import Tagdown.Proofs.Command.Recoloured
import Tagdown.Proofs.Command.Stats
import Tagdown.Proofs.Report.Bare
import Tagdown.Proofs.Report.Console
import Tagdown.Proofs.World.Restyled

namespace Tagdown
namespace Program

open Machine (restyles_pure restyles_fail restyles_report restyles_complain restyles_printLine
  restyles_forEach restyles_answer restyles_writeFile)
open Script (report forEach complain printLine fail)
open Style (SameShown)
open Text (IsBare)

variable {m : Machine} {settings : Settings} {table : TagTable} {path source format : Text}
variable {input output : Option Text} {save : Bool} {s : Statistics}

/-! ## Parts without colours -/

/-- What all readers do goes on with a text or fails, and has no colours. -/
theorem restyles_reader (m : Machine) {found : Except FileFault Text} {complaint : FileFault → Text} :
    m.Restyles (match found with
      | .ok t => pure t
      | .error fault => fail (complaint fault))
      (match found with
      | .ok t => pure t
      | .error fault => fail (complaint fault)) := by
  cases found with
  | ok t => exact restyles_pure m t
  | error fault => exact restyles_fail m _

theorem restyles_readSource (m : Machine) (path : Text) :
    m.Restyles (readSource path) (readSource path) :=
  (restyles_report m _ _).bind fun _ _ =>
    (restyles_answer rfl).bind fun _ _ => restyles_reader _

theorem restyles_readInput (m : Machine) : m.Restyles readInput readInput :=
  (restyles_report m _ _).bind fun _ _ =>
    (restyles_answer rfl).bind fun _ _ => restyles_reader _

theorem restyles_writeTarget (m : Machine) (path : Text) {content : Text} (h : IsBare content) :
    m.Restyles (writeTarget path content) (writeTarget path content) := by
  refine (restyles_report m _ _).bind fun _ _ => (restyles_writeFile _ path h).bind fun written _ => ?_
  cases written with
  | ok _ => exact restyles_pure _ ()
  | error fault => exact restyles_fail _ _

theorem restyles_analyze (m : Machine) (t : Text) : m.Restyles (analyze t) (analyze t) :=
  (restyles_report m _ _).bind fun _ _ => restyles_pure _ _

theorem restyles_makeReport (m : Machine) (format : Text) (s : Statistics) :
    m.Restyles (makeReport format s) (makeReport format s) := by
  refine (restyles_answer rfl).bind fun now _ => ?_
  cases Registry.standard.render format s now with
  | ok t => exact restyles_pure _ t
  | error fault => exact restyles_fail _ _

theorem restyles_listFormats (m : Machine) : m.Restyles listFormats listFormats :=
  (restyles_printLine m (.line _)).bind fun _ _ =>
    restyles_forEach _ (fun _ _ m => restyles_printLine m (.line _)) _

/-! ## Converting -/

theorem restyles_convertSource (m : Machine) (input : Option Text) :
    m.Restyles (convertSource input) (convertSource input) := by
  cases input with
  | none => exact (restyles_readInput m).bind fun _ _ => restyles_pure _ _
  | some path =>
    unfold convertSource
    dsimp only
    split
    · exact (restyles_readInput m).bind fun _ _ => restyles_pure _ _
    · exact (restyles_readSource m path).bind fun _ _ => restyles_pure _ _

theorem sourceText_of_convertSource {name : Text}
    (h : (m.perform (convertSource input)).ending = .ok (name, source)) :
    sourceText m input = .ok source := by
  cases hsource : sourceText m input with
  | error fault =>
    exact absurd h ((gaveUp_convertSource hsource).ending_ne _)
  | ok found =>
    obtain ⟨other, log, -, hfound⟩ := perform_convertSource hsource
    rw [hfound] at h
    cases h
    rfl

theorem sameShown_diagnostic (colour colour' : Bool) {d : Diagnostic} (h : d.fault.IsBare) :
    SameShown (Display.diagnostic colour d ++ ['\n']) (Display.diagnostic colour' d ++ ['\n']) :=
  .of_shows (Display.shows_diagnostic colour h) (Display.shows_diagnostic colour' h)

theorem restyles_deliver (m : Machine) (c c' : Colouring) (settings : Settings) (name : Text)
    (output : Option Text) (save : Bool) {t : Conversion} (h : IsBare t.markdown) :
    m.Restyles (deliver c settings name output save t)
      (deliver c' settings name output save t) := by
  unfold deliver
  split
  · exact restyles_fail m _
  cases convertTarget settings output save t with
  | some path => exact (restyles_writeTarget m path h).bind fun _ _ => restyles_complain _ (.line _)
  | none =>
    rw [ite_highlighted_eq, ite_highlighted_eq]
    exact restyles_printLine m (.of_shows (Display.shows_markdown _ h) (Display.shows_markdown _ h))

theorem restyles_convert (c c' : Colouring) (settings : Settings) (output : Option Text)
    (save : Bool) (htable : table.IsBare)
    (hsource : ∀ source, sourceText m input = .ok source → IsBare source) :
    m.Restyles (convert c settings table input output save)
      (convert c' settings table input output save) := by
  refine (restyles_convertSource m input).bind fun (name, source) hend => ?_
  -- Of a text that was not read nothing is shown, so only one that was has to be bare.
  have hbare := hsource source (sourceText_of_convertSource hend)
  refine (restyles_forEach _ (fun _ _ m => restyles_report m _ _) _).bind fun _ _ => ?_
  refine Machine.Restyles.bind ?_ fun _ _ =>
    restyles_deliver _ c c' settings name output save (Conversion.isBare_markdown htable hbare)
  exact restyles_forEach _ (fun d hd m => restyles_complain m
    (sameShown_diagnostic c.styled c'.styled (Conversion.isBare_of_mem_diagnostics hbare hd))) _

/-! ## Reporting -/

theorem isBare_of_reportIn? {now : Instant} {t : Text} (h : reportIn? format s now = some t) :
    IsBare t := by
  unfold reportIn? at h
  split at h
  · cases h
    exact ConsoleReport.isBare_render s
  · split at h
    · cases h
      exact ReportDocument.isBare_write now.isBare_timestamp
    · cases h

theorem isBare_of_makeReport {t : Text} (h : (m.perform (makeReport format s)).ending = .ok t) :
    IsBare t := by
  cases hreport : reportIn? format s m.clock with
  | none =>
    exact absurd h ((gaveUp_makeReport hreport).ending_ne _)
  | some report =>
    rw [perform_makeReport hreport] at h
    cases h
    exact isBare_of_reportIn? hreport

/-- What is saved is the report that was made, or the same counts made into one anew. -/
theorem restyles_saveReport (m : Machine) (input format : Text) (s : Statistics) {t : Text}
    (h : IsBare t) : m.Restyles (saveReport input format s t) (saveReport input format s t) := by
  have hwrite : ∀ (m : Machine) (json : Text), IsBare json → m.Restyles
      (do
        writeTarget (statisticsPath input) json
        complain ("JSON report saved: ".toList ++ statisticsPath input))
      (do
        writeTarget (statisticsPath input) json
        complain ("JSON report saved: ".toList ++ statisticsPath input)) :=
    fun m json hjson => (restyles_writeTarget m _ hjson).bind fun _ _ => restyles_complain _ (.line _)
  unfold saveReport
  split
  · exact (restyles_pure m t).bind fun json hend => hwrite _ json (by cases hend; exact h)
  · exact (restyles_makeReport m _ s).bind fun json hend => hwrite _ json (isBare_of_makeReport hend)

theorem restyles_putReport (m : Machine) (colour colour' : Bool) (format : Text)
    (output : Option Text) {t : Text} (h : IsBare t) {next : Script Unit}
    (hnext : ∀ m : Machine, m.Restyles next next) :
    m.Restyles (putReport colour format output t next) (putReport colour' format output t next) := by
  cases output with
  | some path =>
    exact (restyles_writeTarget m path h).bind fun _ _ =>
      (restyles_complain _ (.line _)).bind fun _ _ => hnext _
  | none =>
    refine (restyles_printLine m ?_).bind fun _ _ => hnext _
    split
    · exact .of_shows (Display.shows_report colour h) (Display.shows_report colour' h)
    · exact .line t

/-- Nothing of the text that is counted is written, so it does not matter what it holds. -/
theorem restyles_stats (m : Machine) (colour colour' : Bool) (input format : Text)
    (output : Option Text) (save : Bool) :
    m.Restyles (stats colour input format output save) (stats colour' input format output save) := by
  rw [stats_eq, stats_eq]
  refine (restyles_readSource m input).bind fun t _ => ?_
  refine (restyles_analyze _ t).bind fun s _ => ?_
  refine (restyles_makeReport _ format s).bind fun report hend => ?_
  have hreport := isBare_of_makeReport hend
  refine restyles_putReport _ colour colour' format output hreport fun m => ?_
  split
  · exact restyles_saveReport m input format s hreport
  · exact restyles_pure m ()

/-! ## Showing a text -/

theorem readText_of_readSource (h : (m.perform (readSource path)).ending = .ok source) :
    m.files.readText path = .ok source := by
  cases hread : m.files.readText path with
  | error fault => exact absurd h ((gaveUp_readSource hread).ending_ne _)
  | ok found =>
    rw [perform_readSource hread] at h
    cases h
    rfl

theorem restyles_preview (m : Machine) (colour colour' : Bool) (lines : Nat) (hpath : IsBare path)
    (hsource : ∀ source, m.files.readText path = .ok source → IsBare source) :
    m.Restyles (preview colour path lines) (preview colour' path lines) := by
  refine (restyles_readSource m path).bind fun source hend => ?_
  have hbare := hsource source (readText_of_readSource hend)
  have hlines : ∀ line ∈ (Preview.ofText source lines).lines, IsBare line.text := by
    intro line hline
    obtain ⟨t, ht, rfl⟩ := List.mem_map.mp hline
    exact hbare.of_subset (Text.subset_of_mem_lines (List.mem_of_mem_take ht))
  refine (restyles_answer rfl).bind fun size _ => ?_
  cases size with
  | error fault => exact restyles_fail _ _
  | ok size =>
    exact restyles_printLine _ (.of_shows (Display.shows_preview colour hpath size hlines)
      (Display.shows_preview colour' hpath size hlines))

/-! ## Commands -/

/-- The command passes on parts of the text. Of a text that is counted nothing is passed on. -/
inductive PassesOn (m : Machine) : Command → Text → Prop where
  | convert {input output : Option Text} {save : Bool} {t : Text} :
      sourceText m input = .ok t → PassesOn m (.convert input output save) t
  | preview {input t : Text} {lines : Option Nat} :
      m.files.readText input = .ok t → PassesOn m (.preview input lines) t

theorem restyles_runCommand (m : Machine) (c c' : Colouring) (settings : Settings)
    {command : Command} (htable : table.IsBare) (htext : ∀ t, PassesOn m command t → IsBare t)
    (hpath : ∀ input lines, command = .preview input lines → IsBare input) :
    m.Restyles (runCommand c settings table command) (runCommand c' settings table command) := by
  cases command with
  | convert input output save =>
    exact restyles_convert c c' settings output save htable fun t ht => htext t (.convert ht)
  | stats input format output save => exact restyles_stats m c.styled c'.styled input _ output save
  | preview input lines =>
    exact restyles_preview m c.styled c'.styled _ (hpath input lines rfl)
      fun t ht => htext t (.preview ht)
  | guide =>
    exact restyles_printLine m
      (.of_shows (Display.shows_guide c.styled htable) (Display.shows_guide c'.styled htable))

/-! ## Whole runs -/

variable {words words' : List Text} {i : Invocation}

/-- Nothing that a run passes on has an escape character: not the words of the command line, the
    markers of the settings or the text. -/
structure ReadsBare (m : Machine) (words : List Text) (i : Invocation) : Prop where
  words : ∀ word ∈ words, IsBare word
  markers : ∀ settings, m.files.settings i.config = .ok settings →
    ∀ tag ∈ settings.extra, IsBare tag.marker
  text : ∀ command, i.command = some command → ∀ t, PassesOn m command t → IsBare t

theorem restyles_loadSettings (m : Machine) (config : Option Text) :
    m.Restyles (loadSettings config) (loadSettings config) := by
  rw [Machine.Restyles, perform_loadSettings_eq]
  cases m.files.settings config with
  | error fault => exact restyles_fail m _
  | ok settings => exact restyles_pure m settings

theorem settings_of_loadSettings {config : Option Text}
    (h : (m.perform (loadSettings config)).ending = .ok settings) :
    m.files.settings config = .ok settings ∧ (m.perform (loadSettings config)).files = m.files := by
  cases hsettings : m.files.settings config with
  | error fault =>
    exact absurd h ((gaveUp_loadSettings hsettings).ending_ne _)
  | ok found =>
    rw [perform_loadSettings hsettings] at h ⊢
    cases h
    exact ⟨rfl, rfl⟩

/-- Scripts that are to do the same under any colours do so under any choice of them. -/
theorem restyles_colouring (m : Machine) (choice choice' : ColourChoice) {f : Colouring → Script Unit}
    (h : ∀ c c', m.Restyles (f c) (f c')) :
    m.Restyles (colouring choice >>= f) (colouring choice' >>= f) := by
  rw [Machine.Restyles, Machine.perform_bind_of_same (perform_colouring m choice),
    Machine.perform_bind_of_same (perform_colouring m choice'), Effect.after_nil, Effect.after_nil]
  exact h _ _

theorem restyles_runInvocation (m : Machine) (colour : ColourChoice)
    (hread : Invocation.read words = .ok i) (h : ReadsBare m words i) :
    m.Restyles (runInvocation i) (runInvocation { i with colour := colour }) := by
  refine restyles_colouring m i.colour colour fun c c' => ?_
  split
  · exact restyles_listFormats m
  refine (restyles_loadSettings m i.config).bind fun settings hend => ?_
  obtain ⟨hsettings, hfiles⟩ := settings_of_loadSettings hend
  -- Loading has changed no file, so the rest is run on the same machine.
  rw [hfiles]
  show m.Restyles _ _
  cases htable : settings.tagTable with
  | error fault => exact restyles_fail m _
  | ok table =>
    have hmarkers : table.IsBare := Settings.isBare_tagTable htable (h.markers settings hsettings)
    cases hcommand : i.command with
    | none => exact restyles_fail m _
    | some command =>
      refine restyles_runCommand m c c' settings hmarkers (h.text command hcommand) ?_
      rintro input lines rfl
      rcases Invocation.mem_of_preview hread hcommand with rfl | hmem
      · exact List.not_mem_nil
      · exact h.words input hmem

/-- **Colours change how a run looks and nothing else.** If a command line is accepted, so is the
    one that asks for colours where it asks for none, and it means the same. If nothing that the
    run passes on has an escape character, the two runs in one machine exit with the same code
    and leave the same files, and their outputs are the same without the sequences that switch
    styles. Every file is one that was there before or holds a text without escape characters. -/
theorem colour_changes_only_styles (m : Machine) (texts : LibraryTexts)
    (hwords : Recoloured words words') (hread : Invocation.read words = .ok i)
    (hbare : ReadsBare m words i) :
    let o := m.run (run texts words)
    let o' := m.run (run texts words')
    (∃ colour, Invocation.Coloured i.colour colour ∧
      Invocation.read words' = .ok { i with colour := colour }) ∧
    o'.code = o.code ∧ o'.files = o.files ∧
    Style.strip o'.out = Style.strip o.out ∧ Style.strip o'.err = Style.strip o.err ∧
    ∀ place bytes, o.files.get? place = some (.file bytes) →
      m.files.get? place = some (.file bytes) ∨ ∃ t, IsBare t ∧ bytes = encodeText t := by
  intro o o'
  obtain ⟨colour, hcolour, hread'⟩ := Invocation.read_recoloured hwords hread
  have hrun : m.Restyles (run texts words) (run texts words') := by
    unfold run
    rw [hread, hread']
    -- Both runs start with the same warnings, which leave all files as they are.
    refine (restyles_forEach _ (fun _ _ m => restyles_complain m (.line _)) m).bind fun _ _ => ?_
    rw [perform_warnings]
    exact restyles_runInvocation m colour hread hbare
  have ho : o = _ := Machine.run_eq m _
  have ho' : o' = _ := Machine.run_eq m _
  refine ⟨⟨colour, hcolour, hread'⟩, ?_⟩
  rw [ho, ho']
  refine ⟨?_, hrun.files.symm, hrun.out.strip_eq.symm, hrun.err.strip_eq.symm, hrun.bare⟩
  rw [Effect.code, Effect.code, hrun.ending]

/-- A title from a file elsewhere is shown in colour, and is the same title without. -/
theorem colour_changes_only_styles_of_title :
    let input := "/tmp/notes.tags".toList
    let words := ["convert".toList, input, "--color".toList, "never".toList]
    let words' := ["convert".toList, input, "--color".toList, "always".toList]
    let m := Machine.workingBeside "notes.tags".toList "AAA(Title)".toList
    let i : Invocation := ⟨false, none, .never, some (.convert (some input) none false)⟩
    Recoloured words words' ∧ Invocation.read words = .ok i ∧ ReadsBare m words i ∧
      let o := m.run (run .silent words)
      let o' := m.run (run .silent words')
      o'.out ≠ o.out ∧ Style.strip o'.out = Style.strip o.out ∧ o'.code = o.code ∧
        o'.files = o.files := by
  intro input words words' m i
  have hwords : Recoloured words words' := .word (by decide) (.word (by decide) (.apart .nil))
  have hread : Invocation.read words = .ok i := rfl
  have hread' : Invocation.read words' = .ok { i with colour := .always } := rfl
  have hconfigured : m.files.IsConfigured none builtInSettings .standard := ⟨rfl, rfl⟩
  have hsource : sourceText m (some input) = .ok "AAA(Title)".toList :=
    FileTree.readText_of_read rfl
  have hbare : ReadsBare m words i := by
    refine ⟨by decide, fun settings hsettings => ?_, fun command hcommand t ht => ?_⟩
    · obtain rfl : builtInSettings = settings :=
        Except.ok.inj (hconfigured.settings_eq.symm.trans hsettings)
      exact List.forall_mem_nil _
    · cases hcommand
      obtain ⟨ht⟩ := ht
      obtain rfl : "AAA(Title)".toList = t := Except.ok.inj (hsource.symm.trans ht)
      decide
  obtain ⟨-, hcode, hfiles, hout, -, -⟩ := colour_changes_only_styles m .silent hwords hread hbare
  have hcan : CanConvert m none (some input) none false builtInSettings .standard
      "AAA(Title)".toList :=
    ⟨hconfigured, hsource, by decide, nofun⟩
  refine ⟨hwords, hread, hbare, ?_, hout, hcode, hfiles⟩
  rw [((delivers_run .silent hread rfl rfl hcan).2.shown rfl rfl).2,
    ((delivers_run .silent hread' rfl rfl hcan).2.shown rfl rfl).2]
  decide

end Program
end Tagdown
