/-
  Tagdown.Proofs.Command.Arguments

  How a command line is read word by word, and the command that is implied where none is
  named.

  A word is taken as the input of a command once and never replaced (`Reading.Takes`); every
  step of the reading keeps to that, and so does a whole level (`takes_ofWords`).

  In front of the command no operand is taken. So a command line whose first word is neither
  an option nor the name of a command is refused at that word, whatever follows
  (`ofWords_of_operand`), and read again as one of the command `convert`, with the word as its
  input (`convert_is_implied`).
-/

import Mathlib.Tactic.SplitIfs
import Tagdown.Command.Run
import Tagdown.World.Machine

namespace Tagdown

theorem exists_of_bind_eq_ok {ε α β : Type} {x : Except ε α} {f : α → Except ε β} {b : β}
    (h : x >>= f = .ok b) : ∃ a, x = .ok a ∧ f a = .ok b := by
  cases x with
  | error e => cases h
  | ok a => exact ⟨a, rfl, h⟩

theorem Word.ofText_of_operand {t : Text} (h : t.head? ≠ some '-') : Word.ofText t = .operand t := by
  unfold Word.ofText
  split
  · exact absurd rfl h
  · exact absurd rfl h
  · exact absurd rfl h
  · rfl

/-- Only an operand is read as one, and as it stands. -/
theorem Word.ofText_eq_operand {t u : Text} (h : Word.ofText t = .operand u) : u = t := by
  unfold Word.ofText at h
  split at h
  · cases h
  · cases h
  · cases h
  · cases h
    rfl

theorem Word.ofText_eq_escape {t : Text} (h : Word.ofText t = .escape) : t = "--".toList := by
  unfold Word.ofText at h
  split at h
  · rfl
  · cases h
  · cases h
  · cases h

/-! ## The input -/

namespace Reading

variable {r s : Reading} {level : Level} {o : CliOption} {t value : Text} {words : List Text}

/-- The second reading has the input of the first or, if that has none, one of the words. -/
def Takes (words : List Text) (r s : Reading) : Prop :=
  s.input = r.input ∨ r.input = none ∧ ∃ t ∈ words, s.input = some t

theorem Takes.of_input_eq (h : s.input = r.input) : Takes words r s :=
  .inl h

/-- What the first word leaves open the others may take. -/
theorem Takes.cons {s' : Reading} (h : Takes [t] r s) (h' : Takes words s s') :
    Takes (t :: words) r s' := by
  -- If the first word is the input, the others take nothing.
  rcases h with h | ⟨hnone, u, hu, h⟩
  · rcases h' with h' | ⟨hnone, u, hu, h'⟩
    · exact .inl (h'.trans h)
    · exact .inr ⟨h.symm.trans hnone, u, List.mem_cons_of_mem t hu, h'⟩
  · rcases h' with h' | ⟨hnone', -⟩
    · exact .inr ⟨hnone, u, List.mem_cons.mpr (.inl (List.mem_singleton.mp hu)), h'.trans h⟩
    · rw [h] at hnone'
      cases hnone'

/-- An input that is there stays. -/
theorem Takes.input_eq (h : Takes words r s) (hr : r.input = some t) : s.input = some t := by
  rcases h with h | ⟨hnone, -⟩
  · exact h.trans hr
  · rw [hr] at hnone
    cases hnone

/-- What options leave as it is: the input, and whether two dashes were read. -/
structure Keeps (r s : Reading) : Prop where
  input : s.input = r.input
  escaped : s.escaped = r.escaped

theorem Keeps.trans {s' : Reading} (h : Keeps r s) (h' : Keeps s s') : Keeps r s' :=
  ⟨h'.input.trans h.input, h'.escaped.trans h.escaped⟩

theorem keeps_add (h : r.add o value = .ok s) : Keeps r s := by
  unfold add at h
  split at h
  · cases h
  · split at h
    · cases h
    · cases h
      exact ⟨rfl, rfl⟩

theorem keeps_settle (h : r.settle = .ok s) : Keeps r s := by
  unfold settle at h
  split at h
  · cases h
    exact ⟨rfl, rfl⟩
  · cases h
  · exact ⟨(keeps_add h).input, (keeps_add h).escaped⟩

theorem keeps_addOption {value : Option Text} (h : r.addOption o value = .ok s) : Keeps r s := by
  unfold addOption at h
  split at h
  · -- The option takes a value: it waits for the next word or has it with it.
    obtain ⟨settled, hsettle, h⟩ := exists_of_bind_eq_ok h
    cases value with
    | none =>
      cases h
      exact ⟨(keeps_settle hsettle).input, (keeps_settle hsettle).escaped⟩
    | some value => exact (keeps_settle hsettle).trans (keeps_add h)
  · split at h
    · cases h
    · obtain ⟨settled, hsettle, h⟩ := exists_of_bind_eq_ok h
      cases o with
      | help | version => cases h
      | _ => exact (keeps_settle hsettle).trans (keeps_add h)

theorem takes_addOperand (h : r.addOperand level t = .ok s) : Takes [t] r s := by
  unfold addOperand at h
  split at h
  · rename_i hfree
    obtain ⟨settled, hsettle, h⟩ := exists_of_bind_eq_ok h
    cases h
    exact .inr ⟨hfree.2, t, List.mem_singleton_self t, rfl⟩
  · split at h <;> cases h

theorem escaped_addOperand (h : r.addOperand level t = .ok s) : s.escaped = r.escaped := by
  unfold addOperand at h
  split at h
  · obtain ⟨settled, hsettle, h⟩ := exists_of_bind_eq_ok h
    cases h
    exact (keeps_settle hsettle).escaped
  · split at h <;> cases h

/-- Only two dashes turn what follows into operands. -/
theorem escaped_addWord (h : r.addWord level t = .ok s) (ht : t ≠ "--".toList) :
    s.escaped = r.escaped := by
  unfold addWord at h
  split at h
  · exact escaped_addOperand h
  · split at h
    · rename_i hword
      exact absurd (Word.ofText_eq_escape hword) ht
    -- A long option, a short one, a value that was waited for, and an operand.
    · split at h
      · exact (keeps_addOption h).escaped
      · cases h
    · split at h
      · exact (keeps_addOption h).escaped
      · cases h
    · cases h
      rfl
    · rename_i hword _
      exact escaped_addOperand h

/-- A word is taken as the input if the reading has none, or not at all. -/
theorem takes_addWord (h : r.addWord level t = .ok s) : Takes [t] r s := by
  unfold addWord at h
  split at h
  · exact takes_addOperand h
  · split at h
    · cases h
      exact .of_input_eq rfl
    -- Of what else a word can be only an operand is taken as the input.
    · split at h
      · exact .of_input_eq (keeps_addOption h).input
      · cases h
    · split at h
      · exact .of_input_eq (keeps_addOption h).input
      · cases h
    · cases h
      exact .of_input_eq rfl
    · rename_i hword _
      obtain rfl := Word.ofText_eq_operand hword
      exact takes_addOperand h

theorem input_finish {hasCommand : Bool} (h : r.finish level hasCommand = .ok s) :
    s.input = r.input := by
  obtain ⟨settled, hsettle, h⟩ := exists_of_bind_eq_ok h
  split_ifs at h
  cases h
  exact (keeps_settle hsettle).input

/-- The words of a level leave it at most one of them as its input. -/
theorem takes_ofWords (h : ofWords level r words = .ok s) : Takes words r s := by
  induction words generalizing r with
  | nil => exact .of_input_eq (input_finish h)
  | cons t words ih =>
    obtain ⟨read, hread, h⟩ := exists_of_bind_eq_ok h
    exact (takes_addWord hread).cons (ih h)

/-- The words of the command are some of all the words. -/
theorem exists_ofWords_of_ofLine {front command : Reading}
    (h : ofLine r words = .ok (front, some (level, command))) :
    ∃ rest, rest ⊆ words ∧ ofWords level start rest = .ok command := by
  induction words generalizing r with
  | nil =>
    obtain ⟨last, -, h⟩ := exists_of_bind_eq_ok h
    cases h
  | cons t words ih =>
    rw [ofLine] at h
    split at h
    · cases h
    split at h
    · -- The first word names the command, and the others are its words.
      obtain ⟨read, hread, h⟩ := exists_of_bind_eq_ok h
      obtain ⟨last, -, h⟩ := exists_of_bind_eq_ok h
      cases h
      exact ⟨words, List.subset_cons_self t words, hread⟩
    · obtain ⟨next, -, h⟩ := exists_of_bind_eq_ok h
      obtain ⟨rest, hsub, hread⟩ := ih h
      exact ⟨rest, List.subset_cons_of_subset t hsub, hread⟩

end Reading

/-! ## The command that is implied -/

/-- The names that are kept apart where a command is implied are those that the reader of
    command lines takes for one. -/
theorem Level.isCommandName_iff {word : Text} :
    isCommandName word = true ↔ word ∈ Invocation.commandNames := by
  rw [isCommandName, ofName?]
  split_ifs <;> simp_all [Invocation.commandNames, helpName]

namespace Invocation

variable {word : Text} {words : List Text} {i : Invocation}

theorem impliesConvert_cons_iff {tail : List Text} :
    impliesConvert (word :: tail) = true ↔ word.head? ≠ some '-' ∧ word ∉ commandNames := by
  rw [impliesConvert, Bool.and_eq_true, bne_iff_ne, Bool.not_eq_true', ← Bool.not_eq_true,
    List.contains_iff_mem]

/-- In front of a command an operand is refused, whatever follows it. -/
theorem ofWords_of_operand (hdash : word.head? ≠ some '-') (hname : word ∉ commandNames)
    (tail : List Text) : ofWords (word :: tail) = .error (.unknownCommand word) := by
  rw [← Level.isCommandName_iff, Level.isCommandName, Bool.not_eq_true, Bool.or_eq_false_iff] at hname
  obtain ⟨hcommand, hhelp⟩ := hname
  have hnone : Level.ofName? word = none := by simpa using hcommand
  have hadd : Reading.start.addWord .top word = .error (.unknownCommand word) := by
    rw [Reading.addWord, Word.ofText_of_operand hdash]
    rfl
  have hline : Reading.ofLine .start (word :: tail) = .error (.unknownCommand word) := by
    rw [Reading.ofLine, if_neg (by simpa using fun _ => hhelp), hnone, hadd]
    rfl
  rw [ofWords, hline]
  rfl

/-- Words that imply the command `convert` are always read with it in front. -/
theorem completed_eq (words : List Text) :
    completed words = if impliesConvert words then "convert".toList :: words else words := by
  rw [completed]
  split
  · -- Words that are accepted as they stand do not imply a command: those are refused.
    rename_i i hread
    rw [if_neg]
    intro himplied
    cases words with
    | nil => cases himplied
    | cons word tail =>
      obtain ⟨hdash, hname⟩ := impliesConvert_cons_iff.mp himplied
      rw [ofWords_of_operand hdash hname] at hread
      cases hread
  · rfl

/-- A word that starts like no option is the input of the command. -/
theorem ofWords_convert (hdash : word.head? ≠ some '-') (tail : List Text) :
    ofWords ("convert".toList :: word :: tail) = (do
      let command ← Reading.ofWords .convert { Reading.start with input := some word } tail
      return ofReadings .start (some (.convert, command))) := by
  have hadd : Reading.start.addWord .convert word = .ok { Reading.start with input := some word } := by
    rw [Reading.addWord, Word.ofText_of_operand hdash]
    rfl
  have hlevel : Reading.ofWords .convert .start (word :: tail) =
      Reading.ofWords .convert { Reading.start with input := some word } tail := by
    rw [Reading.ofWords, hadd]
    rfl
  rw [ofWords, Reading.ofLine, if_neg (by decide)]
  show (Reading.ofWords .convert .start (word :: tail) >>= fun command => _) >>= _ = _
  rw [hlevel]
  cases Reading.ofWords .convert { Reading.start with input := some word } tail <;> rfl

theorem exists_command_of_ofWords_convert (hdash : word.head? ≠ some '-') {tail : List Text}
    (h : ofWords ("convert".toList :: word :: tail) = .ok i) :
    ∃ output save, i.command = some (.convert (some word) output save) := by
  rw [ofWords_convert hdash] at h
  obtain ⟨command, hcommand, h⟩ := exists_of_bind_eq_ok h
  cases h
  have hinput : command.input = some word := (Reading.takes_ofWords hcommand).input_eq rfl
  refine ⟨command.value? .output, command.has .save, ?_⟩
  rw [← hinput]
  rfl

/-- The file that is previewed is named on the command line. -/
theorem mem_of_preview {input : Text} {lines : Option Nat} (hread : read words = .ok i)
    (hcommand : i.command = some (.preview input lines)) : input = [] ∨ input ∈ words := by
  rw [read, completed_eq] at hread
  by_cases himplied : impliesConvert words = true
  · -- The implied command is another one.
    rw [if_pos himplied] at hread
    cases words with
    | nil => cases himplied
    | cons word tail =>
      have hdash := (impliesConvert_cons_iff.mp himplied).1
      obtain ⟨output, save, hconvert⟩ := exists_command_of_ofWords_convert hdash hread
      rw [hcommand] at hconvert
      cases hconvert
  · rw [if_neg himplied] at hread
    obtain ⟨⟨front, command⟩, hline, hi⟩ := exists_of_bind_eq_ok hread
    cases hi
    obtain ⟨⟨level, r⟩, rfl, hlevel⟩ := Option.bind_eq_some_iff.mp hcommand
    obtain ⟨rest, hsub, hrest⟩ := Reading.exists_ofWords_of_ofLine hline
    have hinput : r.input.getD [] = input := by
      cases level <;> cases hlevel
      rfl
    rcases Reading.takes_ofWords hrest with hnone | ⟨-, word, hword, hsome⟩
    · rw [hnone] at hinput
      exact .inl hinput.symm
    · rw [hsome] at hinput
      exact .inr (hsub (hinput ▸ hword))

/-- **A command line without a command converts the file of its first word.** If that word is
    neither an option nor the name of a command, the line is refused as it stands, whatever
    follows the word. It is read, and carried out on every machine, just as the line with
    `convert` in front of it, and only to convert the file of that name. All other command
    lines are read as they stand. -/
theorem convert_is_implied (texts : LibraryTexts) :
    (∀ (word : Text) (tail : List Text), word.head? ≠ some '-' → word ∉ commandNames →
      let given := word :: tail
      let explicit := "convert".toList :: word :: tail
      ofWords given = .error (.unknownCommand word) ∧
      read given = read explicit ∧
      (∀ m : Machine, m.run (Program.run texts given) = m.run (Program.run texts explicit)) ∧
      ∀ i, read given = .ok i → ∃ output save, i.command = some (.convert (some word) output save)) ∧
    ∀ words : List Text, (∀ word ∈ words.head?, word.head? = some '-' ∨ word ∈ commandNames) →
      impliesConvert words = false ∧ read words = ofWords words := by
  constructor
  · intro word tail hdash hname given explicit
    have hrefused : ofWords given = .error (.unknownCommand word) :=
      ofWords_of_operand hdash hname tail
    -- Both lines are read as the same words, so whatever is made of these is the same.
    have hgiven : completed given = explicit := by
      rw [completed_eq, if_pos (impliesConvert_cons_iff.mpr ⟨hdash, hname⟩)]
    have hexplicit : completed explicit = explicit := completed_eq explicit
    have hread : read given = read explicit := by
      rw [read, read, hgiven, hexplicit]
    refine ⟨hrefused, hread, fun m => ?_, fun i hi => ?_⟩
    · rw [Program.run, Program.run, hread, hgiven, hexplicit]
    · rw [read, hgiven] at hi
      exact exists_command_of_ofWords_convert hdash hi
  · intro words h
    have hnot : impliesConvert words = false := by
      cases words with
      | nil => rfl
      | cons word tail =>
        rw [← Bool.not_eq_true, impliesConvert_cons_iff]
        rintro ⟨hdash, hname⟩
        exact (h word rfl).elim hdash hname
    exact ⟨hnot, by rw [read, completed_eq, hnot, if_neg (by decide)]⟩

/-- Behind the name of a file, help is that of the command that is implied. -/
theorem convert_is_implied_for_help :
    let words := ["notes.tags".toList, "--help".toList]
    "notes.tags".toList.head? ≠ some '-' ∧ "notes.tags".toList ∉ commandNames ∧
      ofWords words = .error (.unknownCommand "notes.tags".toList) ∧ read words = .error .help ∧
      read ["--version".toList] = .error .version := by
  intro words
  have hdash : "notes.tags".toList.head? ≠ some '-' := by decide
  have hname : "notes.tags".toList ∉ commandNames := by decide
  obtain ⟨himplied, hgiven⟩ := convert_is_implied ⟨[], fun _ _ => []⟩
  obtain ⟨hrefused, hread, -, -⟩ := himplied "notes.tags".toList ["--help".toList] hdash hname
  have hversion := (hgiven ["--version".toList] fun word hword => by
    obtain rfl : "--version".toList = word := Option.some.inj hword
    exact .inl rfl).2
  exact ⟨hdash, hname, hrefused, hread.trans rfl, hversion.trans rfl⟩

end Invocation
end Tagdown
