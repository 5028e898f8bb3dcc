import DocletPreflight.Proofs.Command.Arguments
import DocletPreflight.Proofs.Command.Stages

/-!
# Options before and behind the command

The log is asked for by options that may stand before the command and behind it. They are noted page by
page, and what is noted first shows through what is noted later (`ofArguments_words_append`), so all that
matters is which options there are and in which order: `GlobalOption.givenBy` reads what is given off the
options alone. Command lines with the same options in the same order are therefore one request, wherever the
command stands among them, and make one run (`run_commandLine_of_append`).
-/

set_option autoImplicit false

namespace DocletPreflight

/-- A word that is taken for no option, since it does not start with a dash. -/
structure PlainWord where
  text : String
  undashed : text.toList.head? ≠ some '-'

/-- A plain word is no word that starts with a dash. -/
theorem PlainWord.ne_of_dashed (w : PlainWord) {dashed : String}
    (h : dashed.toList.head? = some '-') : w.text ≠ dashed := by
  intro heq
  apply w.undashed
  rw [heq]
  exact h

/-- The options that stand before the command or behind it. -/
inductive GlobalOption where
  | verboseLetter
  | verboseName
  | logFile (file : PlainWord)

namespace GlobalOption

/-- The arguments that an option consists of. -/
def words : GlobalOption → List String
  | verboseLetter => ["-v"]
  | verboseName => ["--verbose"]
  | logFile file => ["--log-file", file.text]

/-- Whether an option asks for a verbose log. -/
def isVerbose : GlobalOption → Bool
  | logFile _ => false
  | _ => true

/-- The log file that an option names. -/
def file? : GlobalOption → Option PlainWord
  | logFile file => some file
  | _ => none

/-- What options give: a verbose log if one of them asks for it, and the last log file. -/
def givenBy (os : List GlobalOption) : Given where
  verbose := os.any isVerbose
  logFile := (os.filterMap file?).getLast?.map fun file => .path (.parse file.text)
  model := none

/-- No options give nothing. -/
theorem givenBy_nil : givenBy [] = .nothing := rfl

/-- Options one after another give what the later ones give after the earlier ones. -/
theorem givenBy_append (os more : List GlobalOption) :
    givenBy (os ++ more) = (givenBy os).followedBy (givenBy more) := by
  have hfile : ((os ++ more).filterMap file?).getLast? =
      (more.filterMap file?).getLast?.or (os.filterMap file?).getLast? := by
    rw [List.filterMap_append, List.getLast?_append]
  simp only [givenBy, Given.followedBy, List.any_append, hfile, Option.map_or, Option.or_none]

/-- A log file is given by setting its value. -/
theorem givenBy_logFile (file : PlainWord) :
    givenBy [logFile file] = Given.nothing.setValue .logFile file.text := by
  have hmark : file.text ≠ docletMark := file.ne_of_dashed rfl
  simp [givenBy, isVerbose, file?, Given.nothing, Given.setValue, GivenPath.ofValue, hmark]

/-- Every argument of an option can be read on every page. -/
theorem exists_ofArgument {o : GlobalOption} {w : String} (hw : w ∈ o.words) (page : Page) :
    ∃ reading, Reading.ofArgument page.options w = .ok reading := by
  cases o with
  | verboseLetter =>
    obtain rfl := List.mem_singleton.mp hw
    exact ⟨.short .verbose none, by cases page <;> rfl⟩
  | verboseName =>
    obtain rfl := List.mem_singleton.mp hw
    exact ⟨.long .verbose none, by cases page <;> rfl⟩
  | logFile file =>
    rcases List.mem_cons.mp hw with rfl | hw
    · exact ⟨.long .logFile none, by cases page <;> rfl⟩
    · obtain rfl := List.mem_singleton.mp hw
      exact ⟨.plain, Collected.ofArgument_plain _ file.undashed⟩

/-- No argument of an option is the mark before the doclet options. -/
theorem ne_docletMark {o : GlobalOption} {w : String} (hw : w ∈ o.words) : w ≠ docletMark := by
  cases o with
  | verboseLetter =>
    obtain rfl := List.mem_singleton.mp hw
    decide
  | verboseName =>
    obtain rfl := List.mem_singleton.mp hw
    decide
  | logFile file =>
    rcases List.mem_cons.mp hw with rfl | hw
    · decide
    · obtain rfl := List.mem_singleton.mp hw
      exact file.ne_of_dashed rfl

/-- An option asks for a verbose log just when one of its two spellings is there. -/
theorem isVerbose_iff (o : GlobalOption) :
    o.isVerbose = true ↔ "-v" ∈ o.words ∨ "--verbose" ∈ o.words := by
  cases o with
  | verboseLetter => simp [isVerbose, words]
  | verboseName => simp [isVerbose, words]
  | logFile file =>
    have hletter : "-v" ≠ file.text := (file.ne_of_dashed rfl).symm
    have hname : "--verbose" ≠ file.text := (file.ne_of_dashed rfl).symm
    simp [isVerbose, words, hletter, hname]

end GlobalOption

open GlobalOption (givenBy words)

/-! ## Collecting -/

namespace Collected

/-- What was given before and before that may be put together first. -/
theorem following_following (before later : Given) (c : Collected) :
    following before (following later c) = following (before.followedBy later) c := by
  simp [following, Given.followedBy, Bool.or_assoc, Option.or_assoc]

/-- An option in front of arguments is given before what these give. -/
theorem ofArguments_option_cons (page : Page) (o : GlobalOption) (arguments : List String) :
    ofArguments page (o.words ++ arguments) =
      (ofArguments page arguments).map (following (givenBy [o])) := by
  cases o with
  | verboseLetter => exact ofArguments_verbose_cons page (.inl rfl) arguments
  | verboseName => exact ofArguments_verbose_cons page (.inr rfl) arguments
  | logFile file =>
    have hoption : ToolOption.logFile ∈ page.options := by cases page <;> decide
    rw [GlobalOption.givenBy_logFile]
    exact ofArguments_value_cons page hoption rfl file.undashed arguments

/-- Options in front of the arguments of a page are given before what these give. -/
theorem ofArguments_words_append (page : Page) (os : List GlobalOption) (arguments : List String) :
    ofArguments page (os.flatMap words ++ arguments) =
      (ofArguments page arguments).map (following (givenBy os)) := by
  induction os with
  | nil =>
    rw [GlobalOption.givenBy_nil, List.flatMap_nil, List.nil_append]
    cases ofArguments page arguments with
    | error refusal => rfl
    | ok c => simp [Except.map, following, Given.followedBy, Given.nothing]
  | cons o os ih =>
    rw [List.flatMap_cons, List.append_assoc, ofArguments_option_cons, ih]
    have hgiven : givenBy (o :: os) = (givenBy [o]).followedBy (givenBy os) :=
      GlobalOption.givenBy_append [o] os
    rw [hgiven]
    cases ofArguments page arguments with
    | error refusal => rfl
    | ok c =>
      show Except.ok (following (givenBy [o]) (following (givenBy os) c)) = .ok _
      rw [following_following]

/-- Arguments that can each be read can be read one after another, with a reading for each. -/
theorem exists_mapM_ofArgument {page : Page} {arguments : List String}
    (h : ∀ w ∈ arguments, ∃ reading, Reading.ofArgument page.options w = .ok reading) :
    ∃ readings, arguments.mapM (Reading.ofArgument page.options) = .ok readings ∧
      readings.length = arguments.length := by
  induction arguments with
  | nil => exact ⟨[], rfl, rfl⟩
  | cons w arguments ih =>
    obtain ⟨reading, hreading⟩ := h w List.mem_cons_self
    obtain ⟨readings, hreadings, hlength⟩ := ih fun w hw => h w (List.mem_cons_of_mem _ hw)
    refine ⟨reading :: readings, ?_, by simp [hlength]⟩
    rw [List.mapM_cons, hreading, hreadings]
    rfl

/-- On the top page, a word that is no option is the command, and what is behind it is left to the page of
the command, as long as it can be read. -/
theorem ofArguments_top_command {name : String} (hname : name.toList.head? ≠ some '-')
    {arguments : List String}
    (h : ∀ w ∈ arguments, ∃ reading, Reading.ofArgument Page.top.options w = .ok reading) :
    ofArguments .top (name :: arguments) = .ok ⟨.nothing, [], some (name, arguments)⟩ := by
  obtain ⟨readings, hreadings, hlength⟩ := exists_mapM_ofArgument h
  rw [ofArguments_cons .top (ofArgument_plain _ hname), hreadings]
  show ofReadings .top .nothing [] ((name, .plain) :: arguments.zip readings) = _
  rw [ofReadings, if_pos rfl, List.map_fst_zip (by omega)]

end Collected

/-! ## Command lines -/

/-- A command with what it needs: the listing to filter is given as an option. -/
inductive CalledCommand where
  | check
  | filter (model : PlainWord)

namespace CalledCommand

/-- The word that calls a command. -/
def name : CalledCommand → String
  | check => "check"
  | filter _ => "filter"

/-- The page that a command is read by. -/
def page : CalledCommand → Page
  | check => .check
  | filter _ => .filter

/-- The arguments behind the name of a command that are its own. -/
def ownWords : CalledCommand → List String
  | check => []
  | filter model => ["--model", model.text]

/-- What a command asks for. -/
def asked : CalledCommand → Command
  | check => .check
  | filter model => .filter (.path (.parse model.text))

/-- The name of a command does not start with a dash. -/
theorem undashed_name (c : CalledCommand) : c.name.toList.head? ≠ some '-' := by
  cases c with
  | check => decide
  | filter model =>
    show "filter".toList.head? ≠ some '-'
    decide

/-- A command is found by its name. -/
theorem pageOf?_name (c : CalledCommand) : Request.pageOf? c.name = some c.page := by
  cases c <;> rfl

/-- The arguments that belong to a command can be read on the top page. -/
theorem exists_ofArgument {c : CalledCommand} {w : String} (hw : w ∈ c.ownWords) :
    ∃ reading, Reading.ofArgument Page.top.options w = .ok reading := by
  cases c with
  | check => cases hw
  | filter model =>
    rcases List.mem_cons.mp hw with rfl | hw
    · exact ⟨.unknown, rfl⟩
    · obtain rfl := List.mem_singleton.mp hw
      exact ⟨.plain, Collected.ofArgument_plain _ model.undashed⟩

/-- A command has one word of its own that starts with a dash. -/
theorem eq_of_dashed {c : CalledCommand} {w : String} (hw : w ∈ c.name :: c.ownWords)
    (hdash : w.toList.head? = some '-') : w = "--model" := by
  rcases List.mem_cons.mp hw with rfl | hw
  · exact absurd hdash c.undashed_name
  · cases c with
    | check => cases hw
    | filter model =>
      rcases List.mem_cons.mp hw with rfl | hw
      · rfl
      · obtain rfl := List.mem_singleton.mp hw
        exact absurd hdash model.undashed

end CalledCommand

/-- The tool's own arguments: options, a command, and options again. -/
def toolWords (before : List GlobalOption) (c : CalledCommand) (behind : List GlobalOption) :
    List String :=
  before.flatMap words ++ c.name :: (c.ownWords ++ behind.flatMap words)

/-- The arguments of the tool and, behind the mark, the doclet options. -/
def commandLine (before : List GlobalOption) (c : CalledCommand) (behind : List GlobalOption)
    (docletArguments : List String) : List String :=
  toolWords before c behind ++ docletMark :: docletArguments

/-- The first mark divides the arguments. -/
theorem splitDocletArguments_append {arguments : List String} (h : docletMark ∉ arguments)
    (docletArguments : List String) :
    splitDocletArguments (arguments ++ docletMark :: docletArguments) =
      (arguments, docletArguments) := by
  induction arguments with
  | nil => simp [splitDocletArguments]
  | cons w arguments ih =>
    rw [List.mem_cons, not_or] at h
    rw [List.cons_append, splitDocletArguments_cons (Ne.symm h.1), ih h.2]

variable (before behind : List GlobalOption) (c : CalledCommand) (docletArguments : List String)

/-- The words of a command line are those of its options, the command and what belongs to it. -/
theorem mem_toolWords_iff {w : String} :
    w ∈ toolWords before c behind ↔
      (∃ o ∈ before ++ behind, w ∈ o.words) ∨ w ∈ c.name :: c.ownWords := by
  rw [toolWords, ← List.cons_append]
  simp only [List.mem_append, List.mem_flatMap, or_and_right, exists_or]
  constructor
  · rintro (hw | hw | hw)
    · exact .inl (.inl hw)
    · exact .inr hw
    · exact .inl (.inr hw)
  · rintro ((hw | hw) | hw)
    · exact .inl hw
    · exact .inr (.inr hw)
    · exact .inr (.inl hw)

/-- A command line is split at its mark into the tool's words and the doclet options. -/
theorem splitDocletArguments_commandLine :
    splitDocletArguments (commandLine before c behind docletArguments) =
      (toolWords before c behind, docletArguments) := by
  apply splitDocletArguments_append
  intro hmark
  rcases (mem_toolWords_iff before behind c).mp hmark with ⟨o, -, hw⟩ | hw
  · exact GlobalOption.ne_docletMark hw rfl
  · exact absurd (CalledCommand.eq_of_dashed hw rfl) (by decide)

/-- The log is verbose when one of the two spellings is anywhere among the tool's own arguments. -/
theorem verbose_givenBy_iff :
    (givenBy (before ++ behind)).verbose = true ↔
      "-v" ∈ toolWords before c behind ∨ "--verbose" ∈ toolWords before c behind := by
  have hown : ∀ w : String, w.toList.head? = some '-' → w ≠ "--model" →
      (w ∈ toolWords before c behind ↔ ∃ o ∈ before ++ behind, w ∈ o.words) := by
    intro w hdash hne
    rw [mem_toolWords_iff]
    exact or_iff_left fun hw => hne (CalledCommand.eq_of_dashed hw hdash)
  rw [hown "-v" rfl (by decide), hown "--verbose" rfl (by decide), ← exists_or]
  simp only [← and_or_left, ← GlobalOption.isVerbose_iff]
  exact List.any_eq_true

/-- What stands behind the name of a command is collected by its page. -/
theorem ofArguments_ownWords :
    ∃ second, Collected.ofArguments c.page (c.ownWords ++ behind.flatMap words) = .ok second ∧
      Request.commandOf c.page second.given = .ok c.asked ∧ second.extras = [] ∧
      second.given.verbose = (givenBy behind).verbose ∧ second.given.logFile = (givenBy behind).logFile := by
  have hoptions : ∀ page : Page, Collected.ofArguments page (behind.flatMap words) =
      .ok ⟨givenBy behind, [], none⟩ := by
    intro page
    have happend := Collected.ofArguments_words_append page behind []
    rw [List.append_nil] at happend
    rw [happend]
    show Except.ok (Collected.following (givenBy behind) ⟨.nothing, [], none⟩) = _
    rw [Collected.following, Given.followedBy_nothing]
  cases c with
  | check => exact ⟨_, hoptions .check, rfl, rfl, rfl, rfl⟩
  | filter model =>
    have hmodel := Collected.ofArguments_value_cons .filter
      (by decide : ToolOption.model ∈ Page.filter.options) rfl model.undashed (behind.flatMap words)
    rw [hoptions .filter] at hmodel
    have hmark : model.text ≠ docletMark := model.ne_of_dashed rfl
    refine ⟨_, hmodel, ?_, rfl, ?_, ?_⟩
    · simp [Request.commandOf, Collected.following, Given.followedBy, Given.setValue, givenBy,
        CalledCommand.page, CalledCommand.asked, GivenPath.ofValue, hmark]
    · simp [Collected.following, Given.followedBy, Given.setValue, Given.nothing]
    · simp [Collected.following, Given.followedBy, Given.setValue, Given.nothing]

/-- The request of a command line is what its command asks for and what all of its options give. -/
theorem parse_toolWords :
    Request.parse (toolWords before c behind) =
      .ok ⟨(givenBy (before ++ behind)).verbose, (givenBy (before ++ behind)).logFile, c.asked⟩ := by
  have hread : ∀ w ∈ c.ownWords ++ behind.flatMap words,
      ∃ reading, Reading.ofArgument Page.top.options w = .ok reading := by
    intro w hw
    rcases List.mem_append.mp hw with hw | hw
    · exact CalledCommand.exists_ofArgument hw
    · obtain ⟨o, -, hw⟩ := List.mem_flatMap.mp hw
      exact GlobalOption.exists_ofArgument hw .top
  have hfirst : Collected.ofArguments .top (toolWords before c behind) =
      .ok ⟨givenBy before, [], some (c.name, c.ownWords ++ behind.flatMap words)⟩ := by
    rw [toolWords, Collected.ofArguments_words_append,
      Collected.ofArguments_top_command c.undashed_name hread]
    show Except.ok (Collected.following (givenBy before) _) = _
    rw [Collected.following, Given.followedBy_nothing]
  obtain ⟨second, hsecond, hcommand, hextras, hverbose, hlogFile⟩ := ofArguments_ownWords behind c
  simp only [Request.parse, hfirst, hsecond, hcommand, hextras, c.pageOf?_name, Bind.bind,
    Except.bind, List.append_nil, List.isEmpty_nil, if_true, Request.combine, hverbose, hlogFile]
  rw [GlobalOption.givenBy_append]
  rfl

/-- A command line runs the request that its options and its command make together. -/
theorem run_commandLine_eq_execute (env : Environment) (lookup : Encoding.Lookup) (s : Session) :
    run env lookup (commandLine before c behind docletArguments) s =
      Request.execute
        ⟨(givenBy (before ++ behind)).verbose, (givenBy (before ++ behind)).logFile, c.asked⟩
        env lookup docletArguments s := by
  have hsplit := splitDocletArguments_commandLine before behind c docletArguments
  have hwords : (splitDocletArguments (commandLine before c behind docletArguments)).1 =
      toolWords before c behind := by rw [hsplit]
  have hparse := parse_toolWords before behind c
  rw [← hwords] at hparse
  rw [run_eq_execute env lookup hparse, hsplit]

/-- Wherever the command stands among the options of the log, the run is that of the command line with all
of them in front: it ends alike, writes alike and leaves the same session. The log is verbose if one of the
options before the mark says so, and its file is the last one that is given, if there is one. -/
theorem run_commandLine_of_append (env : Environment) (lookup : Encoding.Lookup)
    (before behind : List GlobalOption) (c : CalledCommand) (docletArguments : List String)
    (s : Session) :
    run env lookup (commandLine before c behind docletArguments) s =
      run env lookup (commandLine (before ++ behind) c [] docletArguments) s ∧
    ∃ request : Request,
      run env lookup (commandLine before c behind docletArguments) s =
        request.execute env lookup docletArguments s ∧
      request.command = c.asked ∧
      (request.verbose = true ↔
        ∃ w ∈ (commandLine before c behind docletArguments).takeWhile (· ≠ docletMark),
          w = "-v" ∨ w = "--verbose") ∧
      request.logFile = ((before ++ behind).filterMap GlobalOption.file?).getLast?.map
        fun file => .path (.parse file.text) := by
  have hexecute := run_commandLine_eq_execute before behind c docletArguments env lookup s
  refine ⟨?_, _, hexecute, rfl, ?_, rfl⟩
  · rw [hexecute, run_commandLine_eq_execute (before ++ behind) [] c docletArguments env lookup s,
      List.append_nil]
  · have hwords : (commandLine before c behind docletArguments).takeWhile (· ≠ docletMark) =
        toolWords before c behind :=
      congrArg Prod.fst (splitDocletArguments_commandLine before behind c docletArguments)
    rw [hwords, verbose_givenBy_iff before behind c]
    constructor
    · rintro (hw | hw)
      · exact ⟨_, hw, .inl rfl⟩
      · exact ⟨_, hw, .inr rfl⟩
    · rintro ⟨w, hw, rfl | rfl⟩
      · exact .inl hw
      · exact .inr hw

/-- The log file that a command line names before the command. -/
def PlainWord.earlierLog : PlainWord := ⟨"a.log", by decide⟩

/-- The log file that a command line names behind the command. -/
def PlainWord.laterLog : PlainWord := ⟨"b.log", by decide⟩

/-- A log file that is given before the command gives way to one that is given behind it. -/
theorem run_checkBetweenLogs :
    run .bare Encoding.lookup
        (commandLine [.logFile .earlierLog] .check [.verboseLetter, .logFile .laterLog] ["-d", "out"])
        (.start [] "now" .empty) =
      run .bare Encoding.lookup
        ["--log-file", "a.log", "-v", "--log-file", "b.log", "check", "--", "-d", "out"]
        (.start [] "now" .empty) ∧
    ∃ request : Request,
      run .bare Encoding.lookup
          ["--log-file", "a.log", "check", "-v", "--log-file", "b.log", "--", "-d", "out"]
          (.start [] "now" .empty) =
        request.execute .bare Encoding.lookup ["-d", "out"] (.start [] "now" .empty) ∧
      request.verbose = true ∧ request.logFile = some (.path (.parse "b.log")) := by
  obtain ⟨hrun, request, hexecute, -, hverbose, hlogFile⟩ :=
    run_commandLine_of_append .bare Encoding.lookup [.logFile .earlierLog]
      [.verboseLetter, .logFile .laterLog] .check ["-d", "out"] (.start [] "now" .empty)
  refine ⟨hrun, request, hexecute, hverbose.mpr ?_, hlogFile⟩
  exact ⟨"-v", by decide, .inl rfl⟩

end DocletPreflight
