import DocletPreflight.Command.Page
import DocletPreflight.Path
import DocletPreflight.Text.Blank
import DocletPreflight.Text.Quoted

/-!
# The arguments of the tool

Arguments up to a literal `--` are for the tool, and what follows it are doclet options. The tool's own
arguments are options, a command, and options again. A long option may be cut short as long as it is
the only one that starts like this, and has its value behind an equals sign or in the next argument.
Options of one letter may be run together. A `--` behind an equals sign is taken for the mark of the
doclet options and dropped, which leaves the option without a path. `Request.parse` answers what is asked
for, or the page to show, or the complaint about the arguments.
-/

set_option autoImplicit false

namespace DocletPreflight

inductive ToolOption where
  | help
  | verbose
  | logFile
  | model
  deriving DecidableEq, Repr

namespace ToolOption

def longName : ToolOption → String
  | help => "--help"
  | verbose => "--verbose"
  | logFile => "--log-file"
  | model => "--model"

def letter? : ToolOption → Option Char
  | help => some 'h'
  | verbose => some 'v'
  | _ => none

def takesValue : ToolOption → Bool
  | logFile => true
  | model => true
  | _ => false

/-- All names of an option, as complaints give them. -/
def displayName (o : ToolOption) : String :=
  match o.letter? with
  | some c => String.ofList ['-', c] ++ "/" ++ o.longName
  | none => o.longName

end ToolOption

def Page.options : Page → List ToolOption
  | .filter => [.help, .verbose, .logFile, .model]
  | _ => [.help, .verbose, .logFile]

inductive ArgumentError where
  /-- Something that is required is missing. -/
  | required (what : String)
  /-- The command is none of those that there are. -/
  | invalidCommand (name : String)
  /-- Arguments that mean nothing. -/
  | unrecognized (arguments : List String)
  /-- An option has no value. -/
  | expectsValue (o : ToolOption)
  /-- An option that takes no value has one. -/
  | ignoredValue (o : ToolOption) (value : String)
  /-- The beginning of several options. -/
  | ambiguous (argument : String) (options : List ToolOption)
  deriving DecidableEq, Repr

/-- The text of a complaint. -/
def ArgumentError.message : ArgumentError → String
  | required what => "the following arguments are required: " ++ what
  | invalidCommand name =>
    "argument command: invalid choice: " ++ Text.quoted name ++ " (choose from 'check', 'filter')"
  | unrecognized arguments => "unrecognized arguments: " ++ String.intercalate " " arguments
  | expectsValue o => "argument " ++ o.displayName ++ ": expected one argument"
  | ignoredValue o value =>
    "argument " ++ o.displayName ++ ": ignored explicit argument " ++ Text.quoted value
  | ambiguous argument options =>
    "ambiguous option: " ++ argument ++ " could match " ++
      String.intercalate ", " (options.map (·.longName))

/-- How one argument reads. -/
inductive Reading where
  /-- No option. -/
  | plain
  /-- It looks like an option, but there is none of the kind. -/
  | unknown
  /-- An option by its long name, perhaps with a value behind an equals sign. -/
  | long (o : ToolOption) (value : Option String)
  /-- An option by its letter. More text may be attached, directly or behind an equals sign. -/
  | short (o : ToolOption) (attached : Option (List Char))
  deriving DecidableEq, Repr

namespace Reading

/-- Whether a text is a number below zero; such an argument is no option. -/
def isNegativeNumber (s : List Char) : Bool :=
  let isDigit (c : Char) : Bool := (Text.digitValue? c).isSome
  let s := if s.getLast? = some '\n' then s.dropLast else s
  match s with
  | '-' :: body =>
    match body.dropWhile isDigit with
    | [] => !body.isEmpty
    | '.' :: digits => !digits.isEmpty && digits.all isDigit
    | _ => false
  | _ => false

def byLetter? (options : List ToolOption) (c : Char) : Option ToolOption :=
  options.find? (·.letter? = some c)

/-- An argument that starts with a dash and names no option in full. -/
def leftover (s : List Char) : Reading :=
  if isNegativeNumber s || s.contains ' ' then plain else unknown

/-- Reads an argument of two dashes and more. -/
def ofLong (options : List ToolOption) (s : List Char) : Except ArgumentError Reading :=
  let name := s.takeWhile (· ≠ '=')
  let value : Option String :=
    if s.contains '=' then some (String.ofList (s.drop (name.length + 1))) else none
  match options.find? (·.longName.toList = name) with
  | some o => .ok (long o value)
  | none =>
    match options.filter fun o => name.isPrefixOf o.longName.toList with
    | [] => .ok (leftover s)
    | [o] => .ok (long o value)
    | several => .error (.ambiguous (String.ofList s) several)

def ofShort (options : List ToolOption) (c : Char) (rest : List Char) : Reading :=
  match byLetter? options c with
  | some o =>
    match rest with
    | [] => short o none
    | '=' :: value => short o (some value)
    | text => short o (some text)
  | none => leftover ('-' :: c :: rest)

def ofArgument (options : List ToolOption) (argument : String) : Except ArgumentError Reading :=
  match argument.toList with
  | '-' :: '-' :: rest => ofLong options ('-' :: '-' :: rest)
  | '-' :: c :: rest => .ok (ofShort options c rest)
  | _ => .ok plain

end Reading

/-- The mark between the arguments of the tool and the doclet options. -/
def docletMark : String := "--"

/-- The value of an option that takes a path. The mark is no value, even where it stands for one. -/
inductive GivenPath where
  | path (p : NormalPath)
  | dropped
  deriving DecidableEq, Repr

def GivenPath.ofValue (value : String) : GivenPath :=
  if value = docletMark then dropped else path (.parse value)

/-- The path, unless it was dropped. -/
def GivenPath.path? : GivenPath → Option NormalPath
  | path p => some p
  | dropped => none

/-- What the options of one page gave. -/
structure Given where
  verbose : Bool
  logFile : Option GivenPath
  model : Option GivenPath
  deriving DecidableEq, Repr

def Given.nothing : Given := ⟨false, none, none⟩

/-- What the tool is asked to do. -/
inductive Command where
  | check
  | filter (model : GivenPath)
  deriving DecidableEq, Repr

/-- What is asked for. -/
structure Request where
  verbose : Bool
  logFile : Option GivenPath
  command : Command
  deriving DecidableEq, Repr

/-- Why there is nothing to do: help was asked for, or the arguments are wrong. -/
inductive Refusal where
  | help (page : Page)
  | wrong (page : Page) (e : ArgumentError)
  deriving DecidableEq, Repr

namespace Given

def setValue (o : ToolOption) (value : String) (g : Given) : Given :=
  match o with
  | .logFile => { g with logFile := some (.ofValue value) }
  | .model => { g with model := some (.ofValue value) }
  | _ => g

/-- The options of an argument of letters that are run together: an option, and those of the text
attached to it. -/
def cluster (options : List ToolOption) (o : ToolOption) :
    List Char → Except ArgumentError (List ToolOption)
  | [] => .error (.ignoredValue o "")
  | c :: rest =>
    match Reading.byLetter? options c with
    | none => .error (.ignoredValue o (String.ofList (c :: rest)))
    | some next =>
      if rest.isEmpty then .ok [o, next] else (cluster options next rest).map (o :: ·)

/-- Takes options without a value in order; help ends it. -/
def takeAll (page : Page) : List ToolOption → Given → Except Refusal Given
  | [], g => .ok g
  | o :: rest, g =>
    if o = .help then .error (.help page)
    else takeAll page rest (if o = .verbose then { g with verbose := true } else g)

end Given

/-- What was collected from arguments: what the options gave, the arguments that mean nothing, and,
when a command is expected, it and all arguments behind it. -/
structure Collected where
  given : Given
  extras : List String
  command : Option (String × List String)
  deriving DecidableEq, Repr

namespace Collected

/-- Collects what the arguments of a page give. On the top page, the first argument that is no option
is the command, and what follows is for its page. -/
def ofReadings (page : Page) (g : Given) (extras : List String) :
    List (String × Reading) → Except Refusal Collected
  | [] => .ok ⟨g, extras, none⟩
  | (argument, .plain) :: rest =>
    if page = .top then .ok ⟨g, extras, some (argument, rest.map (·.1))⟩
    else ofReadings page g (extras ++ [argument]) rest
  | (argument, .unknown) :: rest => ofReadings page g (extras ++ [argument]) rest
  | (_, .long o value) :: rest =>
    if o.takesValue then
      match value, rest with
      | some value, rest => ofReadings page (g.setValue o value) extras rest
      | none, (value, .plain) :: rest => ofReadings page (g.setValue o value) extras rest
      | none, _ => .error (.wrong page (.expectsValue o))
    else
      match value with
      | some value => .error (.wrong page (.ignoredValue o value))
      | none =>
        match Given.takeAll page [o] g with
        | .ok g => ofReadings page g extras rest
        | .error refusal => .error refusal
  | (_, .short o attached) :: rest =>
    let found : Except ArgumentError (List ToolOption) :=
      match attached with
      | none => .ok [o]
      | some text => Given.cluster page.options o text
    match found with
    | .error e => .error (.wrong page e)
    | .ok os =>
      match Given.takeAll page os g with
      | .ok g => ofReadings page g extras rest
      | .error refusal => .error refusal

/-- Collects what arguments give. All of them are read before any of them counts. -/
def ofArguments (page : Page) (arguments : List String) : Except Refusal Collected :=
  match arguments.mapM (Reading.ofArgument page.options) with
  | .error e => .error (.wrong page e)
  | .ok readings => ofReadings page Given.nothing [] (arguments.zip readings)

end Collected

/-- The arguments before the first `--`, and those behind it. -/
def splitDocletArguments (argv : List String) : List String × List String :=
  (argv.takeWhile (· ≠ docletMark), (argv.dropWhile (· ≠ docletMark)).drop 1)

namespace Request

def pageOf? (name : String) : Option Page :=
  if name = "check" then some .check else if name = "filter" then some .filter else none

/-- What the two pages gave together: a later log file replaces an earlier one. -/
def combine (first second : Given) (command : Command) : Request where
  verbose := first.verbose || second.verbose
  logFile := second.logFile.or first.logFile
  command := command

def commandOf (page : Page) (g : Given) : Except Refusal Command :=
  if page = .filter then
    match g.model with
    | some model => .ok (.filter model)
    | none => .error (.wrong page (.required ToolOption.model.longName))
  else .ok .check

/-- What the tool's arguments ask for. -/
def parse (arguments : List String) : Except Refusal Request := do
  let first ← Collected.ofArguments .top arguments
  match first.command with
  | none => .error (.wrong .top (.required "command"))
  | some (name, rest) =>
    match pageOf? name with
    | none => .error (.wrong .top (.invalidCommand name))
    | some page => do
      let second ← Collected.ofArguments page rest
      let command ← commandOf page second.given
      let extras := first.extras ++ second.extras
      if extras.isEmpty then .ok (combine first.given second.given command)
      else .error (.wrong .top (.unrecognized extras))

end Request

end DocletPreflight
