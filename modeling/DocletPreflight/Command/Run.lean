import DocletPreflight.Classes.Listing
import DocletPreflight.Command.Arguments
import DocletPreflight.Configuration.Build
import DocletPreflight.Log

/-!
# One run of the tool

`run` takes the arguments of the tool and the session so far, and answers what the run wrote, how it
ended, and the session that it leaves. It settles the tool's own arguments first, then the log, then
the doclet options, and only then does what the command says; whichever of these fails first ends the
run. Diagnostics go to the console as they arise, so they stand before the closing words of a run that
fails. The console and the output are streams that accept every text: writing to them never fails, whatever
halves of surrogate pairs there are in what is written.
-/

set_option autoImplicit false

namespace DocletPreflight

/-- What the tool has no words of its own for: it ends the run as it is. -/
inductive RunFault where
  /-- The option for a log file has no path. -/
  | pathlessLog
  | logFile (e : FileError)
  | build (fault : BuildFault)
  /-- The option for the listing has no path. -/
  | pathlessListing
  | listing (fault : ReadFault)
  deriving DecidableEq, Repr

def RunFault.message : RunFault → String
  | pathlessLog => "expected str, bytes or os.PathLike object, not list"
  | pathlessListing => "'list' object has no attribute 'read_text'"
  | logFile e => e.message
  | build (.encoding fault) => fault.message
  | build (.taglets e) => e.message
  | listing fault => fault.message

/-- How a run ends. -/
inductive Ending where
  | exit (code : Nat)
  | crash (fault : RunFault)
  deriving DecidableEq, Repr

structure RunResult where
  ending : Ending
  output : String
  console : String
  deriving DecidableEq, Repr

def lines (ls : List String) : String := String.join (ls.map (· ++ "\n"))

/-- A complaint about arguments, below the usage of the page that noticed. -/
def Page.complaint (page : Page) (e : ArgumentError) : String :=
  page.usage ++ page.program ++ ": error: " ++ e.message ++ "\n"

/-- The closing words of a run whose options amount to no configuration. -/
def invalidOptionsAdvice : String :=
  lines ["xmldoclet: invalid doclet options", "Run with --verbose for more details."]

/-- The numbers of errors and warnings, when there are any. -/
def tallyLine (ds : List Diagnostic) : List String :=
  if tally .error ds = 0 && tally .warning ds = 0 then []
  else
    [toString (tally .error ds) ++ " error(s), " ++ toString (tally .warning ds) ++ " warning(s)"]

/-- The names of the classes of a listing that a configuration lets through, in order. -/
def Configuration.acceptedNames (c : Configuration) (l : Listing) : List String :=
  let accepted :=
    l.classes.filter fun listed => !c.classFilter.isActive || c.accepts (l.facets listed)
  accepted.map (·.name)

namespace Command

/-- Does what a command says with a checked configuration. `console` is what the console shows so far.
-/
def perform (command : Command) (c : Configuration) (ds : List Diagnostic) (console : String)
    (s : Session) : RunResult :=
  match command with
  | .check => ⟨.exit 0, lines (c.describe ++ tallyLine ds), console⟩
  | .filter .dropped => ⟨.crash .pathlessListing, "", console⟩
  | .filter (.path path) =>
    match Listing.read s.files s.workingDirectory path with
    | .ok l => ⟨.exit 0, lines (c.acceptedNames l), console⟩
    | .error (.rejected e) => ⟨.exit 1, "", console ++ e.message ++ "\n"⟩
    | .error (.fault fault) => ⟨.crash (.listing fault), "", console⟩

end Command

/-- What a run amounts to once its diagnostics are delivered. -/
def conclude (command : Command) (built : BuildResult) (console : String) (s : Session) : RunResult :=
  match built.configuration with
  | .error fault => ⟨.crash (.build fault), "", console⟩
  | .ok none => ⟨.exit 1, "", console ++ invalidOptionsAdvice⟩
  | .ok (some c) => command.perform c built.trace.diagnostics console s

def Request.configureLog (request : Request) (s : Session) : Except RunFault Unit × Session :=
  match s.configureLog request.verbose (request.logFile.bind GivenPath.path?) with
  | (.error e, s) => (.error (.logFile e), s)
  | (.ok _, s) => (if request.logFile = some .dropped then .error .pathlessLog else .ok (), s)

/-- Carries out a request with the doclet options that came with it. -/
def Request.execute (request : Request) (env : Environment) (lookup : Encoding.Lookup)
    (docletArguments : List String) (s : Session) : RunResult × Session :=
  match request.configureLog s with
  | (.error fault, s) => (⟨.crash fault, "", ""⟩, s)
  | (.ok _, s) =>
    match OptionMatrix.group docletArguments with
    | .error e => (⟨.exit 1, "", e.message ++ "\n"⟩, s)
    | .ok m =>
      let built := build env lookup m
      let (console, s) := s.deliverAll (built.trace.map Event.toRecord)
      (conclude request.command built console s, s)

def run (env : Environment) (lookup : Encoding.Lookup) (arguments : List String) (s : Session) :
    RunResult × Session :=
  let (toolArguments, docletArguments) := splitDocletArguments arguments
  match Request.parse toolArguments with
  | .error (.help page) => (⟨.exit 0, page.help, ""⟩, s)
  | .error (.wrong page e) => (⟨.exit 2, "", page.complaint e⟩, s)
  | .ok request => request.execute env lookup docletArguments s

/-- Runs of the tool one after another in one session. -/
def runAll (env : Environment) (lookup : Encoding.Lookup) :
    List (List String) → Session → List RunResult × Session
  | [], s => ([], s)
  | arguments :: rest, s =>
    let (result, s) := run env lookup arguments s
    let (results, s) := runAll env lookup rest s
    (result :: results, s)

end DocletPreflight
