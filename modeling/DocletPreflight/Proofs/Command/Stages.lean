import DocletPreflight.Command.Run

/-!
# The stages of a run

A run with a request and an open log goes through its stages in order: the doclet options are split, the
matrix is checked, and the command prints something, for which the filter command reads a listing. It ends
at the first stage that fails, and `RunOutcome` has one case for each stage where it may end
(`runOutcome_of_run`).
-/

set_option autoImplicit false

namespace DocletPreflight

variable {env : Environment} {lookup : Encoding.Lookup} {arguments : List String} {s : Session}
  {request : Request}

/-- The session once a request has configured the log. -/
def Request.opened (request : Request) (s : Session) : Session := (request.configureLog s).2

/-- Delivers what the check of an option matrix reports. -/
def Request.checked (request : Request) (env : Environment) (lookup : Encoding.Lookup)
    (m : OptionMatrix) (s : Session) : String × Session :=
  (request.opened s).deliverAll ((build env lookup m).trace.map Event.toRecord)

/-- A request configures its log by the path that it gives for it. -/
theorem configureLog_of_request (h : (request.configureLog s).1 = .ok ()) :
    (s.configureLog request.verbose (request.logFile.bind GivenPath.path?)).1 = .ok () ∧
      request.opened s = (s.configureLog request.verbose (request.logFile.bind GivenPath.path?)).2 := by
  unfold Request.opened Request.configureLog at *
  split at h
  · cases h
  next configured opened hconfigured =>
    rw [hconfigured]
    exact ⟨rfl, rfl⟩

/-- A run executes the request that the tool's arguments are read as. -/
theorem run_eq_execute (env : Environment) (lookup : Encoding.Lookup)
    (hparse : Request.parse (splitDocletArguments arguments).1 = .ok request) (s : Session) :
    run env lookup arguments s =
      request.execute env lookup (splitDocletArguments arguments).2 s := by
  simp only [run, hparse]

/-- A run whose log cannot be opened ends there. -/
theorem run_of_log_error (env : Environment) (lookup : Encoding.Lookup) {fault : RunFault}
    (hparse : Request.parse (splitDocletArguments arguments).1 = .ok request)
    (hlog : (request.configureLog s).1 = .error fault) :
    run env lookup arguments s = (⟨.crash fault, "", ""⟩, request.opened s) := by
  rw [run_eq_execute env lookup hparse, Request.execute, Request.opened]
  rcases hconfigured : request.configureLog s with ⟨configured, opened⟩
  rw [hconfigured] at hlog
  obtain rfl : configured = .error fault := hlog
  rfl

section Opened

variable (hparse : Request.parse (splitDocletArguments arguments).1 = .ok request)
  (hlog : (request.configureLog s).1 = .ok ())

include hparse hlog

/-- A run whose doclet options cannot be split ends there: nothing is checked, and the log gets nothing.
-/
theorem run_of_group_error (env : Environment) (lookup : Encoding.Lookup) {e : UnknownFlag}
    (hgroup : OptionMatrix.group (splitDocletArguments arguments).2 = .error e) :
    run env lookup arguments s = (⟨.exit 1, "", e.message ++ "\n"⟩, request.opened s) := by
  rw [run_eq_execute env lookup hparse, Request.execute, Request.opened]
  rcases hconfigured : request.configureLog s with ⟨configured, opened⟩
  rw [hconfigured] at hlog
  obtain rfl : configured = .ok () := hlog
  simp only [hgroup]

/-- A run with an option matrix comes to its conclusion in the session that the check leaves. -/
theorem run_of_group (env : Environment) (lookup : Encoding.Lookup) {m : OptionMatrix}
    (hgroup : OptionMatrix.group (splitDocletArguments arguments).2 = .ok m) :
    run env lookup arguments s =
      (conclude request.command (build env lookup m) (request.checked env lookup m s).1
        (request.checked env lookup m s).2, (request.checked env lookup m s).2) := by
  rw [run_eq_execute env lookup hparse, Request.execute, Request.checked, Request.opened]
  rcases hconfigured : request.configureLog s with ⟨configured, opened⟩
  rw [hconfigured] at hlog
  obtain rfl : configured = .ok () := hlog
  simp only [hgroup]

end Opened

/-- What a command prints with a configuration: its description and the tally of the diagnostics, or the
names of the classes of the listing that it lets through. -/
inductive Prints (c : Configuration) (ds : List Diagnostic) (left : Session) :
    Command → String → Prop where
  | check : Prints c ds left .check (lines (c.describe ++ tallyLine ds))
  | filter {p : NormalPath} {l : Listing}
      (hread : Listing.read left.files left.workingDirectory p = .ok l) :
      Prints c ds left (.filter (.path p)) (lines (c.acceptedNames l))

/-- The results of a run with an open log, by the stage that it ends at. `logged` is what the console
shows of the check of a matrix, and `left` is the session that the run leaves. -/
inductive RunOutcome (env : Environment) (lookup : Encoding.Lookup) (docletArguments : List String)
    (command : Command) (logged : OptionMatrix → String) (left : Session) : RunResult → Prop where
  | unknownOption {e : UnknownFlag} (hgroup : OptionMatrix.group docletArguments = .error e) :
      RunOutcome env lookup docletArguments command logged left ⟨.exit 1, "", e.message ++ "\n"⟩
  | invalidOptions {m : OptionMatrix} (hgroup : OptionMatrix.group docletArguments = .ok m)
      (hbuild : (build env lookup m).configuration = .ok none) :
      RunOutcome env lookup docletArguments command logged left
        ⟨.exit 1, "", logged m ++ invalidOptionsAdvice⟩
  | rejectedListing {m : OptionMatrix} {c : Configuration} {p : NormalPath} {e : ListingError}
      (hgroup : OptionMatrix.group docletArguments = .ok m)
      (hbuild : (build env lookup m).configuration = .ok (some c))
      (hcommand : command = .filter (.path p))
      (hread : Listing.read left.files left.workingDirectory p = .error (.rejected e)) :
      RunOutcome env lookup docletArguments command logged left
        ⟨.exit 1, "", logged m ++ e.message ++ "\n"⟩
  | printed {m : OptionMatrix} {c : Configuration} {output : String}
      (hgroup : OptionMatrix.group docletArguments = .ok m)
      (hbuild : (build env lookup m).configuration = .ok (some c))
      (hprints : Prints c (build env lookup m).trace.diagnostics left command output) :
      RunOutcome env lookup docletArguments command logged left ⟨.exit 0, output, logged m⟩
  | crashed {m : OptionMatrix} (fault : RunFault) (hgroup : OptionMatrix.group docletArguments = .ok m) :
      RunOutcome env lookup docletArguments command logged left ⟨.crash fault, "", logged m⟩

end DocletPreflight
