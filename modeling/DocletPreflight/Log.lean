import DocletPreflight.Diagnostic
import DocletPreflight.Files
import DocletPreflight.Log.Logger

/-!
# The log

Every diagnostic is also a log record. The root logger has a threshold and handlers, each of which
delivers what passes its own threshold to the console or to a log file. `Session` is what lasts between
two runs: the file tree, the settings of the log and the loggers in use. Configuring the log takes away
the handlers that are there, one after another, and adds one for the console and, when a file was named,
one for the file. Records of a logger that does not reach the root find the log as it is before it is
configured.
-/

set_option autoImplicit false

namespace DocletPreflight

/-- How much a log record matters: any number. Six of them have a word. -/
structure Severity where
  rank : Int
  deriving DecidableEq, Repr

namespace Severity

def notSet : Severity := ⟨0⟩

def debug : Severity := ⟨10⟩

def info : Severity := ⟨20⟩

def warning : Severity := ⟨30⟩

def error : Severity := ⟨40⟩

def critical : Severity := ⟨50⟩

/-- The words for the severities that have one. -/
def words : List (Severity × String) :=
  [(notSet, "NOTSET"), (debug, "DEBUG"), (info, "INFO"), (warning, "WARNING"), (error, "ERROR"),
    (critical, "CRITICAL")]

/-- A severity in a log line: its word, or else its number. -/
def name (s : Severity) : String := (words.lookup s).getD ("Level " ++ toString s.rank)

end Severity

/-- A record of the log: the logger that it came through says which part of the program wrote it. -/
structure LogRecord where
  severity : Severity
  logger : String
  message : String
  deriving DecidableEq, Repr

def diagnosticLogger : String := loggerName (some "options")

/-- The severity of a channel: confirmations are for information. -/
def Channel.severity : Channel → Severity
  | .error => .error
  | .warning => .warning
  | .notice => .info

def NoteSource.logger : NoteSource → String
  | .options => loggerName (some "config")
  | .taglets => loggerName (some "taglets")

def Diagnostic.toRecord (d : Diagnostic) : LogRecord :=
  ⟨d.channel.severity, diagnosticLogger, d.message⟩

/-- An event as a log record; notes are for debugging. -/
def Event.toRecord : Event → LogRecord
  | .diagnostic d => d.toRecord
  | .note source message => ⟨.debug, source.logger, message⟩

/-- The places that records are delivered to. -/
inductive LogTarget where
  | console
  | file (place : List String)
  deriving DecidableEq, Repr

/-- A handler of the log: it delivers records from a threshold on. -/
structure LogHandler where
  threshold : Severity
  target : LogTarget
  deriving DecidableEq, Repr

/-- The settings of the log: its threshold, and its handlers in the order in which they were added. -/
structure LogSettings where
  threshold : Severity
  handlers : List LogHandler
  deriving DecidableEq, Repr

namespace LogSettings

/-- Before the log is configured, warnings and worse matter, and there is no handler for them. -/
def unset : LogSettings := ⟨.warning, []⟩

def addHandler (h : LogHandler) (log : LogSettings) : LogSettings :=
  { log with handlers := log.handlers ++ [h] }

def removeHandler (log : LogSettings) (h : LogHandler) : LogSettings :=
  { log with handlers := log.handlers.erase h }

/-- The log after all of its handlers have been taken away, one after another. -/
def reset (log : LogSettings) : LogSettings := log.handlers.foldl removeHandler log

end LogSettings

/-- What lasts between runs: the file tree and the place in it that relative paths start from, the text
that dates a line of a log file, the settings of the log, the loggers in use, and by logger the
severities that were found too low since the log was last configured. -/
structure Session where
  workingDirectory : List String
  clock : String
  files : FileTree
  log : LogSettings
  loggers : List String
  silenced : List (String × Severity)
  deriving DecidableEq, Repr

def thresholdFor (verbose : Bool) : Severity := if verbose then .debug else .info

def LogRecord.consoleLine (r : LogRecord) : String :=
  "[xmldoclet] " ++ r.severity.name ++ " " ++ r.message ++ "\n"

def LogRecord.fileLine (clock : String) (r : LogRecord) : String :=
  clock ++ " " ++ r.severity.name ++ " " ++ r.logger ++ ": " ++ r.message ++ "\n"

/-- Whether a record matters without any settings: only warnings and worse do. -/
def LogRecord.isGrave (r : LogRecord) : Bool := Severity.warning.rank ≤ r.severity.rank

/-- Without any handler, a record reaches the console as a bare message. -/
def LogRecord.bareLine (r : LogRecord) : String := if r.isGrave then r.message ++ "\n" else ""

/-- What keeps a record out of a log file: the first halves of surrogate pairs in its line. -/
def LogRecord.unwritable? (clock : String) (r : LogRecord) : Option Text.Unencodable :=
  Text.unencodable? (fun _ => false) (Text.codes (r.fileLine clock))

/-- What the console shows of a record that could not be written. The places in the program that the
report goes on to list are left out. -/
def writeFailure (u : Text.Unencodable) : String :=
  "--- Logging error ---\n" ++ u.message ++ "\n"

namespace Session

/-- A session in a directory of a tree, before the log is configured. -/
def start (workingDirectory : List String) (clock : String) (files : FileTree) : Session :=
  ⟨workingDirectory, clock, files.put workingDirectory .directory, .unset, [], []⟩

/-- Configures the log anew, and nothing is silenced any more. The log file is opened at once, and
created if need be; when that is refused, the log keeps its console. -/
def configureLog (verbose : Bool) (logFile : Option NormalPath) (s : Session) :
    Except FileError Unit × Session :=
  let threshold := thresholdFor verbose
  let log := { s.log with threshold }.reset.addHandler ⟨threshold, .console⟩
  match logFile with
  | none => (.ok (), { s with log, silenced := [] })
  | some path =>
    match s.files.openForAppend s.workingDirectory path with
    | .ok (place, files) =>
      (.ok (), { s with files, log := log.addHandler ⟨threshold, .file place⟩, silenced := [] })
    | .error e => (.error e, { s with log, silenced := [] })

def useLogger (name : String) (s : Session) : Session :=
  { s with loggers := s.loggers.insert name }

def settingsFor (logger : String) (s : Session) : LogSettings :=
  if Logger.reaches s.loggers logger then s.log else .unset

/-- Whether a record matters to the log. What was found too low stays so, even when its logger comes to
reach the log. -/
def admits (r : LogRecord) (s : Session) : Bool :=
  (s.settingsFor r.logger).threshold.rank ≤ r.severity.rank &&
    !s.silenced.contains (r.logger, r.severity)

/-- Remembers that a record was found too low. -/
def silence (r : LogRecord) (s : Session) : Session :=
  { s with silenced := (r.logger, r.severity) :: s.silenced }

/-- Gives a record to a handler: the text that the console gains, and the session after it. -/
def handle (r : LogRecord) (h : LogHandler) (s : Session) : String × Session :=
  if h.threshold.rank ≤ r.severity.rank then
    match h.target with
    | .console => (r.consoleLine, s)
    | .file place =>
      match r.unwritable? s.clock with
      | some u => (writeFailure u, s)
      | none => ("", { s with files := s.files.append place (r.fileLine s.clock) })
  else ("", s)

def handleAll (r : LogRecord) : List LogHandler → Session → String × Session
  | [], s => ("", s)
  | h :: hs, s => ((s.handle r h).1 ++ (handleAll r hs (s.handle r h).2).1,
      (handleAll r hs (s.handle r h).2).2)

/-- Delivers one record: the text that the console gains, and the session after it. -/
def deliver (r : LogRecord) (s : Session) : String × Session :=
  let s := s.useLogger r.logger
  if s.admits r then
    match (s.settingsFor r.logger).handlers with
    | [] => (r.bareLine, s)
    | handlers => s.handleAll r handlers
  else ("", s.silence r)

def deliverAll : List LogRecord → Session → String × Session
  | [], s => ("", s)
  | r :: rs, s =>
    ((s.deliver r).1 ++ (deliverAll rs (s.deliver r).2).1, (deliverAll rs (s.deliver r).2).2)

end Session

end DocletPreflight
