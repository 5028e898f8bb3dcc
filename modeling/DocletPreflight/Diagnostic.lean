/-!
# Diagnostics

Checking the options of a doclet never stops at a surprise: what is wrong, ignored or confirmed is
reported on one of three channels. A step of the check hands over a `Trace`, the diagnostics it
reported together with the debugging notes it left, in the order in which they arose.
-/

set_option autoImplicit false

namespace DocletPreflight

/-- The channel of a diagnostic: a failure, an option that was ignored, a confirmation. -/
inductive Channel where
  | error
  | warning
  | notice
  deriving DecidableEq, Repr

structure Diagnostic where
  channel : Channel
  message : String
  deriving DecidableEq, Repr

def Channel.name : Channel → String
  | .error => "error"
  | .warning => "warning"
  | .notice => "notice"

/-- A failure. -/
def Diagnostic.error (message : String) : Diagnostic := ⟨.error, message⟩

/-- An option that was ignored. -/
def Diagnostic.warning (message : String) : Diagnostic := ⟨.warning, message⟩

/-- A confirmation. -/
def Diagnostic.notice (message : String) : Diagnostic := ⟨.notice, message⟩

def tally (channel : Channel) (ds : List Diagnostic) : Nat :=
  (ds.filter (·.channel = channel)).length

/-- The messages on a channel, in order. -/
def messagesOn (channel : Channel) (ds : List Diagnostic) : List String :=
  (ds.filter (·.channel = channel)).map (·.message)

/-- Tallies of diagnostics reported one after another add up. -/
theorem tally_append (channel : Channel) (ds es : List Diagnostic) :
    tally channel (ds ++ es) = tally channel ds + tally channel es := by
  simp [tally]

/-- The parts of the check that leave debugging notes. -/
inductive NoteSource where
  | options
  | taglets
  deriving DecidableEq, Repr

/-- One thing that happened during the check. -/
inductive Event where
  | diagnostic (d : Diagnostic)
  | note (source : NoteSource) (message : String)
  deriving DecidableEq, Repr

/-- What happened during the check, in order. -/
abbrev Trace := List Event

def Event.diagnostic? : Event → Option Diagnostic
  | .diagnostic d => some d
  | .note .. => none

def Trace.diagnostics (t : Trace) : List Diagnostic := t.filterMap Event.diagnostic?

/-- An empty trace reports nothing. -/
@[simp]
theorem Trace.diagnostics_nil : Trace.diagnostics [] = [] := rfl

/-- What two traces report one after the other is what each of them reports. -/
@[simp]
theorem Trace.diagnostics_append (t u : Trace) :
    Trace.diagnostics (t ++ u) = t.diagnostics ++ u.diagnostics := by
  simp [Trace.diagnostics]

def Trace.reporting (ds : List Diagnostic) : Trace := ds.map Event.diagnostic

/-- A trace that only reports diagnostics reports just these. -/
@[simp]
theorem Trace.diagnostics_reporting (ds : List Diagnostic) :
    (Trace.reporting ds).diagnostics = ds := by
  induction ds with
  | nil => rfl
  | cons d ds ih => simpa [Trace.reporting, Trace.diagnostics, Event.diagnostic?] using ih

end DocletPreflight
