import DocletPreflight.Log
import DocletPreflight.Proofs.Files.Contents
import DocletPreflight.Proofs.Log.Reach

/-!
# Following a call

Whatever settings a log has, a call that configures it leaves one handler for the console, and one for
the file that the call names (`configured_of_configureLog`). From then on the log follows that call until
the next one (`Session.Follows`): its settings are those of the call, the file is there, and only what is
too low for the call has been found too low. A record keeps this so, and it goes where the call says
(`Follows.deliver`). Where the line of a record cannot be encoded, the file does without it, and the
console shows a report of this behind the record (`Follows.deliver_console`).
-/

set_option autoImplicit false

namespace DocletPreflight

/-! ## Calls and records -/

/-- A call that configures the log. -/
structure LogCall where
  verbose : Bool
  logFile : Option NormalPath
  deriving DecidableEq, Repr

namespace LogCall

/-- The least severity that matters to a call. -/
def threshold (call : LogCall) : Severity := thresholdFor call.verbose

/-- The place of the file that a call names. -/
def place? (workingDirectory : List String) (call : LogCall) : Option (List String) :=
  call.logFile.map fun p => (p.absolute workingDirectory).names

/-- A record matters to a call from the threshold on. -/
def Admits (call : LogCall) (r : LogRecord) : Prop := call.threshold.rank ≤ r.severity.rank

instance (call : LogCall) (r : LogRecord) : Decidable (call.Admits r) := Int.decLe _ _

/-- The records that matter to a call. -/
def shown (call : LogCall) (rs : List LogRecord) : List LogRecord := rs.filter (call.Admits ·)

/-- The first record is shown if it matters to the call. -/
theorem shown_cons (call : LogCall) (r : LogRecord) (rs : List LogRecord) :
    call.shown (r :: rs) = if call.Admits r then r :: call.shown rs else call.shown rs := by
  simp [shown, List.filter_cons]

/-- The settings that a call asks for: one handler for the console, and one for the file if there is
one. -/
def settings (workingDirectory : List String) (call : LogCall) : LogSettings where
  threshold := call.threshold
  handlers := ⟨call.threshold, .console⟩ ::
    ((call.place? workingDirectory).toList.map fun place => ⟨call.threshold, .file place⟩)

/-- What the console shows behind a record that matters to a call: where the call names a file and the line
of the record cannot be encoded, a report of this. -/
def failureReport (call : LogCall) (clock : String) (r : LogRecord) : String :=
  if call.logFile = none then "" else (r.unwritable? clock).elim "" writeFailure

/-- What the console shows of a record that matters to a call. -/
def consoleEntry (call : LogCall) (clock : String) (r : LogRecord) : String :=
  r.consoleLine ++ call.failureReport clock r

end LogCall

namespace LogRecord

/-- A record comes through a logger of an ordinary name. -/
def IsOrdinary (r : LogRecord) : Prop := ∃ name, Logger.IsOrdinary name ∧ r.logger = loggerName name

/-- Where a call names a file, the line of a record can be encoded. -/
def FitsIn (call : LogCall) (clock : String) (r : LogRecord) : Prop :=
  call.logFile ≠ none → r.unwritable? clock = none

/-- A record comes through a logger of an ordinary name, and its line can be encoded. -/
def IsRegular (clock : String) (r : LogRecord) : Prop := r.IsOrdinary ∧ r.unwritable? clock = none

/-- A record that fits into the file of a call leaves its line alone on the console. -/
theorem FitsIn.consoleEntry_eq {call : LogCall} {clock : String} {r : LogRecord}
    (h : r.FitsIn call clock) : call.consoleEntry clock r = r.consoleLine := by
  unfold LogCall.consoleEntry LogCall.failureReport
  split
  · exact String.append_empty
  next hnamed => rw [h hnamed, Option.elim_none, String.append_empty]

end LogRecord

namespace Session

variable {s t : Session} {latest call : LogCall} {r : LogRecord}

/-! ## What a record leaves alone -/

/-- Handlers leave the working directory and the clock. -/
theorem keeps_handleAll (hs : List LogHandler) (r : LogRecord) (s : Session) :
    (s.handleAll r hs).2.workingDirectory = s.workingDirectory ∧
      (s.handleAll r hs).2.clock = s.clock := by
  induction hs generalizing s with
  | nil => exact ⟨rfl, rfl⟩
  | cons h hs ih =>
    have hhandle : (s.handle r h).2.workingDirectory = s.workingDirectory ∧
        (s.handle r h).2.clock = s.clock := by
      unfold handle
      split
      · split
        · exact ⟨rfl, rfl⟩
        · split <;> exact ⟨rfl, rfl⟩
      · exact ⟨rfl, rfl⟩
    obtain ⟨hdirectory, hclock⟩ := ih (s.handle r h).2
    exact ⟨hdirectory.trans hhandle.1, hclock.trans hhandle.2⟩

/-- Delivering a record leaves the working directory and the clock. -/
theorem keeps_deliver (r : LogRecord) (s : Session) :
    (s.deliver r).2.workingDirectory = s.workingDirectory ∧ (s.deliver r).2.clock = s.clock := by
  unfold deliver
  simp only
  split
  · split
    · exact ⟨rfl, rfl⟩
    · exact keeps_handleAll _ r (s.useLogger r.logger)
  · exact ⟨rfl, rfl⟩

/-- Delivering records leaves the working directory and the clock. -/
theorem keeps_deliverAll (rs : List LogRecord) (s : Session) :
    (s.deliverAll rs).2.workingDirectory = s.workingDirectory ∧
      (s.deliverAll rs).2.clock = s.clock := by
  induction rs generalizing s with
  | nil => exact ⟨rfl, rfl⟩
  | cons r rs ih =>
    obtain ⟨hdirectory, hclock⟩ := ih (s.deliver r).2
    obtain ⟨hdirectory', hclock'⟩ := keeps_deliver r s
    exact ⟨hdirectory.trans hdirectory', hclock.trans hclock'⟩

/-! ## Configuring -/

/-- Resetting a log takes all of its handlers away and leaves its threshold. -/
theorem reset_eq (log : LogSettings) : log.reset = ⟨log.threshold, []⟩ := by
  have hfold : ∀ (hs : List LogHandler) (threshold : Severity),
      hs.foldl LogSettings.removeHandler ⟨threshold, hs⟩ = ⟨threshold, []⟩ := by
    intro hs threshold
    induction hs with
    | nil => rfl
    | cons h hs ih =>
      rw [List.foldl_cons, LogSettings.removeHandler, List.erase_cons_head]
      exact ih
  exact hfold log.handlers log.threshold

/-- What a call that configures the log makes of a session. -/
structure Configured (call : LogCall) (s t : Session) : Prop where
  log : t.log = call.settings s.workingDirectory
  silenced : t.silenced = []
  workingDirectory : t.workingDirectory = s.workingDirectory
  clock : t.clock = s.clock
  contents : ∀ place, t.files.contents? place =
    if call.place? s.workingDirectory = some place then some ((s.files.contents? place).getD [])
    else s.files.contents? place

/-- A call that succeeds has configured the log. -/
theorem configured_of_configureLog {verbose : Bool} {logFile : Option NormalPath}
    (h : s.configureLog verbose logFile = (.ok (), t)) : Configured ⟨verbose, logFile⟩ s t := by
  unfold configureLog at h
  simp only [reset_eq] at h
  cases logFile with
  | none =>
    cases h
    exact ⟨rfl, rfl, rfl, rfl, fun place => rfl⟩
  | some p =>
    simp only at h
    split at h
    next place files hopened =>
      cases h
      obtain ⟨rfl, hcontents⟩ := FileTree.openForAppend_eq hopened
      refine ⟨rfl, rfl, rfl, rfl, fun other => ?_⟩
      rw [hcontents other]
      simp only [LogCall.place?, Option.map_some, Option.some.injEq, eq_comm]
      split
      next heq => rw [heq]
      next => rfl
    · cases h

/-! ## Following a call -/

/-- The log is as a call left it, and nothing that matters to the call has been found too low. -/
structure Follows (latest : LogCall) (s : Session) : Prop where
  log : s.log = latest.settings s.workingDirectory
  silenced : ∀ pair ∈ s.silenced, pair.2.rank < latest.threshold.rank
  opened : ∀ place, latest.place? s.workingDirectory = some place →
    ∃ bytes, s.files.contents? place = some bytes

/-- A log that has been configured follows the call. -/
theorem Configured.follows (h : Configured call s t) : Follows call t where
  log := by rw [h.log, h.workingDirectory]
  silenced := by simp [h.silenced]
  opened place hplace := by
    rw [h.workingDirectory] at hplace
    exact ⟨_, by rw [h.contents, if_pos hplace]⟩

/-- A logger of an ordinary name has the settings of the log. -/
theorem settingsFor_of_isOrdinary (h : r.IsOrdinary) (s : Session) :
    s.settingsFor r.logger = s.log := by
  obtain ⟨name, hordinary, hlogger⟩ := h
  rw [settingsFor, hlogger, if_pos (Logger.reaches_loggerName s.loggers hordinary)]

/-- A log that follows a call takes just the records that matter to it. -/
theorem Follows.admits_iff (h : s.Follows latest) (hr : r.IsOrdinary) :
    s.admits r = true ↔ latest.Admits r := by
  rw [admits, settingsFor_of_isOrdinary hr, h.log, Bool.and_eq_true, decide_eq_true_iff]
  refine ⟨fun hadmits => hadmits.1, fun hadmits => ⟨hadmits, ?_⟩⟩
  rw [Bool.not_eq_true', List.contains_eq_mem, decide_eq_false_iff_not]
  intro hmem
  have hlow : r.severity.rank < latest.threshold.rank := h.silenced _ hmem
  have hhigh : latest.threshold.rank ≤ r.severity.rank := hadmits
  omega

/-- The session once a record is in the file of a call, if there is one. -/
def written (latest : LogCall) (r : LogRecord) (s : Session) : Session :=
  { s with
    files := match latest.place? s.workingDirectory with
      | none => s.files
      | some place => s.files.append place (r.fileLine s.clock) }

/-- The session once a record has been offered to the file of a call: the file does without a line that
cannot be encoded. -/
def filed (latest : LogCall) (r : LogRecord) (s : Session) : Session :=
  if r.unwritable? s.clock = none then s.written latest r else s

/-- A record that fits is written. -/
theorem filed_of_fitsIn (h : r.FitsIn latest s.clock) : s.filed latest r = s.written latest r := by
  unfold filed
  split
  · rfl
  next hunwritable =>
    have hnone : latest.logFile = none := by
      by_contra hnamed
      exact hunwritable (h hnamed)
    simp [written, LogCall.place?, hnone]

/-- The handlers of a call show and file a record that matters to it. -/
theorem handleAll_settings (hadmits : latest.Admits r) :
    s.handleAll r (latest.settings s.workingDirectory).handlers =
      (latest.consoleEntry s.clock r, s.filed latest r) := by
  have hrank : latest.threshold.rank ≤ r.severity.rank := hadmits
  have hconsole : s.handle r ⟨latest.threshold, .console⟩ = (r.consoleLine, s) := by
    simp only [handle, hrank, if_true]
  unfold LogCall.settings LogCall.consoleEntry LogCall.failureReport filed written
  simp only [handleAll, hconsole]
  cases hfile : latest.logFile with
  | none => simp [handleAll, LogCall.place?, hfile]
  | some path =>
    cases hunwritable : r.unwritable? s.clock with
    | none => simp [handleAll, handle, hrank, hunwritable, LogCall.place?, hfile]
    | some u => simp [handleAll, handle, hrank, hunwritable, LogCall.place?, hfile]

/-- Where there are handlers, they get what the log admits. -/
theorem deliver_eq_handleAll {log : LogSettings} (hhandlers : log.handlers ≠ [])
    (hlog : (s.useLogger r.logger).settingsFor r.logger = log)
    (hadmits : (s.useLogger r.logger).admits r = true) :
    s.deliver r = (s.useLogger r.logger).handleAll r log.handlers := by
  obtain ⟨h, hs, hcons⟩ := List.exists_cons_of_ne_nil hhandlers
  unfold deliver
  simp only [hadmits, hlog, hcons, if_true]

/-- A logger that comes into use leaves the log following its call. -/
theorem Follows.useLogger (h : s.Follows latest) (name : String) : (s.useLogger name).Follows latest :=
  ⟨h.log, h.silenced, h.opened⟩

/-- A record that matters is shown and filed. -/
theorem Follows.deliver_of_admits (h : s.Follows latest) (hr : r.IsOrdinary)
    (hadmits : latest.Admits r) :
    s.deliver r = (latest.consoleEntry s.clock r, (s.useLogger r.logger).filed latest r) := by
  have hfollows := h.useLogger r.logger
  rw [deliver_eq_handleAll (by simp [LogCall.settings])
    ((settingsFor_of_isOrdinary hr _).trans hfollows.log) ((hfollows.admits_iff hr).mpr hadmits)]
  exact handleAll_settings hadmits

/-- A record that matters and fits is shown and written. -/
theorem Follows.deliver_of_fitsIn (h : s.Follows latest) (hr : r.IsOrdinary)
    (hfits : r.FitsIn latest s.clock) (hadmits : latest.Admits r) :
    s.deliver r = (r.consoleLine, (s.useLogger r.logger).written latest r) := by
  have hfiled : (s.useLogger r.logger).filed latest r = (s.useLogger r.logger).written latest r :=
    filed_of_fitsIn hfits
  rw [h.deliver_of_admits hr hadmits, hfits.consoleEntry_eq, hfiled]

/-- A record that does not matter is only remembered as too low. -/
theorem Follows.deliver_of_not_admits (h : s.Follows latest) (hr : r.IsOrdinary)
    (hadmits : ¬ latest.Admits r) : s.deliver r = ("", (s.useLogger r.logger).silence r) := by
  have hlow : (s.useLogger r.logger).admits r = false := by
    rw [Bool.eq_false_iff]
    exact fun hadmitted => hadmits (((h.useLogger r.logger).admits_iff hr).mp hadmitted)
  unfold deliver
  simp only [hlow, Bool.false_eq_true, if_false]

/-- Writing a record adds its line to the file of the call, and leaves all other files. -/
theorem contents?_written (latest : LogCall) (r : LogRecord) (s : Session) (place : List String) :
    (s.written latest r).files.contents? place =
      if latest.place? s.workingDirectory = some place then
        (s.files.contents? place).map (· ++ Text.encodeUtf8 (r.fileLine s.clock))
      else s.files.contents? place := by
  unfold written
  cases hplace : latest.place? s.workingDirectory with
  | none => simp
  | some named =>
    simp only [FileTree.contents?_append, Option.some.injEq, eq_comm]
    split
    next heq => rw [heq]
    next => rfl

/-- A record that is written leaves the log following its call. -/
theorem Follows.written (h : s.Follows latest) (r : LogRecord) : (s.written latest r).Follows latest where
  log := h.log
  silenced := h.silenced
  opened place hplace := by
    have hnamed : latest.place? s.workingDirectory = some place := hplace
    obtain ⟨bytes, hbytes⟩ := h.opened place hnamed
    rw [contents?_written, if_pos hnamed, hbytes]
    exact ⟨_, rfl⟩

/-- A record that is filed leaves the log following its call. -/
theorem Follows.filed (h : s.Follows latest) (r : LogRecord) : (s.filed latest r).Follows latest := by
  unfold Session.filed
  split
  · exact h.written r
  · exact h

/-- A record that does not matter leaves the log following its call. -/
theorem Follows.silence (h : s.Follows latest) (hadmits : ¬latest.Admits r) :
    (s.silence r).Follows latest where
  log := h.log
  silenced pair hpair := by
    rcases List.mem_cons.mp hpair with rfl | hpair
    · exact Int.not_le.mp hadmits
    · exact h.silenced pair hpair
  opened := h.opened

/-- Whether its line can be encoded or not, a record is on the console if it matters to the call, and the
log goes on following it. -/
theorem Follows.deliver_console (h : s.Follows latest) (hr : r.IsOrdinary) :
    (s.deliver r).1 = (if latest.Admits r then latest.consoleEntry s.clock r else "") ∧
      (s.deliver r).2.Follows latest := by
  have hfollows := h.useLogger r.logger
  by_cases hadmits : latest.Admits r
  · rw [h.deliver_of_admits hr hadmits, if_pos hadmits]
    exact ⟨rfl, hfollows.filed r⟩
  · rw [h.deliver_of_not_admits hr hadmits, if_neg hadmits]
    exact ⟨rfl, hfollows.silence hadmits⟩

/-- What a record makes of a session whose log follows a call. -/
structure Delivered (latest : LogCall) (r : LogRecord) (s : Session) (text : String) (t : Session) :
    Prop where
  text_eq : text = if latest.Admits r then r.consoleLine else ""
  follows : t.Follows latest
  contents : ∀ place, t.files.contents? place =
    if latest.Admits r ∧ latest.place? s.workingDirectory = some place then
      (s.files.contents? place).map (· ++ Text.encodeUtf8 (r.fileLine s.clock))
    else s.files.contents? place

/-- A record that fits is delivered as the call asks for it. -/
theorem Follows.deliver (h : s.Follows latest) (hr : r.IsOrdinary) (hfits : r.FitsIn latest s.clock) :
    Delivered latest r s (s.deliver r).1 (s.deliver r).2 := by
  obtain ⟨htext, hfollows⟩ := h.deliver_console hr
  rw [hfits.consoleEntry_eq] at htext
  refine ⟨htext, hfollows, fun place => ?_⟩
  by_cases hadmits : latest.Admits r
  · rw [h.deliver_of_fitsIn hr hfits hadmits]
    have hcontents := contents?_written latest r (s.useLogger r.logger) place
    simp only [hadmits, true_and]
    exact hcontents
  · rw [h.deliver_of_not_admits hr hadmits]
    simp only [hadmits, false_and, if_false]
    rfl

end Session

end DocletPreflight
