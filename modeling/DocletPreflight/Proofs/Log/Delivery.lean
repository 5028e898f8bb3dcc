import DocletPreflight.Proofs.Log.Following

/-!
# Where records go

A log is configured by calls, and records are written between them (`LogStep`). Since the log follows the
latest call, what a run of such steps leaves on the console and in files can be told from the steps alone
(`Follows.takeSteps`, by induction on the steps), and all that came before a call makes no difference to
what comes after it (`delivery_follows_latest_call`). Records without a call among them are the steps of
one check of options (`Follows.deliverAll`, `Follows.files_deliverAll`).
-/

set_option autoImplicit false

namespace DocletPreflight

/-! ## Steps -/

/-- What happens to a log: it is configured, or a record is written. -/
inductive LogStep where
  | configure (call : LogCall)
  | emit (r : LogRecord)
  deriving DecidableEq, Repr

namespace LogStep

/-- The call of a step that is one. -/
def call? : LogStep → Option LogCall
  | configure call => some call
  | emit _ => none

/-- The calls among steps. -/
def calls (steps : List LogStep) : List LogCall := steps.filterMap call?

/-- The records of steps, each with the latest call before it. -/
def emissions : LogCall → List LogStep → List (LogCall × LogRecord)
  | _, [] => []
  | _, configure call :: steps => emissions call steps
  | latest, emit r :: steps => (latest, r) :: emissions latest steps

/-- The records that matter to the latest call before them, with this call. -/
def admitted (latest : LogCall) (steps : List LogStep) : List (LogCall × LogRecord) :=
  (emissions latest steps).filter fun e => e.1.Admits e.2

/-- The lines of the console. -/
def consoleText (latest : LogCall) (steps : List LogStep) : String :=
  String.join ((admitted latest steps).map fun e => e.2.consoleLine)

/-- The bytes of the lines of the file at a place. -/
def fileBytes (workingDirectory : List String) (clock : String) (place : List String) (latest : LogCall)
    (steps : List LogStep) : List UInt8 :=
  ((admitted latest steps).filter fun e => e.1.place? workingDirectory = some place).flatMap
    fun e => Text.encodeUtf8 (e.2.fileLine clock)

end LogStep

namespace Session

/-- Takes a step: the text that the console gains, and the session after it. -/
def takeStep (s : Session) : LogStep → Except FileError (String × Session)
  | .configure call =>
    match s.configureLog call.verbose call.logFile with
    | (.ok (), t) => .ok ("", t)
    | (.error e, _) => .error e
  | .emit r => .ok (s.deliver r)

/-- Takes steps in order, up to a call that fails. -/
def takeSteps : List LogStep → Session → Except FileError (String × Session)
  | [], s => .ok ("", s)
  | step :: steps, s =>
    match s.takeStep step with
    | .error e => .error e
    | .ok (text, t) => (takeSteps steps t).map fun (more, u) => (text ++ more, u)

variable {s t : Session} {latest call : LogCall} {r : LogRecord} {steps : List LogStep} {text : String}

/-- Steps are taken one after another, the first before the others. -/
theorem takeSteps_cons_eq_ok {step : LogStep} (h : takeSteps (step :: steps) s = .ok (text, t)) :
    ∃ first mid more, s.takeStep step = .ok (first, mid) ∧ takeSteps steps mid = .ok (more, t) ∧
      text = first ++ more := by
  rw [takeSteps] at h
  split at h
  · cases h
  next first mid hstep =>
    cases hrest : takeSteps steps mid with
    | error e =>
      rw [hrest] at h
      cases h
    | ok reached =>
      rw [hrest] at h
      cases h
      exact ⟨first, mid, reached.1, hstep, hrest, rfl⟩

/-- Steps that follow others are taken from where these end. -/
theorem takeSteps_append_eq_ok {before : List LogStep}
    (h : takeSteps (before ++ steps) s = .ok (text, t)) :
    ∃ first mid more, takeSteps before s = .ok (first, mid) ∧ takeSteps steps mid = .ok (more, t) ∧
      text = first ++ more := by
  induction before generalizing s text with
  | nil => exact ⟨"", s, text, rfl, h, String.empty_append.symm⟩
  | cons step before ih =>
    obtain ⟨first, mid, more, hstep, hmore, rfl⟩ := takeSteps_cons_eq_ok h
    obtain ⟨more₁, mid', more₂, hbefore, hrest, rfl⟩ := ih hmore
    refine ⟨first ++ more₁, mid', more₂, ?_, hrest, String.append_assoc.symm⟩
    rw [takeSteps, hstep]
    simp only [hbefore, Except.map]

/-- Records that are delivered one after another are steps that cannot fail. -/
theorem takeSteps_emit (rs : List LogRecord) (s : Session) :
    takeSteps (rs.map .emit) s = .ok (s.deliverAll rs) := by
  induction rs generalizing s with
  | nil => rfl
  | cons r rs ih =>
    rw [List.map_cons, takeSteps, takeStep]
    simp only [ih, Except.map, deliverAll]

/-! ## Whole runs -/

/-- A record adds its line to the console if it matters to the latest call. -/
theorem consoleText_emit (latest : LogCall) (r : LogRecord) (steps : List LogStep) :
    LogStep.consoleText latest (.emit r :: steps) =
      (if latest.Admits r then r.consoleLine else "") ++ LogStep.consoleText latest steps := by
  unfold LogStep.consoleText LogStep.admitted
  rw [LogStep.emissions, List.filter_cons]
  by_cases hadmits : latest.Admits r <;> simp [hadmits]

/-- A record adds its line to a file if it matters to the latest call and that call names the file. -/
theorem fileBytes_emit (workingDirectory : List String) (clock : String) (place : List String)
    (latest : LogCall) (r : LogRecord) (steps : List LogStep) :
    LogStep.fileBytes workingDirectory clock place latest (.emit r :: steps) =
      (if latest.Admits r ∧ latest.place? workingDirectory = some place then
        Text.encodeUtf8 (r.fileLine clock) else []) ++
      LogStep.fileBytes workingDirectory clock place latest steps := by
  unfold LogStep.fileBytes LogStep.admitted
  rw [LogStep.emissions, List.filter_cons]
  by_cases hadmits : latest.Admits r
  · by_cases hplace : latest.place? workingDirectory = some place <;> simp [hadmits, hplace]
  · simp [hadmits]

/-- A call shows nothing and configures the log. -/
theorem takeStep_configure_eq_ok (h : s.takeStep (.configure call) = .ok (text, t)) :
    text = "" ∧ Configured call s t := by
  unfold takeStep at h
  simp only at h
  split at h
  next hconfigured =>
    cases h
    exact ⟨rfl, configured_of_configureLog hconfigured⟩
  · cases h

/-- From a log that follows a call on, the console shows what matters to the latest call before it, and a
file holds what mattered while it was the current one, behind what it held. -/
theorem Follows.takeSteps (h : s.Follows latest)
    (hrecords : ∀ r, .emit r ∈ steps → r.IsOrdinary ∧
      ∀ call ∈ latest :: LogStep.calls steps, r.FitsIn call s.clock)
    (hsteps : takeSteps steps s = .ok (text, t)) :
    text = LogStep.consoleText latest steps ∧ ∀ place, t.files.contents? place =
      (if ∃ c ∈ LogStep.calls steps, c.place? s.workingDirectory = some place then
          some ((s.files.contents? place).getD [])
        else s.files.contents? place).map
        (· ++ LogStep.fileBytes s.workingDirectory s.clock place latest steps) := by
  -- on the steps, since at each of them the log follows the latest call so far
  induction steps generalizing s latest text with
  | nil =>
    cases hsteps
    refine ⟨rfl, fun place => ?_⟩
    simp [LogStep.calls, LogStep.fileBytes, LogStep.admitted, LogStep.emissions]
  | cons step steps ih =>
    obtain ⟨first, mid, more, hstep, hrest, rfl⟩ := takeSteps_cons_eq_ok hsteps
    cases step with
    | configure call =>
      -- the log follows the new call, and the one before it has no more say
      obtain ⟨rfl, hcall⟩ := takeStep_configure_eq_ok hstep
      have hlater : ∀ r, .emit r ∈ steps → r.IsOrdinary ∧
          ∀ c ∈ call :: LogStep.calls steps, r.FitsIn c mid.clock := by
        intro r hr
        rw [hcall.clock]
        obtain ⟨hordinary, hfits⟩ := hrecords r (List.mem_cons_of_mem _ hr)
        exact ⟨hordinary, fun c hc => hfits c (List.mem_cons_of_mem _ hc)⟩
      obtain ⟨htext, hcontents⟩ := ih hcall.follows hlater hrest
      rw [hcall.workingDirectory, hcall.clock] at hcontents
      refine ⟨by rw [htext, String.empty_append]; rfl, fun place => ?_⟩
      have hcalls : (∃ c ∈ LogStep.calls (.configure call :: steps),
          c.place? s.workingDirectory = some place) ↔
          call.place? s.workingDirectory = some place ∨
            ∃ c ∈ LogStep.calls steps, c.place? s.workingDirectory = some place := by
        simp [LogStep.calls, LogStep.call?]
      rw [hcontents, hcall.contents, if_congr hcalls rfl rfl]
      by_cases hplace : call.place? s.workingDirectory = some place <;>
        simp only [hplace, true_or, false_or, if_true, if_false, Option.getD_some, ite_self] <;> rfl
    | emit r =>
      have hdeliver : s.deliver r = (first, mid) := Except.ok.inj hstep
      obtain ⟨hordinary, hfits⟩ := hrecords r List.mem_cons_self
      have hdelivered : Delivered latest r s first mid := by
        simpa only [hdeliver] using h.deliver hordinary (hfits latest List.mem_cons_self)
      obtain ⟨hdirectory, hclock⟩ : mid.workingDirectory = s.workingDirectory ∧
          mid.clock = s.clock := by simpa only [hdeliver] using keeps_deliver r s
      obtain ⟨htext, hcontents⟩ := ih hdelivered.follows
        (fun r hr => by rw [hclock]; exact hrecords r (List.mem_cons_of_mem _ hr)) hrest
      rw [hdirectory, hclock] at hcontents
      refine ⟨by rw [htext, hdelivered.text_eq, consoleText_emit], fun place => ?_⟩
      have hcalls : LogStep.calls (.emit r :: steps) = LogStep.calls steps := rfl
      rw [hcontents, hdelivered.contents, hcalls, fileBytes_emit]
      -- where the record is filed there is a file already, so that the line is behind what it held
      by_cases hfiled : latest.Admits r ∧ latest.place? s.workingDirectory = some place
      · obtain ⟨bytes, hbytes⟩ := h.opened place hfiled.2
        rw [if_pos hfiled, if_pos hfiled, hbytes]
        simp [List.append_assoc]
      · rw [if_neg hfiled, if_neg hfiled, List.nil_append]

/-- Steps leave the working directory and the clock. -/
theorem keeps_takeSteps (h : takeSteps steps s = .ok (text, t)) :
    t.workingDirectory = s.workingDirectory ∧ t.clock = s.clock := by
  induction steps generalizing s text with
  | nil =>
    cases h
    exact ⟨rfl, rfl⟩
  | cons step steps ih =>
    obtain ⟨first, mid, more, hstep, hrest, -⟩ := takeSteps_cons_eq_ok h
    obtain ⟨hdirectory, hclock⟩ := ih hrest
    have hkeeps : mid.workingDirectory = s.workingDirectory ∧ mid.clock = s.clock := by
      cases step with
      | configure call =>
        obtain ⟨-, hcall⟩ := takeStep_configure_eq_ok hstep
        exact ⟨hcall.workingDirectory, hcall.clock⟩
      | emit r =>
        have hdeliver : s.deliver r = (first, mid) := Except.ok.inj hstep
        simpa only [hdeliver] using keeps_deliver r s
    exact ⟨hdirectory.trans hkeeps.1, hclock.trans hkeeps.2⟩

/-- Records one after another show the lines of those that matter. -/
theorem consoleText_map_emit (latest : LogCall) (rs : List LogRecord) :
    LogStep.consoleText latest (rs.map .emit) =
      String.join ((latest.shown rs).map LogRecord.consoleLine) := by
  induction rs with
  | nil => rfl
  | cons r rs ih =>
    rw [List.map_cons, consoleText_emit, ih, LogCall.shown_cons]
    by_cases hadmits : latest.Admits r <;> simp [hadmits]

/-- The records that matter to a call are in its file in order. -/
theorem fileBytes_map_emit {workingDirectory place : List String} (clock : String)
    (hplace : latest.place? workingDirectory = some place) (rs : List LogRecord) :
    LogStep.fileBytes workingDirectory clock place latest (rs.map .emit) =
      (latest.shown rs).flatMap fun r => Text.encodeUtf8 (r.fileLine clock) := by
  induction rs with
  | nil => rfl
  | cons r rs ih =>
    rw [List.map_cons, fileBytes_emit, ih, LogCall.shown_cons]
    by_cases hadmits : latest.Admits r <;> simp [hadmits, hplace]

/-- While the log follows a call, the console shows the records that matter to it, and its file gains
them. -/
theorem Follows.deliverAll (h : s.Follows latest) {rs : List LogRecord}
    (hrecords : ∀ r ∈ rs, r.IsOrdinary ∧ r.FitsIn latest s.clock) :
    (s.deliverAll rs).1 = String.join ((latest.shown rs).map LogRecord.consoleLine) ∧
      ∀ place, latest.place? s.workingDirectory = some place →
        (s.deliverAll rs).2.files.contents? place = (s.files.contents? place).map
          (· ++ (latest.shown rs).flatMap fun r => Text.encodeUtf8 (r.fileLine s.clock)) := by
  have hcalls : LogStep.calls (rs.map .emit) = [] := by
    simp [LogStep.calls, LogStep.call?]
  have hsteps : ∀ r, .emit r ∈ rs.map LogStep.emit → r.IsOrdinary ∧
      ∀ call ∈ latest :: LogStep.calls (rs.map .emit), r.FitsIn call s.clock := by
    intro r hr
    obtain ⟨r', hr', heq⟩ := List.mem_map.mp hr
    obtain rfl := LogStep.emit.inj heq
    simpa [hcalls] using hrecords r' hr'
  obtain ⟨htext, hcontents⟩ := h.takeSteps hsteps (takeSteps_emit rs s)
  refine ⟨htext.trans (consoleText_map_emit latest rs), fun place hplace => ?_⟩
  rw [hcontents, hcalls, fileBytes_map_emit s.clock hplace]
  simp

/-- Records change the log file of the call that the log follows, and no other entry of the tree. -/
theorem Follows.files_deliverAll (h : s.Follows latest) {rs : List LogRecord}
    (hrecords : ∀ r ∈ rs, r.IsOrdinary) :
    match latest.place? s.workingDirectory with
    | none => (s.deliverAll rs).2.files = s.files
    | some place => FileTree.DifferAt place s.files (s.deliverAll rs).2.files := by
  induction rs generalizing s with
  | nil =>
    split
    · rfl
    next place hplace =>
      obtain ⟨bytes, hbytes⟩ := h.opened place hplace
      exact .refl hbytes
  | cons r rs ih =>
    have hordinary := hrecords r List.mem_cons_self
    obtain ⟨hdirectory, -⟩ := keeps_deliver r s
    have hrest := ih (h.deliver_console hordinary).2 fun r hr => hrecords r (List.mem_cons_of_mem _ hr)
    rw [hdirectory] at hrest
    -- a line that cannot be encoded leaves the file as it is
    have hfiles : (s.deliver r).2.files = s.files ∨
        (s.deliver r).2.files = ((s.useLogger r.logger).written latest r).files := by
      by_cases hadmits : latest.Admits r
      · rw [h.deliver_of_admits hordinary hadmits]
        unfold Session.filed
        split
        · exact .inr rfl
        · exact .inl rfl
      · exact .inl (by rw [h.deliver_of_not_admits hordinary hadmits]; rfl)
    have hwritten : ((s.useLogger r.logger).written latest r).files =
        match latest.place? s.workingDirectory with
        | none => s.files
        | some place => s.files.append place (r.fileLine s.clock) := rfl
    rw [Session.deliverAll]
    split
    next hplace =>
      rw [hplace] at hrest hwritten
      exact hrest.trans (hfiles.elim id (·.trans hwritten))
    next place hplace =>
      obtain ⟨bytes, hbytes⟩ := h.opened place hplace
      rw [hplace] at hrest hwritten
      refine FileTree.DifferAt.trans ?_ hrest
      rcases hfiles with hfiles | hfiles
      · rw [hfiles]
        exact .refl hbytes
      · rw [hfiles, hwritten]
        exact FileTree.differAt_append hbytes _

/-- The latest call before a record is the first one or one of the steps. -/
theorem mem_of_mem_emissions {e : LogCall × LogRecord} (h : e ∈ LogStep.emissions latest steps) :
    e.1 ∈ latest :: LogStep.calls steps := by
  induction steps generalizing latest with
  | nil => cases h
  | cons step steps ih =>
    cases step with
    | configure call => exact List.mem_cons_of_mem _ (ih h)
    | emit r =>
      rcases List.mem_cons.mp h with rfl | h
      · exact List.mem_cons_self
      · exact ih h

/-- A file that no call names gets nothing. -/
theorem fileBytes_eq_nil {workingDirectory place : List String} (clock : String)
    (h : ∀ c ∈ latest :: LogStep.calls steps, c.place? workingDirectory ≠ some place) :
    LogStep.fileBytes workingDirectory clock place latest steps = [] := by
  have hnone : (LogStep.admitted latest steps).filter
      (fun e => e.1.place? workingDirectory = some place) = [] := by
    rw [List.filter_eq_nil_iff]
    intro e he
    have hcall := h e.1 (mem_of_mem_emissions (List.mem_filter.mp he).1)
    simpa using hcall
  rw [LogStep.fileBytes, hnone, List.flatMap_nil]

/-- Whatever happened before a call that configures the log, and whatever settings the log had, the call
leaves the settings that it asks for. From then on, each record is on the console once if it matters to
the latest call before it, and in the file that this call names once, and nowhere else. A file that none
of these calls names stays as it was when the first of them came, and the others hold what they held then
and behind it, in order, the lines of the records that mattered while the file was the current one. -/
theorem delivery_follows_latest_call (s t : Session) (before after : List LogStep) (call : LogCall)
    (text : String) (hregular : ∀ r, .emit r ∈ after → r.IsRegular s.clock)
    (hsteps : Session.takeSteps (before ++ .configure call :: after) s = .ok (text, t)) :
    ∃ first mid configured,
      Session.takeSteps before s = .ok (first, mid) ∧
      mid.takeStep (.configure call) = .ok ("", configured) ∧
      configured.log = call.settings s.workingDirectory ∧
      text = first ++ LogStep.consoleText call after ∧
      (∀ place, (∃ c ∈ call :: LogStep.calls after, c.place? s.workingDirectory = some place) →
        t.files.contents? place = some ((mid.files.contents? place).getD [] ++
          LogStep.fileBytes s.workingDirectory s.clock place call after)) ∧
      ∀ place, (∀ c ∈ call :: LogStep.calls after, c.place? s.workingDirectory ≠ some place) →
        t.files.contents? place = mid.files.contents? place := by
  obtain ⟨first, mid, rest, hbefore, hrest, rfl⟩ := takeSteps_append_eq_ok hsteps
  obtain ⟨none, configured, more, hconfigure, hafter, rfl⟩ := takeSteps_cons_eq_ok hrest
  obtain ⟨rfl, hcall⟩ := takeStep_configure_eq_ok hconfigure
  obtain ⟨hdirectory, hclock⟩ := keeps_takeSteps hbefore
  have hrecords : ∀ r, .emit r ∈ after → r.IsOrdinary ∧
      ∀ c ∈ call :: LogStep.calls after, r.FitsIn c configured.clock := by
    intro r hr
    rw [hcall.clock, hclock]
    exact ⟨(hregular r hr).1, fun _ _ _ => (hregular r hr).2⟩
  obtain ⟨htext, hcontents⟩ := hcall.follows.takeSteps hrecords hafter
  rw [hcall.workingDirectory, hcall.clock, hdirectory, hclock] at hcontents
  have hfound := hcall.contents
  rw [hdirectory] at hfound
  refine ⟨first, mid, configured, hbefore, hconfigure, ?_, ?_, fun place hnamed => ?_,
    fun place hunnamed => ?_⟩
  · rw [hcall.log, hdirectory]
  · rw [htext, String.empty_append]
  · rw [hcontents, hfound]
    by_cases hplace : call.place? s.workingDirectory = some place
    · rw [if_pos hplace, Option.getD_some, ite_self, Option.map_some]
    · have hlater : ∃ c ∈ LogStep.calls after, c.place? s.workingDirectory = some place := by
        obtain ⟨c, hc, hcplace⟩ := hnamed
        rcases List.mem_cons.mp hc with rfl | hc
        · exact absurd hcplace hplace
        · exact ⟨c, hc, hcplace⟩
      rw [if_neg hplace, if_pos hlater, Option.map_some]
  · have hlater : ¬ ∃ c ∈ LogStep.calls after, c.place? s.workingDirectory = some place := by
      rintro ⟨c, hc, hcplace⟩
      exact hunnamed c (by simp [hc]) hcplace
    rw [hcontents, hfound, if_neg (hunnamed call (by simp)), if_neg hlater,
      fileBytes_eq_nil s.clock hunnamed]
    simp

/-- A log that leaves its file, becomes verbose, goes without a file and comes back to the first one. -/
def wanderingSteps : List LogStep :=
  [.emit ⟨.debug, loggerName (some "config"), "hidden"⟩,
    .emit ⟨.info, loggerName (some "taglets.loader"), "one"⟩,
    .configure ⟨true, some (.parse "b.log")⟩,
    .emit ⟨.debug, loggerName (some "config"), "two"⟩,
    .configure ⟨false, none⟩,
    .emit ⟨.warning, loggerName none, "three"⟩,
    .configure ⟨false, some (.parse "./a.log")⟩,
    .emit ⟨.error, loggerName (some ""), "four"⟩]

/-- A directory with a log file that has a line already. -/
def oldLogSession : Session :=
  .start ["w"] "now" (FileTree.empty.put ["w", "a.log"] (.file (Text.encodeUtf8 "old\n")))

/-- A log that moves from file to file leaves each with the lines that were for it. -/
theorem wanderingSteps_delivered :
    ∃ text t, Session.takeSteps ([.emit ⟨.error, loggerName none, "early"⟩] ++
        .configure ⟨false, some (.parse "a.log")⟩ :: wanderingSteps) oldLogSession = .ok (text, t) ∧
      (∀ r, .emit r ∈ wanderingSteps → r.IsRegular oldLogSession.clock) ∧
      text = "early\n" ++ ("[xmldoclet] INFO one\n[xmldoclet] DEBUG two\n" ++
        "[xmldoclet] WARNING three\n[xmldoclet] ERROR four\n") ∧
      t.files.contents? ["w", "a.log"] = some (Text.encodeUtf8 "old\n" ++ Text.encodeUtf8
        "now INFO xmldoclet.taglets.loader: one\nnow ERROR xmldoclet: four\n") ∧
      t.files.contents? ["w", "b.log"] =
        some ([] ++ Text.encodeUtf8 "now DEBUG xmldoclet.config: two\n") := by
  have hregular : ∀ r, .emit r ∈ wanderingSteps → r.IsRegular oldLogSession.clock := by
    intro r hr
    have hnames : (r = ⟨.debug, loggerName (some "config"), "hidden"⟩ ∨
        r = ⟨.info, loggerName (some "taglets.loader"), "one"⟩ ∨
        r = ⟨.debug, loggerName (some "config"), "two"⟩) ∨
        r = ⟨.warning, loggerName none, "three"⟩ ∨ r = ⟨.error, loggerName (some ""), "four"⟩ := by
      simpa [wanderingSteps, or_assoc] using hr
    rcases hnames with (rfl | rfl | rfl) | rfl | rfl
    · exact ⟨⟨some "config", .inr (by decide +kernel), rfl⟩, by decide +kernel⟩
    · exact ⟨⟨some "taglets.loader", .inr (by decide +kernel), rfl⟩, by decide +kernel⟩
    · exact ⟨⟨some "config", .inr (by decide +kernel), rfl⟩, by decide +kernel⟩
    · exact ⟨⟨none, trivial, rfl⟩, by decide +kernel⟩
    · exact ⟨⟨some "", .inl rfl, rfl⟩, by decide +kernel⟩
  have hearly : Session.takeSteps [.emit ⟨.error, loggerName none, "early"⟩] oldLogSession =
      .ok ("early\n", oldLogSession.useLogger rootLogger) := by decide +kernel
  cases hreached : Session.takeSteps ([.emit ⟨.error, loggerName none, "early"⟩] ++
      .configure ⟨false, some (.parse "a.log")⟩ :: wanderingSteps) oldLogSession with
  | error e =>
    have hok : (Session.takeSteps ([.emit ⟨.error, loggerName none, "early"⟩] ++
      .configure ⟨false, some (.parse "a.log")⟩ :: wanderingSteps) oldLogSession).toBool = true := by
      decide +kernel
    rw [hreached] at hok
    cases hok
  | ok reached =>
    obtain ⟨text, t⟩ := reached
    obtain ⟨first, mid, configured, hfirst, -, -, htext, hnamed, -⟩ :=
      delivery_follows_latest_call oldLogSession t _ wanderingSteps ⟨false, some (.parse "a.log")⟩ text
        hregular hreached
    rw [hearly] at hfirst
    cases hfirst
    refine ⟨text, t, rfl, hregular, ?_, ?_, ?_⟩
    · rw [htext]
      congr 1
    · rw [hnamed ["w", "a.log"] ⟨_, List.mem_cons_self, by decide +kernel⟩]
      decide +kernel
    · rw [hnamed ["w", "b.log"] ⟨⟨true, some (.parse "b.log")⟩, by decide +kernel, by decide +kernel⟩]
      decide +kernel

end Session

end DocletPreflight
