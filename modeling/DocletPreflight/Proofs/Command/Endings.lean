import DocletPreflight.Proofs.Command.GivenPaths
import DocletPreflight.Proofs.Command.Observation
import DocletPreflight.Proofs.Configuration.Faults
import DocletPreflight.Proofs.Files.Opening
import DocletPreflight.Proofs.Listing.LongNumbers
import DocletPreflight.Proofs.Options.Grouping

/-!
# How runs end

A run has three endings of its own: it is done with status 0, a stage has words for what is wrong and the
status is 1, or the arguments are wrong and the status is 2 (`Exits`). Some things that can go wrong have no
words, and then the run ends in a fault. There are three stages where this happens: the log is opened, the
options are checked, where the encoding is looked up and taglet classes are loaded, and the command reads
its listing (`RunEscapes`). For each fault it is known just when a run ends in it (`run_ends_by_cause`). A
listing that the operating system refuses is no such cause. A log file that it refuses is one, whatever else
is in order (`unopenableLog_no_exit`).

Writing is not among the stages: the output and the console are streams that accept every text, also one with
halves of surrogate pairs in it.
-/

set_option autoImplicit false

namespace DocletPreflight

variable {env : Environment} {arguments : List String} {s left : Session} {request : Request}
  {fault : RunFault}

/-! ## Causes -/

/-- What keeps the log of a request from being configured: the option for a log file has no path, or the
file at its path cannot be opened. -/
inductive Request.LogFails (request : Request) (s : Session) : RunFault → Prop where
  | pathless (hlog : request.logFile = some .dropped) : LogFails request s .pathlessLog
  | file {p : NormalPath} {e : FileError} (hlog : request.logFile = some (.path p))
      (hpath : s.files.Unopenable s.workingDirectory p e) : LogFails request s (.logFile e)

/-- Options that amount to a configuration: nothing is fatal, and nothing comes out of the check. -/
structure Build.Settles (env : Environment) (m : OptionMatrix) : Prop where
  notFatal : ¬Fatal Encoding.lookup m
  notRaising : ∀ fault, ¬Raises env m fault

/-- What keeps the command of a request from being performed: the option for the listing has no path, or a
fault keeps the listing from being read. The listing is what it was before the run, unless it is the log
file, and then it is what the run has made of it. -/
inductive Request.CommandFails (request : Request) (s left : Session) : RunFault → Prop where
  | pathless (hcommand : request.command = .filter .dropped) : CommandFails request s left .pathlessListing
  | listing {p : NormalPath} {f : ReadFault} (hcommand : request.command = .filter (.path p))
      (hother : ¬request.ReadsLog s) (hlisting : Listing.Breaks s.files s.workingDirectory p f) :
      CommandFails request s left (.listing f)
  | ownLog {p : NormalPath} {f : ReadFault} (hcommand : request.command = .filter (.path p))
      (hreads : request.ReadsLog s) (hlisting : Listing.Breaks left.files s.workingDirectory p f) :
      CommandFails request s left (.listing f)

/-- The fault that a run ends in, by the first stage that fails. `left` is the session that the run
leaves. -/
inductive RunEscapes (env : Environment) (arguments : List String) (s left : Session) : RunFault → Prop where
  | log {request : Request} {fault : RunFault}
      (hparse : Request.parse (splitDocletArguments arguments).1 = .ok request)
      (hlog : request.LogFails s fault) : RunEscapes env arguments s left fault
  | build {request : Request} {m : OptionMatrix} {fault : BuildFault}
      (hparse : Request.parse (splitDocletArguments arguments).1 = .ok request)
      (hopens : ∀ other, ¬request.LogFails s other)
      (hgroup : OptionMatrix.group (splitDocletArguments arguments).2 = .ok m)
      (hraises : Build.Raises env m fault) : RunEscapes env arguments s left (.build fault)
  | command {request : Request} {m : OptionMatrix} {fault : RunFault}
      (hparse : Request.parse (splitDocletArguments arguments).1 = .ok request)
      (hopens : ∀ other, ¬request.LogFails s other)
      (hgroup : OptionMatrix.group (splitDocletArguments arguments).2 = .ok m)
      (hsettles : Build.Settles env m) (hfails : request.CommandFails s left fault) :
      RunEscapes env arguments s left fault

/-- The endings that a run has of its own. -/
inductive Exits (arguments : List String) : Ending → Prop where
  | done : Exits arguments (.exit 0)
  | failed : Exits arguments (.exit 1)
  | misused {page : Page} {e : ArgumentError}
      (hparse : Request.parse (splitDocletArguments arguments).1 = .error (.wrong page e)) :
      Exits arguments (.exit 2)

/-! ## Stages -/

namespace Request

/-- Where there is a cause for a log to fail, configuring it fails by that fault. -/
theorem LogFails.configureLog_eq (h : request.LogFails s fault) :
    (request.configureLog s).1 = .error fault := by
  cases h with
  | pathless hlog => simp [configureLog, Session.configureLog, hlog, GivenPath.path?]
  | file hlog hpath =>
    have hopen := FileTree.openForAppend_eq_error_iff.mpr hpath
    simp [configureLog, Session.configureLog, hlog, GivenPath.path?, hopen]

/-- A log is configured, or there is a cause by which it fails. -/
theorem logFails_or_opens (request : Request) (s : Session) :
    (∃ fault, request.LogFails s fault) ∨ (request.configureLog s).1 = .ok () := by
  cases hlog : request.logFile with
  | none => exact .inr (by simp [configureLog, Session.configureLog, hlog])
  | some given =>
    cases given with
    | dropped => exact .inl ⟨_, .pathless hlog⟩
    | path p =>
      cases hopen : s.files.openForAppend s.workingDirectory p with
      | ok opened =>
        exact .inr (by simp [configureLog, Session.configureLog, hlog, GivenPath.path?, hopen])
      | error e => exact .inl ⟨_, .file hlog (FileTree.openForAppend_eq_error_iff.mp hopen)⟩

/-- A log is configured just when there is no cause by which it fails. -/
theorem configureLog_eq_ok_iff :
    (request.configureLog s).1 = .ok () ↔ ∀ fault, ¬request.LogFails s fault := by
  constructor
  · intro h fault hfails
    rw [hfails.configureLog_eq] at h
    cases h
  · intro hnone
    exact (request.logFails_or_opens s).resolve_left (not_exists.mpr hnone)

end Request

namespace Build

/-- Options have a fatal problem, or something comes out of their check, or they amount to a configuration. -/
theorem fatal_or_raises_or_settles (env : Environment) (m : OptionMatrix) :
    Fatal Encoding.lookup m ∨ (∃ fault, Raises env m fault) ∨ Settles env m := by
  by_cases hfatal : Fatal Encoding.lookup m
  · exact .inl hfatal
  · by_cases hraises : ∃ fault, Raises env m fault
    · exact .inr (.inl hraises)
    · exact .inr (.inr ⟨hfatal, not_exists.mp hraises⟩)

/-- Options that amount to a configuration are built into one. -/
theorem Settles.exists_configuration {m : OptionMatrix} (h : Settles env m) :
    ∃ c, (build env Encoding.lookup m).configuration = .ok (some c) := by
  have hnone : ∀ fault, ¬Escapes m fault := fun fault hescapes => h.notRaising _ (.encoding hescapes)
  obtain ⟨_, -, -, hmakes⟩ := build_of_not_escapes env h.notFatal hnone
  obtain ⟨c, hbuild⟩ := hmakes fun e hescapes => h.notRaising _ (.taglets h.notFatal hnone hescapes)
  exact ⟨c, by rw [hbuild]⟩

end Build

namespace Request

/-- A command that does not read the log file reads the same when the log is open. -/
theorem read_opened_iff (hlog : (request.configureLog s).1 = .ok ()) (hother : ¬request.ReadsLog s)
    {p : NormalPath} (hcommand : request.command = .filter (.path p)) (bytes : List UInt8) :
    (request.opened s).files.read s.workingDirectory p = .ok bytes ↔
      s.files.read s.workingDirectory p = .ok bytes := by
  obtain ⟨hconfigured, hopened⟩ := configureLog_of_request hlog
  cases hpath : request.logFile.bind GivenPath.path? with
  | none =>
    rw [hopened, hpath]
    rfl
  | some q =>
    cases hopen : s.files.openForAppend s.workingDirectory q with
    | error e =>
      simp only [hpath, Session.configureLog, hopen] at hconfigured
      cases hconfigured
    | ok opened =>
      obtain ⟨place, tree⟩ := opened
      obtain ⟨hplace, -⟩ := FileTree.openForAppend_eq hopen
      have hfiles : (request.opened s).files = tree := by
        rw [hopened, hpath]
        simp only [Session.configureLog, hopen]
      have hnamed : request.call.place? s.workingDirectory = some place := by
        rw [call, LogCall.place?, hpath, hplace]
        rfl
      rw [hfiles]
      refine ⟨fun hread => ?_, FileTree.read_openForAppend hopen⟩
      refine FileTree.read_of_openForAppend hopen hread fun held hlocate => ?_
      exact hother ⟨p, place, held, hcommand, hnamed, by rwa [hfiles]⟩

/-- Neither the opening of the log nor the check touches what a command reads that is not the log file. -/
theorem breaks_checked_iff (hlog : (request.configureLog s).1 = .ok ()) (env : Environment)
    (lookup : Encoding.Lookup) (m : OptionMatrix) (hother : ¬request.ReadsLog s) {p : NormalPath}
    (hcommand : request.command = .filter (.path p)) {f : ReadFault} :
    Listing.Breaks (request.checked env lookup m s).2.files s.workingDirectory p f ↔
      Listing.Breaks s.files s.workingDirectory p f := by
  have hread := read_opened_iff hlog hother hcommand
  simp only [← request.read_checked hlog env lookup m hother hcommand] at hread
  exact ⟨fun h => h.of_read fun bytes => (hread bytes).mp,
    fun h => h.of_read fun bytes => (hread bytes).mpr⟩

section Conclusion

variable {lookup : Encoding.Lookup} {m : OptionMatrix} {c : Configuration}
  (hlog : (request.configureLog s).1 = .ok ())
  (hbuild : (build env lookup m).configuration = .ok (some c)) (console : String)

include hlog hbuild

/-- A command that fails by a cause ends the run by the fault of that cause. -/
theorem CommandFails.ending_eq (h : request.CommandFails s (request.checked env lookup m s).2 fault) :
    (conclude request.command (build env lookup m) console (request.checked env lookup m s).2).ending =
      .crash fault := by
  have hbroken : ∀ {p : NormalPath} {f : ReadFault}, request.command = .filter (.path p) →
      Listing.Breaks (request.checked env lookup m s).2.files s.workingDirectory p f →
      (conclude request.command (build env lookup m) console (request.checked env lookup m s).2).ending =
        .crash (.listing f) := by
    intro p f hcommand hlisting
    rw [hcommand, ending_of_conclude hbuild, request.workingDirectory_checked hlog,
      Listing.read_eq_fault_iff.mpr hlisting]
    rfl
  cases h with
  | pathless hcommand => simp only [hcommand, conclude, hbuild, Command.perform]
  | listing hcommand hother hlisting =>
    exact hbroken hcommand ((breaks_checked_iff hlog env lookup m hother hcommand).mpr hlisting)
  | ownLog hcommand hreads hlisting => exact hbroken hcommand hlisting

/-- A command that has a configuration fails by a cause, or it ends with status 0 or 1. -/
theorem commandFails_or_exits :
    (∃ fault, request.CommandFails s (request.checked env lookup m s).2 fault) ∨
      (conclude request.command (build env lookup m) console (request.checked env lookup m s).2).ending =
        .exit 0 ∨
      (conclude request.command (build env lookup m) console (request.checked env lookup m s).2).ending =
        .exit 1 := by
  cases hcommand : request.command with
  | check => exact .inr (.inl (by simp only [conclude, hbuild, Command.perform]))
  | filter given =>
    cases given with
    | dropped => exact .inl ⟨_, .pathless hcommand⟩
    | path p =>
      rw [ending_of_conclude hbuild, request.workingDirectory_checked hlog]
      cases hread : Listing.read (request.checked env lookup m s).2.files s.workingDirectory p with
      | ok l => exact .inr (.inl rfl)
      | error e =>
        cases e with
        | rejected e => exact .inr (.inr rfl)
        | fault f =>
          have hlisting := Listing.read_eq_fault_iff.mp hread
          by_cases hreads : request.ReadsLog s
          · exact .inl ⟨_, .ownLog hcommand hreads hlisting⟩
          · have hbefore := (breaks_checked_iff hlog env lookup m hreads hcommand).mp hlisting
            exact .inl ⟨_, .listing hcommand hreads hbefore⟩

end Conclusion

end Request

/-! ## Runs -/

/-- A cause by which an exception escapes the run ends the run by its fault. -/
theorem ending_of_escapes
    (h : RunEscapes env arguments s (run env Encoding.lookup arguments s).2 fault) :
    (run env Encoding.lookup arguments s).1.ending = .crash fault := by
  cases h with
  | log hparse hlog =>
    rw [run_of_log_error env Encoding.lookup hparse hlog.configureLog_eq]
  | build hparse hopens hgroup hraises =>
    rw [run_of_group hparse (Request.configureLog_eq_ok_iff.mpr hopens) env Encoding.lookup hgroup,
      conclude, hraises.configuration_eq]
  | command hparse hopens hgroup hsettles hfails =>
    have hlog := Request.configureLog_eq_ok_iff.mpr hopens
    obtain ⟨c, hbuild⟩ := hsettles.exists_configuration
    rw [run_of_group hparse hlog env Encoding.lookup hgroup] at hfails ⊢
    exact hfails.ending_eq hlog hbuild _

/-- A run ends in a fault for which there is a cause, or it exits. -/
theorem escapes_or_exits (env : Environment) (arguments : List String) (s : Session) :
    (∃ fault, RunEscapes env arguments s (run env Encoding.lookup arguments s).2 fault) ∨
      Exits arguments (run env Encoding.lookup arguments s).1.ending := by
  -- the stages in order: each has an ending of its own, or a cause of a fault, or leads on
  cases hparse : Request.parse (splitDocletArguments arguments).1 with
  | error refusal =>
    cases refusal with
    | help page =>
      have hending : (run env Encoding.lookup arguments s).1.ending = .exit 0 := by
        simp only [run, hparse]
      exact .inr (hending ▸ .done)
    | wrong page e =>
      have hending : (run env Encoding.lookup arguments s).1.ending = .exit 2 := by
        simp only [run, hparse]
      exact .inr (hending ▸ .misused hparse)
  | ok request =>
    rcases request.logFails_or_opens s with ⟨fault, hfails⟩ | hlog
    · exact .inl ⟨fault, .log hparse hfails⟩
    have hopens := Request.configureLog_eq_ok_iff.mp hlog
    cases hgroup : OptionMatrix.group (splitDocletArguments arguments).2 with
    | error e =>
      rw [run_of_group_error hparse hlog env Encoding.lookup hgroup]
      exact .inr .failed
    | ok m =>
      have hrun := run_of_group hparse hlog env Encoding.lookup hgroup
      rcases Build.fatal_or_raises_or_settles env m with hfatal | ⟨fault, hraises⟩ | hsettles
      · obtain ⟨notices, ds, -, -, hbuild⟩ := build_of_fatal hfatal
        rw [hrun, conclude, hbuild]
        exact .inr .failed
      · exact .inl ⟨_, .build hparse hopens hgroup hraises⟩
      · obtain ⟨c, hbuild⟩ := hsettles.exists_configuration
        rcases Request.commandFails_or_exits hlog hbuild (request.checked env Encoding.lookup m s).1 with
          ⟨fault, hfails⟩ | hdone | hfailed
        · exact .inl ⟨fault, .command hparse hopens hgroup hsettles (by rwa [hrun])⟩
        · rw [hrun, hdone]
          exact .inr .done
        · rw [hrun, hfailed]
          exact .inr .failed

/-! ## Plain arguments and files -/

/-- Bytes of a text in UTF-8 that is YAML of plain data. Where such a text has no value, it breaks a rule of
the format or is too deep. -/
def Listing.IsPlain (bytes : List UInt8) : Prop :=
  ∃ text : List Char, bytes = text.flatMap String.utf8EncodeChar ∧
    ∀ e, Yaml.load (Text.unifyLineEnds text) depth = .error e → e = .malformed ∨ e = .tooDeep

/-- What a run is given is plain: there is no null character in an argument, nor in the name of a directory
above the run, and the listing is plain if it can be read. -/
structure GivenPlainly (arguments : List String) (s : Session) : Prop where
  inArguments : ∀ argument ∈ arguments, '\x00' ∉ argument.toList
  inDirectory : ∀ name ∈ s.workingDirectory, '\x00' ∉ name.toList
  listing : ∀ request p bytes, Request.parse (splitDocletArguments arguments).1 = .ok request →
    request.command = .filter (.path p) → s.files.read s.workingDirectory p = .ok bytes →
    Listing.IsPlain bytes

/-- The faults that remain possible where all is plain. -/
inductive RunFault.Remains : RunFault → Prop where
  | pathlessLog : Remains .pathlessLog
  | refusedLog (reason : FileRefusal) (path : String) : Remains (.logFile (.refused reason path))
  | halfLog (u : Text.Unencodable) : Remains (.logFile (.unusable (.unencodable u)))
  | halfEncoding (u : Text.Unencodable) : Remains (.build (.encoding (.unencodable u)))
  | foreign (e : ForeignError) : Remains (.build (.taglets e))
  | pathlessListing : Remains .pathlessListing
  | halfListing (u : Text.Unencodable) : Remains (.listing (.path (.unencodable u)))
  | tooDeep : Remains (.listing (.scalar .tooDeep))
  | numberTooLong : Remains (.listing .numberTooLong)

variable {p : NormalPath} {f : ReadFault}

/-- A path that is asked for has no null character in its names. -/
theorem GivenPlainly.nulFree (hplain : GivenPlainly arguments s)
    (hparse : Request.parse (splitDocletArguments arguments).1 = .ok request)
    (hasked : request.logFile = some (.path p) ∨ request.command = .filter (.path p)) : p.NulFree := by
  obtain ⟨htool, -⟩ := splitDocletArguments_subset arguments
  exact (Request.isFrom_of_parse hparse _ hasked).nulFree
    fun argument hargument => hplain.inArguments argument (htool hargument)

/-- Where all is given plainly, a log fails only by the faults that remain possible. -/
theorem remains_of_logFails (hplain : GivenPlainly arguments s)
    (hparse : Request.parse (splitDocletArguments arguments).1 = .ok request)
    (h : request.LogFails s fault) : fault.Remains := by
  cases h with
  | pathless => exact .pathlessLog
  | file hlog hpath =>
    have hfree := (hplain.nulFree hparse (.inl hlog)).absolute hplain.inDirectory
    cases hpath with
    | @path pathFault hfault =>
      cases pathFault with
      | unencodable u => exact .halfLog u
      | embeddedNul => exact absurd hfault hfree.fault?_ne_embeddedNul
    | refused => exact .refusedLog _ _

/-- Where all is given plainly, an encoding fails only by the faults that remain possible. -/
theorem remains_of_encoding (hplain : GivenPlainly arguments s) {m : OptionMatrix}
    {fault : Encoding.Fault} (hgroup : OptionMatrix.group (splitDocletArguments arguments).2 = .ok m)
    (h : Build.Escapes m fault) : (RunFault.build (.encoding fault)).Remains := by
  obtain ⟨-, hdoclet⟩ := splitDocletArguments_subset arguments
  obtain ⟨-, hflatten⟩ := OptionMatrix.isGrouping_of_group hgroup
  obtain ⟨name, hname, hconfounds⟩ := h.encoding
  have hmem := hdoclet (hflatten ▸ OptionMatrix.mem_flatten_of_first? hname)
  cases hconfounds with
  | half => exact .halfEncoding _
  | nul hwhole hnul => exact absurd hnul (hplain.inArguments name hmem)

/-- A plain listing is a fault for its path, its depth or a number in it. -/
theorem Listing.Breaks.remains {tree : FileTree} {workingDirectory : List String}
    (hfree : p.NulFree) (hplain : ∀ bytes, tree.read workingDirectory p = .ok bytes → IsPlain bytes)
    (h : Breaks tree workingDirectory p f) : (RunFault.listing f).Remains := by
  cases h with
  | numberTooLong => exact .numberTooLong
  | escape hescapes hshort =>
    cases hescapes with
    | @path pathFault hpath =>
      cases pathFault with
      | unencodable u => exact .halfListing u
      | embeddedNul => exact absurd hpath hfree.fault?_ne_embeddedNul
    | notUtf8 hfile hbytes hfault =>
      obtain ⟨text, hencode, -⟩ := hplain _ hfile
      rw [Text.decodeUtf8_eq_ok_iff.mpr hencode.symm] at hfault
      cases hfault
    | @scalar text e hfile hload hform =>
      obtain ⟨same, hencode, hplainly⟩ := hplain _ hfile
      have hdecode := Text.decodeUtf8_eq_ok_iff.mpr hencode.symm
      rw [Text.decodeUtf8_eq_ok_iff.mpr rfl] at hdecode
      cases hdecode
      obtain rfl := (hplainly e hload).resolve_left hform
      exact .tooDeep
    | numberTooLong => exact .numberTooLong

/-- Where all is plain, a run ends in a fault that remains possible, or its command reads the log file. -/
theorem remains_of_escapes (hplain : GivenPlainly arguments s)
    (h : RunEscapes env arguments s (run env Encoding.lookup arguments s).2 fault) :
    fault.Remains ∨ ∃ request f, Request.parse (splitDocletArguments arguments).1 = .ok request ∧
      request.ReadsLog s ∧ fault = .listing f := by
  cases h with
  | log hparse hlog => exact .inl (remains_of_logFails hplain hparse hlog)
  | build hparse hopens hgroup hraises =>
    cases hraises with
    | encoding hescapes => exact .inl (remains_of_encoding hplain hgroup hescapes)
    | taglets => exact .inl (.foreign _)
  | @command request m fault hparse hopens hgroup hsettles hfails =>
    cases hfails with
    | pathless => exact .inl .pathlessListing
    | @listing p f hcommand hother hlisting =>
      exact .inl (hlisting.remains (hplain.nulFree hparse (.inr hcommand)) fun bytes =>
        hplain.listing request p bytes hparse hcommand)
    | ownLog hcommand hreads hlisting => exact .inr ⟨request, _, hparse, hreads, rfl⟩

/-! ## All endings -/

/-- A run that ends by a fault has a cause for it. -/
theorem escapes_of_ending (h : (run env Encoding.lookup arguments s).1.ending = .crash fault) :
    RunEscapes env arguments s (run env Encoding.lookup arguments s).2 fault := by
  rcases escapes_or_exits env arguments s with ⟨other, hescapes⟩ | hexits
  · have hother := ending_of_escapes hescapes
    rw [h] at hother
    cases hother
    exact hescapes
  · rw [h] at hexits
    cases hexits

/-- A listing that the operating system refuses is no fault, unless it is the log file. -/
theorem not_escapes_of_refused (hparse : Request.parse (splitDocletArguments arguments).1 = .ok request)
    (hcommand : request.command = .filter (.path p)) (hother : ¬request.ReadsLog s)
    {reason : FileRefusal} {path : String}
    (hrefused : s.files.read s.workingDirectory p = .error (.refused reason path)) :
    ¬RunEscapes env arguments s left (.listing f) := by
  intro h
  cases h with
  | log hparse' hlog => cases hlog
  | command hparse' hopens hgroup hsettles hfails =>
    rw [hparse] at hparse'
    cases hparse'
    cases hfails with
    | listing hcommand' _ hlisting =>
      rw [hcommand] at hcommand'
      cases hcommand'
      exact Listing.not_breaks_of_refused hrefused hlisting
    | ownLog _ hreads _ => exact hother hreads

/-- Taglet classes that are in order are no fault. -/
theorem not_escapes_of_orderly (horderly : env.Orderly) {e : ForeignError} :
    ¬RunEscapes env arguments s left (.build (.taglets e)) := by
  intro h
  cases h with
  | log hparse hlog => cases hlog
  | build hparse hopens hgroup hraises =>
    cases hraises with
    | taglets _ _ hescapes => exact Build.not_tagletsEscape_of_orderly horderly _ e hescapes
  | command hparse hopens hgroup hsettles hfails => cases hfails

/-- How a run ends: in a fault just for its cause, and with a status just if there is none. The operating
system may refuse the listing without a fault, and taglet classes that are in order are none. And where all
is plain, a run ends in one of the faults that remain possible, or its command reads the log file. -/
structure EndsByCause (env : Environment) (arguments : List String) (s : Session) : Prop where
  fault : ∀ fault, (run env Encoding.lookup arguments s).1.ending = .crash fault ↔
    RunEscapes env arguments s (run env Encoding.lookup arguments s).2 fault
  status : Exits arguments (run env Encoding.lookup arguments s).1.ending ↔
    ∀ fault, ¬RunEscapes env arguments s (run env Encoding.lookup arguments s).2 fault
  refusedListing : ∀ request p reason path f,
    Request.parse (splitDocletArguments arguments).1 = .ok request →
    request.command = .filter (.path p) → ¬request.ReadsLog s →
    s.files.read s.workingDirectory p = .error (.refused reason path) →
    (run env Encoding.lookup arguments s).1.ending ≠ .crash (.listing f)
  orderly : env.Orderly → ∀ e, (run env Encoding.lookup arguments s).1.ending ≠ .crash (.build (.taglets e))
  plain : GivenPlainly arguments s → ∀ fault,
    (run env Encoding.lookup arguments s).1.ending = .crash fault →
    fault.Remains ∨ ∃ request f, Request.parse (splitDocletArguments arguments).1 = .ok request ∧
      request.ReadsLog s ∧ fault = .listing f

/-- Every run ends by its cause. -/
theorem run_ends_by_cause (env : Environment) (arguments : List String) (s : Session) :
    EndsByCause env arguments s where
  fault fault := ⟨escapes_of_ending, ending_of_escapes⟩
  status := by
    constructor
    · intro hexits fault hescapes
      rw [ending_of_escapes hescapes] at hexits
      cases hexits
    · intro hnone
      exact (escapes_or_exits env arguments s).resolve_left fun ⟨fault, hescapes⟩ => hnone fault hescapes
  refusedListing request p reason path f hparse hcommand hother hrefused hending :=
    not_escapes_of_refused hparse hcommand hother hrefused (escapes_of_ending hending)
  orderly horderly e hending := not_escapes_of_orderly horderly (escapes_of_ending hending)
  plain hplain fault hending := remains_of_escapes hplain (escapes_of_ending hending)

/-- The arguments that ask for a check with a log file. -/
def loggedCheckArguments (name : String) : List String := ["--log-file", name, "check", "--", "-d", "out"]

/-- A directory with nothing but a directory in it. -/
def oneDirectorySession : Session := .start [] "" (FileTree.empty.put ["logs"] .directory)

/-- A check with a log file is read as the request for it. -/
theorem parse_loggedCheckArguments {name : String} (hname : name.toList.head? ≠ some '-') :
    Request.parse (splitDocletArguments (loggedCheckArguments name)).1 =
      .ok ⟨false, some (.path (.parse name)), .check⟩ := by
  have hmark : name ≠ docletMark := by
    rintro rfl
    exact hname rfl
  have hcheck : Request.parse (splitDocletArguments ["check", "--", "-d", "out"]).1 =
      .ok ⟨false, none, .check⟩ := by decide +kernel
  rw [loggedCheckArguments, splitDocletArguments_cons (by decide), splitDocletArguments_cons hmark]
  exact Request.parse_logFile_cons hname hcheck rfl

/-- A check with a log file is given plainly if the name of the file has no NUL in it. -/
theorem givenPlainly_loggedCheck {name : String} (hname : name.toList.head? ≠ some '-')
    (hnul : '\x00' ∉ name.toList) : GivenPlainly (loggedCheckArguments name) oneDirectorySession where
  inArguments := by
    have hothers : ∀ argument ∈ ["--log-file", "check", "--", "-d", "out"], '\x00' ∉ argument.toList := by
      decide
    intro argument hargument
    simp only [loggedCheckArguments, List.mem_cons, List.not_mem_nil, or_false] at hargument
    rcases hargument with rfl | rfl | hothers'
    · exact hothers _ (by simp)
    · exact hnul
    · exact hothers argument (by simp [hothers'])
  inDirectory := by simp [oneDirectorySession, Session.start]
  listing request p bytes hparse hcommand := by
    rw [parse_loggedCheckArguments hname] at hparse
    cases hparse
    cases hcommand

/-- With a log file in a directory that is missing, a check ends in the refusal, which remains possible. -/
theorem missingDirectory_escapes :
    (run .bare Encoding.lookup (loggedCheckArguments "missing/x.log") oneDirectorySession).1.ending =
        .crash (.logFile (.refused .notFound "/missing/x.log")) ∧
      (RunFault.logFile (.refused .notFound "/missing/x.log")).Remains := by
  have hparse := parse_loggedCheckArguments (by decide : "missing/x.log".toList.head? ≠ some '-')
  have hplain : GivenPlainly (loggedCheckArguments "missing/x.log") oneDirectorySession :=
    givenPlainly_loggedCheck (by decide) (by decide)
  have hway : oneDirectorySession.files.ComesTo
      ((NormalPath.parse "missing/x.log").absolute oneDirectorySession.workingDirectory)
      [] "missing" ["x.log"] := ⟨by decide +kernel, by decide +kernel, .root⟩
  have hbars := FileTree.Bars.missingDirectory hway (by decide +kernel) (by decide +kernel) (by simp)
  have hends := run_ends_by_cause .bare (loggedCheckArguments "missing/x.log") oneDirectorySession
  have hending := (hends.fault _).mpr (.log hparse (.file rfl (.refused (by decide +kernel) hbars)))
  refine ⟨hending, (hends.plain hplain _ hending).resolve_right ?_⟩
  rintro ⟨request, f, -, -, hlisting⟩
  cases hlisting

/-- Not every run that is given plainly exits. None of three checks does: the log file of one is in a missing
directory, that of another is a directory, and that of the third has an empty path. -/
theorem unopenableLog_no_exit :
    (¬∀ (env : Environment) (arguments : List String) (s : Session), GivenPlainly arguments s →
      Exits arguments (run env Encoding.lookup arguments s).1.ending) ∧
    (["missing/x.log", "logs", ""].map fun name =>
      (run .bare Encoding.lookup (loggedCheckArguments name) oneDirectorySession).1.ending) =
        [.crash (.logFile (.refused .notFound "/missing/x.log")),
          .crash (.logFile (.refused .isDirectory "/logs")),
          .crash (.logFile (.refused .isDirectory "/"))] := by
  have hendings : (["missing/x.log", "logs", ""].map fun name =>
      (run .bare Encoding.lookup (loggedCheckArguments name) oneDirectorySession).1.ending) =
        [.crash (.logFile (.refused .notFound "/missing/x.log")),
          .crash (.logFile (.refused .isDirectory "/logs")),
          .crash (.logFile (.refused .isDirectory "/"))] := by decide +kernel
  refine ⟨fun h => ?_, hendings⟩
  have hexits := h .bare (loggedCheckArguments "missing/x.log") oneDirectorySession
    (givenPlainly_loggedCheck (by decide) (by decide))
  have hending : (run .bare Encoding.lookup (loggedCheckArguments "missing/x.log")
      oneDirectorySession).1.ending = _ := (List.cons.inj hendings).1
  rw [hending] at hexits
  cases hexits

end DocletPreflight
