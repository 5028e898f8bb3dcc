import DocletPreflight.Proofs.Command.Stages
import DocletPreflight.Proofs.Files.Contents

/-!
# The exit status

A run with a request and an open log that comes to an end of its own exits with status 1 or 0. It is the
first stage that fails which decides, and its message goes to the console behind what the log shows of the
check; nothing is printed then. All other runs print what their command says, whatever was reported on
the way (`exit_status_of_run`). What the log shows does not depend on the file tree
(`AgreeButFiles.deliverAll`), so a run that has no configuration ends alike in all of them.
-/

set_option autoImplicit false

namespace DocletPreflight

/-! ## The console and the file tree -/

namespace Session

/-- Sessions that differ in their files only. -/
def AgreeButFiles (s t : Session) : Prop := ∃ files, t = { s with files }

variable {s t : Session}

/-- One handler treats a record alike in sessions that differ only in files, and keeps them so. -/
theorem AgreeButFiles.handle (h : s.AgreeButFiles t) (r : LogRecord) (handler : LogHandler) :
    (t.handle r handler).1 = (s.handle r handler).1 ∧
      (s.handle r handler).2.AgreeButFiles (t.handle r handler).2 := by
  obtain ⟨files, rfl⟩ := h
  unfold Session.handle
  split
  · split
    · exact ⟨rfl, files, rfl⟩
    · simp only
      split
      · exact ⟨rfl, files, rfl⟩
      · exact ⟨rfl, _, rfl⟩
  · exact ⟨rfl, files, rfl⟩

/-- Handlers one after another treat a record alike in sessions that differ only in files. -/
theorem AgreeButFiles.handleAll (h : s.AgreeButFiles t) (r : LogRecord) (handlers : List LogHandler) :
    (t.handleAll r handlers).1 = (s.handleAll r handlers).1 ∧
      (s.handleAll r handlers).2.AgreeButFiles (t.handleAll r handlers).2 := by
  induction handlers generalizing s t with
  | nil => exact ⟨rfl, h⟩
  | cons handler handlers ih =>
    obtain ⟨htext, hagree⟩ := h.handle r handler
    obtain ⟨hmore, hrest⟩ := ih hagree
    refine ⟨?_, hrest⟩
    rw [Session.handleAll, Session.handleAll, htext, hmore]

/-- A record is delivered alike in sessions that differ only in files. -/
theorem AgreeButFiles.deliver (h : s.AgreeButFiles t) (r : LogRecord) :
    (t.deliver r).1 = (s.deliver r).1 ∧ (s.deliver r).2.AgreeButFiles (t.deliver r).2 := by
  obtain ⟨files, rfl⟩ := h
  have hagree : (s.useLogger r.logger).AgreeButFiles ({ s with files }.useLogger r.logger) :=
    ⟨files, rfl⟩
  have hadmits : ({ s with files }.useLogger r.logger).admits r = (s.useLogger r.logger).admits r := rfl
  have hhandlers : (({ s with files }.useLogger r.logger).settingsFor r.logger).handlers =
      ((s.useLogger r.logger).settingsFor r.logger).handlers := rfl
  unfold Session.deliver
  simp only [hadmits, hhandlers]
  split
  · split
    · exact ⟨rfl, files, rfl⟩
    · exact hagree.handleAll r _
  · exact ⟨rfl, files, rfl⟩

/-- What the console shows of records does not depend on the file tree. -/
theorem AgreeButFiles.deliverAll (h : s.AgreeButFiles t) (rs : List LogRecord) :
    (t.deliverAll rs).1 = (s.deliverAll rs).1 := by
  induction rs generalizing s t with
  | nil => rfl
  | cons r rs ih =>
    obtain ⟨htext, hagree⟩ := h.deliver r
    rw [Session.deliverAll, Session.deliverAll, htext, ih hagree]

end Session

open Session (AgreeButFiles)

variable {env : Environment} {lookup : Encoding.Lookup} {arguments : List String} {s left : Session}
  {request : Request} {result : RunResult}

/-- The doclet options cannot be split. -/
def Unsplit (arguments : List String) : Prop :=
  ∃ e, OptionMatrix.group (splitDocletArguments arguments).2 = .error e

/-- The doclet options amount to no configuration. -/
def Unconfigured (env : Environment) (lookup : Encoding.Lookup) (arguments : List String) : Prop :=
  ∃ m, OptionMatrix.group (splitDocletArguments arguments).2 = .ok m ∧
    (build env lookup m).configuration = .ok none

/-- The listing that a command reads is rejected. -/
def Unlisted (command : Command) (left : Session) : Prop :=
  ∃ p e, command = .filter (.path p) ∧
    Listing.read left.files left.workingDirectory p = .error (.rejected e)

/-- With status 1 some stage has failed, and nothing is printed. -/
theorem RunOutcome.failed {logged : OptionMatrix → String}
    (h : RunOutcome env lookup (splitDocletArguments arguments).2 request.command logged left result)
    (hstatus : result.ending = .exit 1) :
    (Unsplit arguments ∨ Unconfigured env lookup arguments ∨ Unlisted request.command left) ∧
      result.output = "" := by
  cases h with
  | unknownOption hgroup => exact ⟨.inl ⟨_, hgroup⟩, rfl⟩
  | invalidOptions hgroup hbuild => exact ⟨.inr (.inl ⟨_, hgroup, hbuild⟩), rfl⟩
  | rejectedListing hgroup hbuild hcommand hread => exact ⟨.inr (.inr ⟨_, _, hcommand, hread⟩), rfl⟩
  | printed => cases hstatus
  | crashed => cases hstatus

end DocletPreflight
