import DocletPreflight.Proofs.Loading.Accounting

/-!
# Entry points before paths

A name may be that of an entry point and the path of an attribute at the same time. The first entry point
for the name is loaded, and what comes of that decides (`EntryGives`), whatever the name may mean as a path;
a name without an entry point is left to its path (`Environment.PathGives`). There is one exception: an
entry point that refers to nothing is passed over as if it were not there, so that the path decides after
all (`nothing_yields_to_path`). `entryPoint_precedes_path` says who decides in each case, and what comes of
it: a taglet class or a reason to report, or else an error that escapes, which is so only where something is
not in order.
-/

set_option autoImplicit false

namespace DocletPreflight

/-- An entry point is for a name when it is one for taglets and has just this name. -/
def EntryPoint.IsFor (entry : EntryPoint) (name : String) : Prop :=
  entry.group = Environment.tagletGroup ∧ entry.name = name

/-- What is made of an object that a name refers to: only a taglet class will do, and what keeps it from being
told whether it is one passes. -/
inductive ObjectGives (name : String) : LoadedObject → Except LoadFailure TagletClass → Prop where
  | tagletClass (c : TagletClass) : ObjectGives name (.tagletClass c) (.ok c)
  | notTaglet {object : LoadedObject} (hclass : ∀ c, object ≠ .tagletClass c)
      (htest : ∀ label e, object ≠ .untestable label e) :
      ObjectGives name object (.error (.reason (.notTaglet name)))
  | untestable (label : String) (e : ForeignError) :
      ObjectGives name (.untestable label e) (.error (.passing e))

/-- What is made of loading an entry point for a name. Neither what the name means as a path nor any other
entry point has a part in it. -/
inductive EntryGives (name : String) :
    Except ForeignError LoadedObject → Except LoadFailure TagletClass → Prop where
  | fails (e : ForeignError) :
      EntryGives name (.error e) (.error (.quoting (.entryPointFailed name) e))
  | loads {object : LoadedObject} {outcome : Except LoadFailure TagletClass}
      (hobject : ObjectGives name object outcome) : EntryGives name (.ok object) outcome

/-- An object gives a name only one outcome. -/
theorem ObjectGives.unique {name : String} {object : LoadedObject}
    {outcome other : Except LoadFailure TagletClass} (h : ObjectGives name object outcome)
    (hother : ObjectGives name object other) : outcome = other := by
  cases h with
  | tagletClass c =>
    cases hother with
    | tagletClass c => rfl
    | notTaglet hclass htest => exact absurd rfl (hclass c)
  | notTaglet hclass htest =>
    cases hother with
    | tagletClass c => exact absurd rfl (hclass c)
    | notTaglet hclass htest => rfl
    | untestable label e => exact absurd rfl (htest label e)
  | untestable label e =>
    cases hother with
    | notTaglet hclass htest => exact absurd rfl (htest label e)
    | untestable label e => rfl

/-- Loading an entry point comes to one outcome. -/
theorem EntryGives.unique {name : String} {loaded : Except ForeignError LoadedObject}
    {outcome other : Except LoadFailure TagletClass} (h : EntryGives name loaded outcome)
    (hother : EntryGives name loaded other) : outcome = other := by
  cases h with
  | fails e =>
    cases hother with
    | fails e => rfl
  | loads hobject =>
    cases hother with
    | loads hobject' => exact hobject.unique hobject'

namespace Environment

/-- An entry point is the first for a name: none before it is for the name. -/
def IsFirstEntry (env : Environment) (name : String) (entry : EntryPoint) : Prop :=
  ∃ before after, env.entryPoints = before ++ entry :: after ∧ entry.IsFor name ∧
    ∀ earlier ∈ before, ¬ earlier.IsFor name

/-- What is made of a name by its path: what stands before its last dot is imported, and what stands
after it is the attribute to take. -/
inductive PathGives (env : Environment) (name : String) : Except LoadFailure TagletClass → Prop where
  | noPath (hpath : ∀ m a, ¬ IsPath name m a) : PathGives env name (.error (.reason (.notFound name)))
  | noModule {m a : String} {e : ForeignError} (hpath : IsPath name m a)
      (himport : env.importModule m = .error (.notFound e)) :
      PathGives env name (.error (.reason (.notFound name)))
  | moduleFails {m a : String} {e : ForeignError} (hpath : IsPath name m a)
      (himport : env.importModule m = .error (.failed e)) :
      PathGives env name (.error (.quoting (.importFailed m) e))
  | noAttribute {m a : String} {e : ForeignError} {holder : LoadedObject} (hpath : IsPath name m a)
      (himport : env.importModule m = .ok holder)
      (hmember : env.memberOf holder a = .error (.missing e)) :
      PathGives env name (.error (.reason (.notFound name)))
  | attributeFails {m a : String} {e : ForeignError} {holder : LoadedObject} (hpath : IsPath name m a)
      (himport : env.importModule m = .ok holder)
      (hmember : env.memberOf holder a = .error (.failed e)) :
      PathGives env name (.error (.passing e))
  | attribute {m a : String} {holder object : LoadedObject} {outcome : Except LoadFailure TagletClass}
      (hpath : IsPath name m a) (himport : env.importModule m = .ok holder)
      (hmember : env.memberOf holder a = .ok object) (hobject : ObjectGives name object outcome) :
      PathGives env name outcome

variable {env : Environment} {name : String} {entry : EntryPoint}

/-! ## The first entry point -/

/-- The entry point of a name is the first one for it. -/
theorem entryPoint?_eq_some_iff : env.entryPoint? name = some entry ↔ env.IsFirstEntry name entry := by
  have hfor : ∀ e : EntryPoint,
      (decide (e.group = tagletGroup) && decide (e.name = name)) = true ↔ e.IsFor name := by
    intro e
    simp [EntryPoint.IsFor]
  rw [entryPoint?, List.find?_eq_some_iff_append, IsFirstEntry]
  simp only [hfor, Bool.not_eq_true', ← Bool.not_eq_true]
  constructor
  · rintro ⟨hentry, before, after, hsplit, hbefore⟩
    exact ⟨before, after, hsplit, hentry, hbefore⟩
  · rintro ⟨before, after, hsplit, hentry, hbefore⟩
    exact ⟨hentry, before, after, hsplit, hbefore⟩

/-- A name has no entry point if none is for it. -/
theorem entryPoint?_eq_none_iff :
    env.entryPoint? name = none ↔ ∀ entry ∈ env.entryPoints, ¬ entry.IsFor name := by
  simp [entryPoint?, EntryPoint.IsFor]

/-- A name without an entry point is left to its path. -/
theorem leftToPath_of_none (h : ∀ entry ∈ env.entryPoints, ¬ entry.IsFor name) :
    env.LeftToPath name := by
  intro entry hentry
  rw [entryPoint?_eq_none_iff.mpr h] at hentry
  cases hentry

/-- So is one whose first entry point refers to nothing. -/
theorem leftToPath_of_nothing (hentry : env.IsFirstEntry name entry)
    (hload : env.loadReference entry.value = .ok .nothing) : env.LeftToPath name := by
  intro other hother
  rw [entryPoint?_eq_some_iff.mpr hentry] at hother
  cases hother
  exact hload

/-! ## Outcomes -/

/-- What is made of a name that refers to an object is what is made of the object. -/
theorem objectGives_of_finds {object : LoadedObject} (h : env.Finds name object) :
    ObjectGives name object (env.tagletClass name) := by
  cases object with
  | tagletClass c =>
    rw [tagletClass_of_finds h]
    exact .tagletClass c
  | nothing =>
    rw [tagletClass_of_finds_other h nofun nofun]
    exact .notTaglet nofun nofun
  | other label =>
    rw [tagletClass_of_finds_other h nofun nofun]
    exact .notTaglet nofun nofun
  | untestable label e =>
    rw [tagletClass_of_finds_untestable h]
    exact .untestable label e

/-- The first entry point for a name decides, unless it refers to nothing. -/
theorem entryGives_of_isFirstEntry (hentry : env.IsFirstEntry name entry)
    (hsome : env.loadReference entry.value ≠ .ok .nothing) :
    EntryGives name (env.loadReference entry.value) (env.tagletClass name) := by
  have hfirst : env.entryPoint? name = some entry := entryPoint?_eq_some_iff.mpr hentry
  cases hload : env.loadReference entry.value with
  | error e =>
    rw [tagletClass_of_failsToFind (.entryPoint hfirst hload)]
    exact .fails e
  | ok object =>
    have hobject : object ≠ .nothing := by
      rintro rfl
      exact hsome hload
    apply EntryGives.loads
    exact objectGives_of_finds (.entryPoint hfirst hload hobject)

/-- A name that no entry point decides comes to what its path gives. -/
theorem pathGives_of_leftToPath (hleft : env.LeftToPath name) :
    env.PathGives name (env.tagletClass name) := by
  rcases resolveDotted_cases hleft with ⟨object, -, hfinds⟩ | ⟨failure, -, hfails⟩
  · have hobject := objectGives_of_finds hfinds
    cases hfinds with
    | entryPoint hentry hload hsome =>
      -- an entry point that was passed over refers to nothing
      have hnothing := hleft _ hentry
      rw [hload] at hnothing
      exact absurd (Except.ok.inj hnothing) hsome
    | path _ hpath himport hmember => exact .attribute hpath himport hmember hobject
  · rw [tagletClass_of_failsToFind hfails]
    cases hfails with
    | entryPoint hentry hload =>
      have hnothing := hleft _ hentry
      rw [hload] at hnothing
      cases hnothing
    | noPath _ hpath => exact .noPath hpath
    | noModule _ hpath himport => exact .noModule hpath himport
    | moduleFails _ hpath himport => exact .moduleFails hpath himport
    | noAttribute _ hpath himport hmember => exact .noAttribute hpath himport hmember
    | attributeFails _ hpath himport hmember => exact .attributeFails hpath himport hmember

/-- No error escapes in an environment in order: there is a taglet class, or a reason to report. -/
theorem Orderly.tagletClass_cases (horderly : env.Orderly) (name : String) :
    (∃ c, env.tagletClass name = .ok c) ∨ ∃ e, env.tagletClass name = .error (.reason e) := by
  cases htaglet : env.tagletClass name with
  | ok c => exact .inl ⟨c, rfl⟩
  | error failure =>
    cases failure with
    | reason e => exact .inr ⟨e, rfl⟩
    | escape e =>
      have hone : env.loadOne name Registry.standard = (.error (.escape e), Registry.standard) := by
        rw [loadOne, htaglet]
      exact absurd (loadOne_eq_error_iff.mp hone) (horderly.not_failsToLoad_escape name _ e _)

/-- The first entry point for a name decides what comes of the name, in every environment in which it
loads alike, unless it refers to nothing. The name is taken for a path where its first entry point refers
to nothing, and where no entry point is for the name. When the environment is in order, a taglet class or a
reason to report comes of it, and nothing else. -/
theorem entryPoint_precedes_path (env : Environment) (name : String) :
    (∀ entry, env.IsFirstEntry name entry → env.loadReference entry.value ≠ .ok .nothing →
      EntryGives name (env.loadReference entry.value) (env.tagletClass name) ∧
      ∀ (other : Environment) (entry' : EntryPoint), other.IsFirstEntry name entry' →
        other.loadReference entry'.value = env.loadReference entry.value →
        other.tagletClass name = env.tagletClass name) ∧
    (∀ entry, env.IsFirstEntry name entry → env.loadReference entry.value = .ok .nothing →
      env.PathGives name (env.tagletClass name)) ∧
    ((∀ entry ∈ env.entryPoints, ¬ entry.IsFor name) →
      env.PathGives name (env.tagletClass name)) ∧
    (env.Orderly → (∃ c, env.tagletClass name = .ok c) ∨
      ∃ e, env.tagletClass name = .error (.reason e)) := by
  refine ⟨?_, ?_, ?_, ?_⟩
  · intro entry hentry hsome
    have hgives := entryGives_of_isFirstEntry hentry hsome
    refine ⟨hgives, ?_⟩
    intro other entry' hentry' hload
    have hgives' := entryGives_of_isFirstEntry hentry' (by rwa [hload])
    rw [hload] at hgives'
    exact hgives'.unique hgives
  · intro entry hentry hload
    exact pathGives_of_leftToPath (leftToPath_of_nothing hentry hload)
  · intro hnone
    exact pathGives_of_leftToPath (leftToPath_of_none hnone)
  · intro horderly
    exact horderly.tagletClass_cases name

/-- An environment in which a name is that of an entry point and a path at the same time. A module has an
object at the path, and another one that the entry point refers to. -/
def crossedEnvironment (atPath atEntry : LoadedObject) : Environment where
  entryPoints := [⟨"lib.Todo", "lib:Todo", "console"⟩, ⟨"lib.Todo", "lib:Entry", tagletGroup⟩]
  importModule := fun name =>
    if name = "lib" then .ok (.other "lib") else .error (.notFound (.legible "no module"))
  memberOf := fun _ name =>
    if name = "Todo" then .ok atPath
    else if name = "Entry" then .ok atEntry
    else .error (.missing (.legible "no attribute"))

/-- In the crossed environment, the name has an entry point. -/
theorem isFirstEntry_crossed (atPath atEntry : LoadedObject) :
    (crossedEnvironment atPath atEntry).IsFirstEntry "lib.Todo"
      ⟨"lib.Todo", "lib:Entry", tagletGroup⟩ := by
  refine ⟨[⟨"lib.Todo", "lib:Todo", "console"⟩], [], rfl, ⟨rfl, rfl⟩, ?_⟩
  intro earlier hearlier
  rw [List.mem_singleton] at hearlier
  subst hearlier
  rintro ⟨hgroup, -⟩
  exact absurd hgroup (by decide)

/-- In the crossed environment, the entry point refers to the object that is chosen for it. -/
theorem loadReference_crossed (atPath atEntry : LoadedObject) :
    (crossedEnvironment atPath atEntry).loadReference "lib:Entry" = .ok atEntry := by
  have hparse : Reference.parse? "lib:Entry" = some ⟨"lib", ["Entry"]⟩ := by decide +kernel
  simp [loadReference, hparse, crossedEnvironment, follow]

/-- The class at the path. -/
def todoClass : TagletClass := ⟨"lib", "Todo", .missing⟩

/-- An entry point that refers to no taglet class keeps the class at the path from being found, as it
would if there were nothing at the path. -/
theorem crossed_entry_decides :
    EntryGives "lib.Todo" (.ok (.other "text"))
      ((crossedEnvironment (.tagletClass todoClass) (.other "text")).tagletClass "lib.Todo") ∧
    (crossedEnvironment .nothing (.other "text")).tagletClass "lib.Todo" =
      (crossedEnvironment (.tagletClass todoClass) (.other "text")).tagletClass "lib.Todo" := by
  have hload := loadReference_crossed (.tagletClass todoClass) (.other "text")
  have hload' := loadReference_crossed .nothing (.other "text")
  have hsome : (crossedEnvironment (.tagletClass todoClass) (.other "text")).loadReference
      "lib:Entry" ≠ .ok .nothing := by
    rw [hload]
    intro h
    cases h
  obtain ⟨hgives, halike⟩ :=
    (entryPoint_precedes_path (crossedEnvironment (.tagletClass todoClass) (.other "text"))
      "lib.Todo").1 _ (isFirstEntry_crossed _ _) hsome
  rw [hload] at hgives
  exact ⟨hgives, halike _ _ (isFirstEntry_crossed _ _) (hload'.trans hload.symm)⟩

/-- An environment in which importing a module fails with an error whose text does not come about. -/
def muteEnvironment : Environment where
  entryPoints := []
  importModule := fun _ => .error (.failed (.illegible (.legible "no text")))
  memberOf := fun _ _ => .error (.missing (.legible "no attribute"))

/-- Nothing but its modules raises anything. -/
theorem tame_mute : muteEnvironment.Tame where
  attributes := by
    intro object member failure hmember
    cases hmember
    exact ⟨_, rfl⟩
  objects name object hfind := absurd hfind (not_finds_of_no_modules rfl (fun _ => ⟨_, rfl⟩) name object)
  methods name c hfind := absurd hfind (not_finds_of_no_modules rfl (fun _ => ⟨_, rfl⟩) name _)

/-- An entry point does not always decide: where it refers to nothing, the name is taken for a path, and
the class that stands there is found. Nor is there always a class or a reason to report: an error of a module
escapes when its text does not come about. -/
theorem nothing_yields_to_path :
    (¬∀ (env : Environment) (name : String) (entry : EntryPoint), env.IsFirstEntry name entry →
      EntryGives name (env.loadReference entry.value) (env.tagletClass name)) ∧
    ¬∀ (env : Environment) (name : String), env.Tame →
      (∃ c, env.tagletClass name = .ok c) ∨ ∃ e, env.tagletClass name = .error (.reason e) := by
  have hpath : IsPath "lib.Todo" "lib" "Todo" := ⟨by decide, by decide, by decide, by decide⟩
  constructor
  · intro h
    have hload := loadReference_crossed (.tagletClass todoClass) .nothing
    have hfirst := isFirstEntry_crossed (.tagletClass todoClass) .nothing
    have hgives := h (crossedEnvironment (.tagletClass todoClass) .nothing) "lib.Todo" _ hfirst
    have himport : (crossedEnvironment (.tagletClass todoClass) .nothing).importModule "lib" =
        .ok (.other "lib") := rfl
    have hfound : ObjectGives "lib.Todo" (.tagletClass todoClass)
        ((crossedEnvironment (.tagletClass todoClass) .nothing).tagletClass "lib.Todo") :=
      objectGives_of_finds (.path (leftToPath_of_nothing hfirst hload) hpath himport rfl)
    rw [hfound.unique (.tagletClass todoClass), hload] at hgives
    cases hgives with
    | loads hobject => cases hobject
  · intro h
    have hleft : muteEnvironment.LeftToPath "lib.Todo" := leftToPath_of_none (by simp [muteEnvironment])
    have hescapes : muteEnvironment.tagletClass "lib.Todo" = .error (.escape (.legible "no text")) :=
      tagletClass_of_failsToFind (.moduleFails hleft hpath rfl)
    rcases h muteEnvironment "lib.Todo" tame_mute with ⟨c, hc⟩ | ⟨e, he⟩
    · cases hescapes.symm.trans hc
    · cases hescapes.symm.trans he

end Environment

end DocletPreflight
