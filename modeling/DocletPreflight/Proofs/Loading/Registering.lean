import DocletPreflight.Proofs.Loading.Resolution

/-!
# Loading one name

A name is loaded when it refers to a taglet class whose registrar succeeds (`Environment.Loads`), and is not
for a reason of its own otherwise (`Environment.FailsToLoad`); `loadOne_eq_ok_iff` and
`loadOne_eq_error_iff` say that the loader does the one or the other.

The reason is an error to report, or an error of code from elsewhere that escapes. An error is quoted where an
entry point or a module is loaded and where a class registers itself, and escapes from there only if its text
does not come about (`LoadFailure.quoting_eq_escape_iff`); it passes everywhere else. So nothing escapes in an
environment that is `Environment.Orderly`, while its entry points, its modules and its classes may raise all
errors that have a text.
-/

set_option autoImplicit false

namespace DocletPreflight

/-! ## Errors -/

/-- The text of an error comes about. -/
def ForeignError.Legible (e : ForeignError) : Prop := ∃ text, e.text = .ok text

namespace LoadFailure

variable {reason : String → LoadError} {e raised : ForeignError}

/-- An error that has a text is reported where it is quoted. -/
theorem quoting_of_text {text : String} (h : e.text = .ok text) :
    quoting reason e = .reason (reason text) := by
  rw [quoting, h]

/-- An error that has none passes what asking for the text raises. -/
theorem quoting_of_raised (h : e.text = .error raised) : quoting reason e = passing raised := by
  rw [quoting, h]

/-- What escapes where an error is quoted is what asking for its text raises, and passes. -/
theorem quoting_eq_escape_iff {escaped : ForeignError} :
    quoting reason e = .escape escaped ↔
      ∃ raised, e.text = .error raised ∧ passing raised = .escape escaped := by
  constructor
  · intro h
    cases htext : e.text with
    | ok text =>
      rw [quoting_of_text htext] at h
      cases h
    | error raised =>
      rw [quoting_of_raised htext] at h
      exact ⟨raised, rfl, h⟩
  · rintro ⟨raised, htext, hpasses⟩
    rw [quoting_of_raised htext, hpasses]

/-- No error that has a text escapes where it is quoted. -/
theorem quoting_ne_escape (h : e.Legible) (escaped : ForeignError) :
    quoting reason e ≠ .escape escaped := by
  obtain ⟨text, htext⟩ := h
  rw [quoting_of_text htext]
  nofun

end LoadFailure

namespace Environment

/-- A name refers to a taglet class that registers itself in a registry and leaves another. -/
structure Loads (env : Environment) (name : String) (r : Registry) (c : TagletClass) (r' : Registry) :
    Prop where
  found : env.Finds name (.tagletClass c)
  registers : ∃ registrar, c.method = .found registrar ∧ registrar.run r = (.ok (), r')

/-- A name is not loaded. Only a registrar that fails may have changed the registry. -/
inductive FailsToLoad (env : Environment) (name : String) (r : Registry) : LoadFailure → Registry → Prop where
  | notFound {failure : LoadFailure} (hfind : env.FailsToFind name failure) :
      FailsToLoad env name r failure r
  | notTaglet {object : LoadedObject} (hfind : env.Finds name object)
      (hclass : ∀ c, object ≠ .tagletClass c) (htest : ∀ label e, object ≠ .untestable label e) :
      FailsToLoad env name r (.reason (.notTaglet name)) r
  | untestable {label : String} {e : ForeignError} (hfind : env.Finds name (.untestable label e)) :
      FailsToLoad env name r (.passing e) r
  | noRegister {c : TagletClass} (hfind : env.Finds name (.tagletClass c))
      (hmethod : c.method = .missing) : FailsToLoad env name r (.reason (.noRegister c.qualifiedName)) r
  | methodRaises {c : TagletClass} {e : ForeignError} (hfind : env.Finds name (.tagletClass c))
      (hmethod : c.method = .raises e) : FailsToLoad env name r (.passing e) r
  | registerFails {c : TagletClass} {registrar : Registrar} {e : ForeignError} {r' : Registry}
      (hfind : env.Finds name (.tagletClass c)) (hmethod : c.method = .found registrar)
      (hrun : registrar.run r = (.error e, r')) :
      FailsToLoad env name r (.quoting (.registerFailed c.qualifiedName) e) r'

variable {env : Environment} {name : String} {r r' : Registry} {c : TagletClass} {failure : LoadFailure}

/-! ## The class of a name -/

/-- A name that refers to a taglet class comes to the class. -/
theorem tagletClass_of_finds (h : env.Finds name (.tagletClass c)) : env.tagletClass name = .ok c := by
  rw [tagletClass, h.resolve_eq]

/-- A name that refers to nothing comes to the failure to find it. -/
theorem tagletClass_of_failsToFind (h : env.FailsToFind name failure) :
    env.tagletClass name = .error failure := by
  rw [tagletClass, h.resolve_eq]

/-- A name that refers to something else is reported as no taglet class. -/
theorem tagletClass_of_finds_other {object : LoadedObject} (h : env.Finds name object)
    (hclass : ∀ c, object ≠ .tagletClass c) (htest : ∀ label e, object ≠ .untestable label e) :
    env.tagletClass name = .error (.reason (.notTaglet name)) := by
  rw [tagletClass, h.resolve_eq]
  cases object with
  | tagletClass c => exact absurd rfl (hclass c)
  | nothing => rfl
  | other label => rfl
  | untestable label e => exact absurd rfl (htest label e)

/-- Where it cannot be told whether it is one, what keeps it from being told passes. -/
theorem tagletClass_of_finds_untestable {label : String} {e : ForeignError}
    (h : env.Finds name (.untestable label e)) : env.tagletClass name = .error (.passing e) := by
  rw [tagletClass, h.resolve_eq]

/-! ## One name -/

/-- The loader loads what is there to be loaded. -/
theorem Loads.loadOne_eq (h : env.Loads name r c r') : env.loadOne name r = (.ok c, r') := by
  obtain ⟨registrar, hmethod, hrun⟩ := h.registers
  simp only [loadOne, tagletClass_of_finds h.found, TagletClass.register, hmethod, hrun]

/-- The loader fails where there is a reason to. -/
theorem FailsToLoad.loadOne_eq (h : env.FailsToLoad name r failure r') :
    env.loadOne name r = (.error failure, r') := by
  cases h with
  | notFound hfind => simp only [loadOne, tagletClass_of_failsToFind hfind]
  | notTaglet hfind hclass htest => simp only [loadOne, tagletClass_of_finds_other hfind hclass htest]
  | untestable hfind => simp only [loadOne, tagletClass_of_finds_untestable hfind]
  | noRegister hfind hmethod =>
    simp only [loadOne, tagletClass_of_finds hfind, TagletClass.register, hmethod]
  | methodRaises hfind hmethod =>
    simp only [loadOne, tagletClass_of_finds hfind, TagletClass.register, hmethod]
  | registerFails hfind hmethod hrun =>
    simp only [loadOne, tagletClass_of_finds hfind, TagletClass.register, hmethod, hrun]

/-- A name that refers to an object is loaded, or there is a reason why it is not. -/
theorem loads_or_failsToLoad_of_finds {object : LoadedObject} (hfind : env.Finds name object)
    (r : Registry) :
    (∃ c r', env.Loads name r c r') ∨ ∃ failure r', env.FailsToLoad name r failure r' := by
  cases object with
  | nothing => exact .inr ⟨_, _, .notTaglet hfind nofun nofun⟩
  | other label => exact .inr ⟨_, _, .notTaglet hfind nofun nofun⟩
  | untestable label e => exact .inr ⟨_, _, .untestable hfind⟩
  | tagletClass c =>
    cases hmethod : c.method with
    | missing => exact .inr ⟨_, _, .noRegister hfind hmethod⟩
    | raises e => exact .inr ⟨_, _, .methodRaises hfind hmethod⟩
    | found registrar =>
      rcases hrun : registrar.run r with ⟨e | ⟨⟩, r'⟩
      · exact .inr ⟨_, _, .registerFails hfind hmethod hrun⟩
      · exact .inl ⟨_, _, hfind, registrar, hmethod, hrun⟩

/-- A name is loaded, or there is a reason why it is not. -/
theorem loads_or_failsToLoad (env : Environment) (name : String) (r : Registry) :
    (∃ c r', env.Loads name r c r') ∨ ∃ failure r', env.FailsToLoad name r failure r' := by
  rcases env.resolve_cases name with ⟨object, -, hfind⟩ | ⟨failure, -, hfind⟩
  · exact loads_or_failsToLoad_of_finds hfind r
  · exact .inr ⟨_, _, .notFound hfind⟩

/-- The loader loads a name just when it is there to be loaded. -/
theorem loadOne_eq_ok_iff : env.loadOne name r = (.ok c, r') ↔ env.Loads name r c r' := by
  refine ⟨fun h => ?_, Loads.loadOne_eq⟩
  rcases env.loads_or_failsToLoad name r with ⟨c', s, hloads⟩ | ⟨failure, s, hfails⟩
  · cases h.symm.trans hloads.loadOne_eq
    exact hloads
  · cases h.symm.trans hfails.loadOne_eq

/-- The loader fails with a name just when there is a reason to, and for it. -/
theorem loadOne_eq_error_iff :
    env.loadOne name r = (.error failure, r') ↔ env.FailsToLoad name r failure r' := by
  refine ⟨fun h => ?_, FailsToLoad.loadOne_eq⟩
  rcases env.loads_or_failsToLoad name r with ⟨c, s, hloads⟩ | ⟨failure', s, hfails⟩
  · cases h.symm.trans hloads.loadOne_eq
  · cases h.symm.trans hfails.loadOne_eq
    exact hfails

/-! ## Environments in order -/

/-- Code from elsewhere raises only where entry points and modules are loaded and where classes register
themselves: attributes are there or are missing, and it can be told of what a name refers to whether it is a
taglet class, and of a taglet class whether it has a method to register with. -/
structure Tame (env : Environment) : Prop where
  attributes : ∀ object member failure, env.memberOf object member = .error failure →
    ∃ e, failure = .missing e
  objects : ∀ name object, env.Finds name object → ∀ label e, object ≠ .untestable label e
  methods : ∀ name c, env.Finds name (.tagletClass c) → ∀ e, c.method ≠ .raises e

/-- What code from elsewhere raises there has a text. -/
structure Orderly (env : Environment) : Prop extends env.Tame where
  entryPoints : ∀ value e, env.loadReference value = .error e → e.Legible
  modules : ∀ name e, env.importModule name = .error (.failed e) → e.Legible
  registrars : ∀ name c registrar r e, env.Finds name (.tagletClass c) → c.method = .found registrar →
    (registrar.run r).1 = .error e → e.Legible

/-- No error escapes from the search for a name in an environment in order. -/
theorem Orderly.not_failsToFind_escape (horderly : env.Orderly) (name : String) (e : ForeignError) :
    ¬env.FailsToFind name (.escape e) := by
  intro h
  generalize hfailure : LoadFailure.escape e = failure at h
  cases h with
  | entryPoint hentry hload =>
    exact LoadFailure.quoting_ne_escape (horderly.entryPoints _ _ hload) e hfailure.symm
  | noPath => cases hfailure
  | noModule => cases hfailure
  | moduleFails hleft hpath himport =>
    exact LoadFailure.quoting_ne_escape (horderly.modules _ _ himport) e hfailure.symm
  | noAttribute => cases hfailure
  | attributeFails hleft hpath himport hmember =>
    obtain ⟨e, he⟩ := horderly.attributes _ _ _ hmember
    cases he

/-- Nor does one while a name is loaded. -/
theorem Orderly.not_failsToLoad_escape (horderly : env.Orderly) (name : String) (r : Registry)
    (e : ForeignError) (r' : Registry) : ¬env.FailsToLoad name r (.escape e) r' := by
  intro h
  generalize hfailure : LoadFailure.escape e = failure at h
  cases h with
  | notFound hfind =>
    rw [← hfailure] at hfind
    exact horderly.not_failsToFind_escape name e hfind
  | notTaglet => cases hfailure
  | untestable hfind => exact horderly.objects _ _ hfind _ _ rfl
  | noRegister => cases hfailure
  | methodRaises hfind hmethod => exact horderly.methods _ _ hfind _ hmethod
  | registerFails hfind hmethod hrun =>
    have hlegible := horderly.registrars _ _ _ _ _ hfind hmethod (congrArg Prod.fst hrun)
    exact LoadFailure.quoting_ne_escape hlegible e hfailure.symm

/-- Without entry points and modules, no name refers to an object. -/
theorem not_finds_of_no_modules (hentries : env.entryPoints = [])
    (hmodules : ∀ m, ∃ failure, env.importModule m = .error failure) (name : String)
    (object : LoadedObject) :
    ¬env.Finds name object := by
  intro hfind
  cases hfind with
  | entryPoint hentry =>
    rw [entryPoint?, hentries] at hentry
    cases hentry
  | @path m _ _ _ _ _ himport =>
    obtain ⟨failure, hfails⟩ := hmodules m
    cases hfails.symm.trans himport

/-- The environment in which nothing can be loaded is in order. -/
theorem orderly_bare : bare.Orderly where
  attributes := by
    rintro object member failure hmember
    cases hmember
    exact ⟨_, rfl⟩
  objects name object hfind := absurd hfind (not_finds_of_no_modules rfl (fun _ => ⟨_, rfl⟩) name object)
  methods name c hfind := absurd hfind (not_finds_of_no_modules rfl (fun _ => ⟨_, rfl⟩) name _)
  entryPoints := by
    intro value e hload
    unfold loadReference at hload
    split at hload
    · cases hload
      exact ⟨_, rfl⟩
    · cases hload
      exact ⟨_, rfl⟩
  modules := by
    intro name e himport
    cases himport
  registrars name c registrar r e hfind :=
    absurd hfind (not_finds_of_no_modules rfl (fun _ => ⟨_, rfl⟩) name _)

end Environment

end DocletPreflight
