import DocletPreflight.Proofs.Loading.Accounting

/-!
# What a name that fails leaves behind

A taglet class is given the registry itself to register in, and nothing is undone when it fails. What it has
performed until then is therefore there (`Registrar.run_snd`), and a name may be reported as failed and change
the registry all the same (`partial_leaves_entry`). There is no other way to leave something behind: a name
that is reported leaves the registry as it was, or its class was found and failed halfway
(`FailsToLoad.eq_or_failsHalfway`). Of a list of names, those that are announced or fail halfway, and the one
from which an error escapes if there is one, come to the same by themselves (`NarrowsTo.sameEffect`), so the
registry depends on no others. `failed_names_leave_performed` puts these together.
-/

set_option autoImplicit false

namespace DocletPreflight

namespace Registrar

/-- The operations that a registrar performs on a registry, in order. -/
def performed : Registrar → Registry → List Registry.Op
  | done, _ => []
  | fail _, _ => []
  | look next, r => (next r).performed r
  | perform op next, r =>
    op :: (next (Registry.perform op r).1).performed (Registry.perform op r).2

/-- A registrar leaves what its operations make of the registry, however it ends. -/
theorem run_snd (registrar : Registrar) (r : Registry) :
    (registrar.run r).2 = Registry.performAll (registrar.performed r) r := by
  induction registrar generalizing r with
  | done => rfl
  | fail e => rfl
  | look next ih => exact ih r r
  | perform op next ih => exact ih (Registry.perform op r).1 (Registry.perform op r).2

end Registrar

/-- Loading comes to the same, errors aside: the registry, the classes, and what is announced. -/
structure Loading.SameEffect (a b : Loading) : Prop where
  registry : a.registry = b.registry
  loaded : a.loaded = b.loaded
  announced : messagesOn .notice a.trace.diagnostics = messagesOn .notice b.trace.diagnostics

/-- Coming to the same goes through a third loading. -/
theorem Loading.SameEffect.trans {a b c : Loading} (hab : a.SameEffect b) (hbc : b.SameEffect c) :
    a.SameEffect c :=
  ⟨hab.registry.trans hbc.registry, hab.loaded.trans hbc.loaded, hab.announced.trans hbc.announced⟩

namespace Environment

/-- A name refers to a taglet class whose registrar fails, and the operations that it has performed until
then have changed the registry. They make what is left. -/
inductive FailsHalfway (env : Environment) (name : String) (r : Registry) :
    LoadFailure → Registry → Prop where
  | intro {c : TagletClass} {registrar : Registrar} {e : ForeignError}
      (hfind : env.Finds name (.tagletClass c)) (hmethod : c.method = .found registrar)
      (hrun : (registrar.run r).1 = .error e)
      (hchanged : Registry.performAll (registrar.performed r) r ≠ r) :
      FailsHalfway env name r (.quoting (.registerFailed c.qualifiedName) e)
        (Registry.performAll (registrar.performed r) r)

/-- Of some names, those that are announced and those that fail halfway, each as it meets the registry that
the names before it leave, and the one from which an error escapes. -/
inductive NarrowsTo (env : Environment) : List String → Registry → List String → Prop where
  | nil (r : Registry) : NarrowsTo env [] r []
  | announced {name : String} {rest kept : List String} {r r' : Registry} {c : TagletClass}
      (hname : env.Loads name r c r') (hrest : NarrowsTo env rest r' kept) :
      NarrowsTo env (name :: rest) r (name :: kept)
  | halfway {name : String} {rest kept : List String} {r r' : Registry} {e : LoadError}
      (hname : env.FailsHalfway name r (.reason e) r') (hrest : NarrowsTo env rest r' kept) :
      NarrowsTo env (name :: rest) r (name :: kept)
  | traceless {name : String} {rest kept : List String} {r : Registry} {e : LoadError}
      (hname : env.FailsToLoad name r (.reason e) r) (hrest : NarrowsTo env rest r kept) :
      NarrowsTo env (name :: rest) r kept
  | escapes {name : String} {rest : List String} {r r' : Registry} {e : ForeignError}
      (hname : env.FailsToLoad name r (.escape e) r') : NarrowsTo env (name :: rest) r [name]

variable {env : Environment} {name : String} {names kept : List String} {r r' : Registry}
variable {failure : LoadFailure} {e : LoadError} {outcome : Except LoadError TagletClass}

/-! ## One name -/

/-- To fail halfway is to fail. -/
theorem FailsHalfway.failsToLoad (h : env.FailsHalfway name r failure r') :
    env.FailsToLoad name r failure r' := by
  cases h with
  | @intro c registrar e hfind hmethod hrun hchanged =>
    exact .registerFails hfind hmethod (Prod.ext hrun (registrar.run_snd r))

/-- A name that fails leaves the registry as it was, or fails halfway. -/
theorem FailsToLoad.eq_or_failsHalfway (h : env.FailsToLoad name r failure r') :
    r' = r ∨ env.FailsHalfway name r failure r' := by
  cases h with
  | notFound => exact .inl rfl
  | notTaglet => exact .inl rfl
  | untestable => exact .inl rfl
  | noRegister => exact .inl rfl
  | methodRaises => exact .inl rfl
  | @registerFails c registrar e _ hfind hmethod hrun =>
    have hleft : r' = Registry.performAll (registrar.performed r) r := by rw [← registrar.run_snd, hrun]
    by_cases heq : r' = r
    · exact .inl heq
    · rw [hleft] at heq ⊢
      exact .inr (.intro hfind hmethod (by rw [hrun]) heq)

/-- A name that fails halfway does not leave the registry as it was. -/
theorem FailsHalfway.ne (h : env.FailsHalfway name r failure r') : r' ≠ r := by
  cases h with
  | intro hfind hmethod hrun hchanged => exact hchanged

/-- A name that fails and leaves the registry as it was does not fail halfway. -/
theorem FailsToLoad.not_failsHalfway (h : env.FailsToLoad name r failure r) (failure' : LoadFailure)
    (r' : Registry) : ¬env.FailsHalfway name r failure' r' := by
  intro hhalfway
  cases h.loadOne_eq.symm.trans hhalfway.failsToLoad.loadOne_eq
  exact hhalfway.ne rfl

/-- A name for which an error is reported is not loaded. -/
theorem failsToLoad_of_reported {d : Diagnostic} (h : d ∈ (env.loadAll [name] r).trace.diagnostics)
    (herror : d.channel = .error) :
    ∃ e, d = loadDiagnostic (.error e) ∧
      env.FailsToLoad name r (.reason e) (env.loadAll [name] r).registry := by
  rw [diagnostics_loadAll] at h
  rcases env.loadOne_cases name r with ⟨e, r', hone⟩ | ⟨outcome, r', hone⟩
  · rw [outcomes_of_escape hone] at h
    cases h
  · rw [outcomes_of_outcome hone] at h
    obtain rfl := List.mem_singleton.mp h
    rw [loadAll_of_outcome hone]
    cases outcome with
    | ok c => cases herror
    | error e => exact ⟨e, rfl, loadOne_eq_error_iff.mp hone⟩

/-! ## Names one after another -/

/-- Names can be narrowed down. -/
theorem exists_narrowsTo (env : Environment) (names : List String) (r : Registry) :
    ∃ kept, env.NarrowsTo names r kept := by
  induction names generalizing r with
  | nil => exact ⟨[], .nil r⟩
  | cons name rest ih =>
    rcases env.loads_or_failsToLoad name r with ⟨c, r', hloads⟩ | ⟨failure, r', hfails⟩
    · obtain ⟨kept, hkept⟩ := ih r'
      exact ⟨name :: kept, .announced hloads hkept⟩
    · cases failure with
      | escape e => exact ⟨[name], .escapes hfails⟩
      | reason e =>
        obtain ⟨kept, hkept⟩ := ih r'
        rcases hfails.eq_or_failsHalfway with rfl | hhalfway
        · exact ⟨kept, .traceless hfails hkept⟩
        · exact ⟨name :: kept, .halfway hhalfway hkept⟩

/-- What is said of a name that has an outcome comes before what is said of the rest. -/
theorem messagesOn_loadAll_cons (channel : Channel)
    (h : env.loadOne name r = (Except.mapError LoadFailure.reason outcome, r')) (rest : List String) :
    messagesOn channel (env.loadAll (name :: rest) r).trace.diagnostics =
      messagesOn channel [loadDiagnostic outcome] ++
        messagesOn channel (env.loadAll rest r').trace.diagnostics := by
  simp only [diagnostics_loadAll, outcomes_of_outcome h, List.map_cons, messagesOn]
  rw [← List.singleton_append, List.filter_append, List.map_append]

/-- A name that has an outcome adds the same to the names after it, whatever they are. -/
theorem sameEffect_cons (hone : env.loadOne name r = (Except.mapError LoadFailure.reason outcome, r'))
    (h : (env.loadAll names r').SameEffect (env.loadAll kept r')) :
    (env.loadAll (name :: names) r).SameEffect (env.loadAll (name :: kept) r) := by
  refine ⟨?_, ?_, ?_⟩
  · rw [loadAll_of_outcome hone, loadAll_of_outcome hone, h.registry]
  · rw [loadAll_of_outcome hone, loadAll_of_outcome hone, h.loaded]
  · rw [messagesOn_loadAll_cons _ hone, messagesOn_loadAll_cons _ hone, h.announced]

/-- A name that fails and leaves the registry as it was has no effect. -/
theorem FailsToLoad.sameEffect (h : env.FailsToLoad name r (.reason e) r) (rest : List String) :
    (env.loadAll (name :: rest) r).SameEffect (env.loadAll rest r) := by
  have hone : env.loadOne name r = (Except.mapError LoadFailure.reason (.error e), r) := h.loadOne_eq
  refine ⟨?_, ?_, ?_⟩
  · rw [loadAll_of_outcome hone]
  · rw [loadAll_of_outcome hone]
    cases (env.loadAll rest r).loaded <;> rfl
  · rw [messagesOn_loadAll_cons _ hone]
    rfl

/-- Names come to the same as what they narrow down to. -/
theorem NarrowsTo.sameEffect (h : env.NarrowsTo names r kept) :
    (env.loadAll names r).SameEffect (env.loadAll kept r) := by
  induction h with
  | nil r => exact ⟨rfl, rfl, rfl⟩
  | @announced name rest kept r r' c hname _ ih =>
    have hone : env.loadOne name r = (Except.mapError LoadFailure.reason (.ok c), r') := hname.loadOne_eq
    exact sameEffect_cons hone ih
  | @halfway name rest kept r r' e hname _ ih =>
    have hone : env.loadOne name r = (Except.mapError LoadFailure.reason (.error e), r') :=
      hname.failsToLoad.loadOne_eq
    exact sameEffect_cons hone ih
  | traceless hname _ ih => exact (hname.sameEffect _).trans ih
  | escapes hname =>
    rw [loadAll_of_escape hname.loadOne_eq, loadAll_of_escape hname.loadOne_eq]
    exact ⟨rfl, rfl, rfl⟩

/-! ## All together -/

/-- A name for which an error is reported leaves the registry as it was just when it does not fail halfway;
otherwise there is what the operations of its registrar had made of the registry. Names come to the same as
those of them that are announced or fail halfway, and one from which an error escapes; so names that narrow
down to the same ones leave the same registry. -/
theorem failed_names_leave_performed (env : Environment) (r : Registry) :
    (∀ name, ∀ d ∈ (env.loadAll [name] r).trace.diagnostics, d.channel = .error →
      ((env.loadAll [name] r).registry = r ∧ ∀ failure r', ¬env.FailsHalfway name r failure r') ∨
        ∃ e, d = loadDiagnostic (.error e) ∧
          env.FailsHalfway name r (.reason e) (env.loadAll [name] r).registry) ∧
    (∀ names, ∃ kept, env.NarrowsTo names r kept ∧
      (env.loadAll names r).SameEffect (env.loadAll kept r)) ∧
    ∀ names names' kept, env.NarrowsTo names r kept → env.NarrowsTo names' r kept →
      (env.loadAll names r).registry = (env.loadAll names' r).registry := by
  refine ⟨?_, ?_, ?_⟩
  · intro name d hd herror
    obtain ⟨e, hreport, hfails⟩ := failsToLoad_of_reported hd herror
    rcases hfails.eq_or_failsHalfway with heq | hhalfway
    · rw [heq] at hfails
      exact .inl ⟨heq, hfails.not_failsHalfway⟩
    · exact .inr ⟨e, hreport, hhalfway⟩
  · intro names
    obtain ⟨kept, hkept⟩ := env.exists_narrowsTo names r
    exact ⟨kept, hkept, hkept.sameEffect⟩
  · intro names names' kept h h'
    exact h.sameEffect.registry.trans h'.sameEffect.registry.symm

/-- A class that registers a tag, and then puts a text where a taglet belongs. -/
def partialClass : TagletClass where
  moduleName := "lib"
  name := "Partial"
  method := .found (.ofOps [.register (.taglet (.plugin ⟨"lib.Partial", "partial", false, 0⟩)),
    .set "bad" (.plain (.text "text"))])

/-- A class that fails at once. -/
def explodingClass : TagletClass := ⟨"lib", "Exploding", .found (.fail (.legible "cannot register"))⟩

/-- A class that registers a tag and is done. -/
def wholeClass : TagletClass where
  moduleName := "lib"
  name := "Whole"
  method := .found (.ofOps [.register (.taglet (.plugin ⟨"lib.Whole", "whole", true, 0⟩))])

/-- An environment with a module that has these classes. -/
def failingEnvironment : Environment where
  entryPoints := []
  importModule := fun name =>
    if name = "lib" then .ok (.other "lib") else .error (.notFound (.legible "no module"))
  memberOf := fun _ name =>
    if name = "Partial" then .ok (.tagletClass partialClass)
    else if name = "Exploding" then .ok (.tagletClass explodingClass)
    else if name = "Whole" then .ok (.tagletClass wholeClass)
    else .error (.missing (.legible "no attribute"))

/-- A class that fails halfway leaves its taglet in the registry. -/
theorem registry_partial_ne :
    (failingEnvironment.loadAll ["lib.Partial"] Registry.standard).registry ≠ Registry.standard := by
  decide

/-- The class that fails halfway and the one that succeeds are what the registry depends on; a class that
fails at once and a name without a class may be left out, or come later. -/
theorem partial_lasts_among_failed :
    (∃ e, failingEnvironment.FailsHalfway "lib.Partial" Registry.standard (.reason e)
      (failingEnvironment.loadAll ["lib.Partial"] Registry.standard).registry) ∧
    (failingEnvironment.loadAll ["lib.Exploding", "lib.Partial", "lib.Missing", "lib.Whole"]
      Registry.standard).registry =
      (failingEnvironment.loadAll ["lib.Partial", "lib.Whole", "lib.Exploding"]
        Registry.standard).registry := by
  obtain ⟨hone, -, hsame⟩ := failed_names_leave_performed failingEnvironment Registry.standard
  obtain ⟨e, -, hhalfway⟩ :=
    (hone "lib.Partial" _ List.mem_cons_self rfl).resolve_left fun h => registry_partial_ne h.1
  refine ⟨⟨e, hhalfway⟩, hsame _ _ ["lib.Partial", "lib.Whole"] ?_ ?_⟩
  · refine .traceless (loadOne_eq_error_iff.mp rfl) (.halfway hhalfway ?_)
    exact .traceless (loadOne_eq_error_iff.mp rfl) (.announced (loadOne_eq_ok_iff.mp rfl) (.nil _))
  · refine .halfway hhalfway (.announced (loadOne_eq_ok_iff.mp rfl) ?_)
    exact .traceless (loadOne_eq_error_iff.mp rfl) (.nil _)

/-- Not every name for which an error is reported leaves the registry as it was. -/
theorem partial_leaves_entry :
    ¬∀ (env : Environment) (name : String) (r : Registry),
      (∃ d ∈ (env.loadAll [name] r).trace.diagnostics, d.channel = .error) →
        (env.loadAll [name] r).registry = r := by
  intro h
  exact registry_partial_ne (h failingEnvironment "lib.Partial" _ ⟨_, List.mem_cons_self, rfl⟩)

end Environment

end DocletPreflight
