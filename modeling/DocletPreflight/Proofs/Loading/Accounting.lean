import DocletPreflight.Proofs.Loading.Registering
import Mathlib.Data.List.Forall2

/-!
# Loading name after name

Names are loaded one after another, each into the registry that those before it leave, whatever became of
them, until an error escapes (`Environment.LoadsAll`). There is one diagnostic for each outcome
(`ReportsOutcome`), and what is answered is read off the outcomes too, so every name is accounted for, and
names that are loaded in two goes come to the same (`loadAll_accounts_for_names`). An error that escapes
ends the loading: no more names are looked at, and there is no answer. None does in an environment in order,
but one does when a class fails with an error that has no text (`mute_escapes`).
-/

set_option autoImplicit false

namespace DocletPreflight

/-- What is reported of a name: a class that was loaded by a notice of its full name, and a failure by an
error with its text. -/
inductive ReportsOutcome : Except LoadError TagletClass → Diagnostic → Prop where
  | loaded (c : TagletClass) :
      ReportsOutcome (.ok c) (.notice ("Using Taglet " ++ (c.moduleName ++ "." ++ c.name)))
  | failed (e : LoadError) :
      ReportsOutcome (.error e) (.error ("'-taglet' option reported error - :" ++ e.message))

/-- The loader reports each outcome so. -/
theorem reportsOutcome_loadDiagnostic (outcome : Except LoadError TagletClass) :
    ReportsOutcome outcome (loadDiagnostic outcome) := by
  cases outcome with
  | ok c => exact .loaded c
  | error e => exact .failed e

namespace Environment

/-- Names are loaded, or are not, one after another, until an error escapes: the outcomes until then, the
error if there is one, and the registry that is left. -/
inductive LoadsAll (env : Environment) :
    List String → Registry → List (Except LoadError TagletClass) → Option ForeignError → Registry → Prop where
  | nil (r : Registry) : LoadsAll env [] r [] none r
  | loaded {name : String} {rest : List String} {r r' last : Registry} {c : TagletClass}
      {outcomes : List (Except LoadError TagletClass)} {stop : Option ForeignError}
      (hname : env.Loads name r c r') (hrest : LoadsAll env rest r' outcomes stop last) :
      LoadsAll env (name :: rest) r (.ok c :: outcomes) stop last
  | failed {name : String} {rest : List String} {r r' last : Registry} {e : LoadError}
      {outcomes : List (Except LoadError TagletClass)} {stop : Option ForeignError}
      (hname : env.FailsToLoad name r (.reason e) r') (hrest : LoadsAll env rest r' outcomes stop last) :
      LoadsAll env (name :: rest) r (.error e :: outcomes) stop last
  | escapes {name : String} {rest : List String} {r r' : Registry} {e : ForeignError}
      (hname : env.FailsToLoad name r (.escape e) r') : LoadsAll env (name :: rest) r [] (some e) r'

/-- The outcomes of names until an error escapes, each as it meets the registry that those before it leave. -/
def outcomes (env : Environment) : List String → Registry → List (Except LoadError TagletClass)
  | [], _ => []
  | name :: rest, r =>
    match env.loadOne name r with
    | (.error (.escape _), _) => []
    | (.error (.reason e), r') => .error e :: env.outcomes rest r'
    | (.ok c, r') => .ok c :: env.outcomes rest r'

variable {env : Environment} {name : String} {names : List String} {r r' : Registry}
variable {outcome : Except LoadError TagletClass} {e : ForeignError}

/-! ## One step -/

/-- An error escapes while a name is loaded, or the name has an outcome. -/
theorem loadOne_cases (env : Environment) (name : String) (r : Registry) :
    (∃ e r', env.loadOne name r = (.error (.escape e), r')) ∨
      ∃ outcome r', env.loadOne name r = (Except.mapError LoadFailure.reason outcome, r') := by
  rcases env.loadOne name r with ⟨failure | c, r'⟩
  · cases failure with
    | reason e => exact .inr ⟨.error e, r', rfl⟩
    | escape e => exact .inl ⟨e, r', rfl⟩
  · exact .inr ⟨.ok c, r', rfl⟩

/-- An error that escapes ends the loading, and what is noted of its name is all that is left of it. -/
theorem loadAll_of_escape (h : env.loadOne name r = (.error (.escape e), r')) (rest : List String) :
    env.loadAll (name :: rest) r = ⟨.error e, env.resolutionNotes name, r'⟩ := by
  simp only [loadAll, h]

/-- A name that has an outcome comes before the rest. -/
theorem loadAll_of_outcome (h : env.loadOne name r = (Except.mapError LoadFailure.reason outcome, r'))
    (rest : List String) :
    env.loadAll (name :: rest) r =
      { loaded := (env.loadAll rest r').loaded.map (outcome.toOption.toList ++ ·)
        trace := env.resolutionNotes name ++ [.diagnostic (loadDiagnostic outcome)] ++
          (env.loadAll rest r').trace
        registry := (env.loadAll rest r').registry } := by
  cases outcome with
  | ok c => simp only [loadAll, h, Except.mapError]; rfl
  | error e =>
    simp only [loadAll, h, Except.mapError]
    cases (env.loadAll rest r').loaded <;> rfl

/-- There are no outcomes from an error that escapes on. -/
theorem outcomes_of_escape (h : env.loadOne name r = (.error (.escape e), r')) (rest : List String) :
    env.outcomes (name :: rest) r = [] := by
  simp only [outcomes, h]

/-- The outcome of a name comes before those of the rest. -/
theorem outcomes_of_outcome (h : env.loadOne name r = (Except.mapError LoadFailure.reason outcome, r'))
    (rest : List String) : env.outcomes (name :: rest) r = outcome :: env.outcomes rest r' := by
  cases outcome <;> simp only [outcomes, h, Except.mapError]

/-- What is noted of the search for a name is no diagnostic. -/
theorem diagnostics_resolutionNotes (env : Environment) (name : String) :
    Trace.diagnostics (env.resolutionNotes name) = [] := by
  unfold resolutionNotes
  split <;> rfl

/-! ## Name after name -/

/-- The diagnostics are those of the outcomes. -/
theorem diagnostics_loadAll (env : Environment) (names : List String) (r : Registry) :
    (env.loadAll names r).trace.diagnostics = (env.outcomes names r).map loadDiagnostic := by
  induction names generalizing r with
  | nil => rfl
  | cons name rest ih =>
    rcases env.loadOne_cases name r with ⟨e, r', hone⟩ | ⟨outcome, r', hone⟩
    · rw [loadAll_of_escape hone, outcomes_of_escape hone, diagnostics_resolutionNotes]
      rfl
    · rw [loadAll_of_outcome hone, outcomes_of_outcome hone, List.map_cons, ← ih, Trace.diagnostics_append,
        Trace.diagnostics_append, diagnostics_resolutionNotes]
      rfl

/-- So they report the outcomes one by one. -/
theorem forall₂_reportsOutcome (env : Environment) (names : List String) (r : Registry) :
    List.Forall₂ ReportsOutcome (env.outcomes names r) (env.loadAll names r).trace.diagnostics := by
  rw [diagnostics_loadAll, List.forall₂_map_right_iff, List.forall₂_same]
  intro outcome _
  exact reportsOutcome_loadDiagnostic outcome

/-- An outcome is that of some name, as it meets the registry that the names before it leave; no error has
escaped from these. -/
theorem exists_of_mem_outcomes (h : outcome ∈ env.outcomes names r) :
    ∃ before name after, names = before ++ name :: after ∧
      (∃ loaded, (env.loadAll before r).loaded = .ok loaded) ∧
      (env.loadOne name (env.loadAll before r).registry).1 = Except.mapError LoadFailure.reason outcome := by
  -- a name before the others only changes the registry that they meet
  induction names generalizing r with
  | nil => cases h
  | cons first rest ih =>
    rcases env.loadOne_cases first r with ⟨e, r', hone⟩ | ⟨other, r', hone⟩
    · rw [outcomes_of_escape hone] at h
      cases h
    · rw [outcomes_of_outcome hone] at h
      rcases List.mem_cons.mp h with rfl | h
      · exact ⟨[], first, rest, rfl, ⟨[], rfl⟩, congrArg Prod.fst hone⟩
      · obtain ⟨before, name, after, rfl, ⟨loaded, hloaded⟩, houtcome⟩ := ih h
        refine ⟨first :: before, name, after, rfl, ?_, ?_⟩
        · rw [loadAll_of_outcome hone, hloaded]
          exact ⟨_, rfl⟩
        · rw [loadAll_of_outcome hone, houtcome]

/-- What the names amount to: their outcomes, the registry that is left, and either the classes among the
outcomes or the error that escapes. -/
theorem exists_loadsAll (env : Environment) (names : List String) (r : Registry) :
    ∃ stop, env.LoadsAll names r (env.outcomes names r) stop (env.loadAll names r).registry ∧
      (env.loadAll names r).loaded =
        stop.elim (.ok ((env.outcomes names r).filterMap Except.toOption)) .error := by
  induction names generalizing r with
  | nil => exact ⟨none, .nil r, rfl⟩
  | cons name rest ih =>
    rcases env.loadOne_cases name r with ⟨e, r', hone⟩ | ⟨outcome, r', hone⟩
    · rw [loadAll_of_escape hone, outcomes_of_escape hone]
      exact ⟨some e, .escapes (loadOne_eq_error_iff.mp hone), rfl⟩
    · obtain ⟨stop, hrest, hloaded⟩ := ih r'
      rw [loadAll_of_outcome hone, outcomes_of_outcome hone]
      refine ⟨stop, ?_, ?_⟩
      · cases outcome with
        | ok c => exact .loaded (loadOne_eq_ok_iff.mp hone) hrest
        | error e => exact .failed (loadOne_eq_error_iff.mp hone) hrest
      · rw [hloaded]
        cases stop <;> cases outcome <;> rfl

/-- The outcomes of names, the error that escapes and the registry that is left are determined. -/
theorem LoadsAll.unique {os os' : List (Except LoadError TagletClass)} {stop stop' : Option ForeignError}
    {left left' : Registry} (h : env.LoadsAll names r os stop left)
    (h' : env.LoadsAll names r os' stop' left') : os = os' ∧ stop = stop' ∧ left = left' := by
  induction h generalizing os' with
  | nil r =>
    cases h'
    exact ⟨rfl, rfl, rfl⟩
  | loaded hname _ ih =>
    cases h' with
    | loaded hname' hrest' =>
      cases hname.loadOne_eq.symm.trans hname'.loadOne_eq
      obtain ⟨rfl, rfl, rfl⟩ := ih hrest'
      exact ⟨rfl, rfl, rfl⟩
    | failed hname' => cases hname.loadOne_eq.symm.trans hname'.loadOne_eq
    | escapes hname' => cases hname.loadOne_eq.symm.trans hname'.loadOne_eq
  | failed hname _ ih =>
    cases h' with
    | loaded hname' => cases hname.loadOne_eq.symm.trans hname'.loadOne_eq
    | failed hname' hrest' =>
      cases hname.loadOne_eq.symm.trans hname'.loadOne_eq
      obtain ⟨rfl, rfl, rfl⟩ := ih hrest'
      exact ⟨rfl, rfl, rfl⟩
    | escapes hname' => cases hname.loadOne_eq.symm.trans hname'.loadOne_eq
  | escapes hname =>
    cases h' with
    | loaded hname' => cases hname.loadOne_eq.symm.trans hname'.loadOne_eq
    | failed hname' => cases hname.loadOne_eq.symm.trans hname'.loadOne_eq
    | escapes hname' =>
      cases hname.loadOne_eq.symm.trans hname'.loadOne_eq
      exact ⟨rfl, rfl, rfl⟩

/-- Names from which no error escapes have an outcome each. -/
theorem LoadsAll.length_outcomes {os : List (Except LoadError TagletClass)} {stop : Option ForeignError}
    {left : Registry} (h : env.LoadsAll names r os stop left) (hstop : stop = none) :
    os.length = names.length := by
  induction h with
  | nil r => rfl
  | loaded _ _ ih => rw [List.length_cons, List.length_cons, ih hstop]
  | failed _ _ ih => rw [List.length_cons, List.length_cons, ih hstop]
  | escapes => cases hstop

/-- The names up to the one from which an error escapes have an outcome each. -/
theorem LoadsAll.exists_of_escape {os : List (Except LoadError TagletClass)} {stop : Option ForeignError}
    {left : Registry} (h : env.LoadsAll names r os stop left) (hstop : stop = some e) :
    ∃ before name after middle, names = before ++ name :: after ∧
      env.LoadsAll before r os none middle ∧ env.FailsToLoad name middle (.escape e) left := by
  induction h with
  | nil r => cases hstop
  | loaded hname _ ih =>
    obtain ⟨before, escaping, after, middle, rfl, hbefore, hescapes⟩ := ih hstop
    exact ⟨_ :: before, escaping, after, middle, rfl, .loaded hname hbefore, hescapes⟩
  | failed hname _ ih =>
    obtain ⟨before, escaping, after, middle, rfl, hbefore, hescapes⟩ := ih hstop
    exact ⟨_ :: before, escaping, after, middle, rfl, .failed hname hbefore, hescapes⟩
  | @escapes name rest r r' e' hname =>
    cases hstop
    exact ⟨[], name, rest, r, rfl, .nil r, hname⟩

/-! ## All names -/

/-- Outcomes are classes and failures. -/
theorem length_loaded_add_errors (outcomes : List (Except LoadError TagletClass)) :
    (outcomes.filterMap Except.toOption).length + tally .error (outcomes.map loadDiagnostic) =
      outcomes.length := by
  induction outcomes with
  | nil => rfl
  | cons outcome rest ih =>
    have hcons : tally .error ((outcome :: rest).map loadDiagnostic) =
        tally .error [loadDiagnostic outcome] + tally .error (rest.map loadDiagnostic) :=
      tally_append .error [loadDiagnostic outcome] _
    rw [List.length_cons, ← ih, hcons]
    cases outcome with
    | ok c =>
      have hone : tally .error [loadDiagnostic (.ok c)] = 0 := rfl
      rw [List.filterMap_cons_some (f := Except.toOption) rfl, List.length_cons, hone]
      omega
    | error e =>
      have hone : tally .error [loadDiagnostic (.error e)] = 1 := rfl
      rw [List.filterMap_cons_none (f := Except.toOption) rfl, hone]
      omega

/-- Where there is an answer, no error has escaped, and the answer is the classes among the outcomes. -/
theorem loadsAll_of_loaded {loaded : List TagletClass} (h : (env.loadAll names r).loaded = .ok loaded) :
    env.LoadsAll names r (env.outcomes names r) none (env.loadAll names r).registry ∧
      loaded = (env.outcomes names r).filterMap Except.toOption := by
  obtain ⟨stop, hall, hloaded⟩ := env.exists_loadsAll names r
  rw [hloaded] at h
  cases stop with
  | none => exact ⟨hall, (Except.ok.inj h).symm⟩
  | some e => cases h

/-- The classes that are answered and the errors that are reported make up the names. -/
theorem length_loaded_of_loadAll {loaded : List TagletClass}
    (h : (env.loadAll names r).loaded = .ok loaded) :
    loaded.length + tally .error (env.loadAll names r).trace.diagnostics = names.length := by
  obtain ⟨hall, rfl⟩ := loadsAll_of_loaded h
  rw [diagnostics_loadAll, length_loaded_add_errors, hall.length_outcomes rfl]

/-- An error that escapes does so from a name, after those before it were loaded or were not. -/
theorem exists_escape_of_loadAll (h : (env.loadAll names r).loaded = .error e) :
    ∃ before name after outcomes middle, names = before ++ name :: after ∧
      env.LoadsAll before r outcomes none middle ∧
      env.FailsToLoad name middle (.escape e) (env.loadAll names r).registry := by
  obtain ⟨stop, hall, hloaded⟩ := env.exists_loadsAll names r
  rw [hloaded] at h
  cases stop with
  | none => cases h
  | some e' =>
    cases h
    obtain ⟨before, name, after, middle, hsplit, hbefore, hescapes⟩ := hall.exists_of_escape rfl
    exact ⟨before, name, after, _, middle, hsplit, hbefore, hescapes⟩

/-- More names are loaded after those from which no error has escaped. -/
theorem loadAll_append_of_ok {loaded : List TagletClass} (h : (env.loadAll names r).loaded = .ok loaded)
    (more : List String) :
    env.loadAll (names ++ more) r =
      { loaded := (env.loadAll more (env.loadAll names r).registry).loaded.map (loaded ++ ·)
        trace := (env.loadAll names r).trace ++ (env.loadAll more (env.loadAll names r).registry).trace
        registry := (env.loadAll more (env.loadAll names r).registry).registry } := by
  induction names generalizing r loaded with
  | nil =>
    cases h
    simp only [loadAll, List.nil_append]
    rcases env.loadAll more r with ⟨later | later, trace, left⟩ <;> rfl
  | cons name rest ih =>
    rcases env.loadOne_cases name r with ⟨e, r', hone⟩ | ⟨outcome, r', hone⟩
    · rw [loadAll_of_escape hone] at h
      cases h
    · rw [loadAll_of_outcome hone] at h
      cases hrest : (env.loadAll rest r').loaded with
      | error e =>
        rw [hrest] at h
        cases h
      | ok others =>
        rw [hrest] at h
        rw [List.cons_append, loadAll_of_outcome hone, loadAll_of_outcome hone, ih hrest,
          ← Except.ok.inj h]
        cases (env.loadAll more (env.loadAll rest r').registry).loaded <;>
          simp only [Except.map, List.append_assoc]

/-- No more names are looked at after an error has escaped. -/
theorem loadAll_append_of_error (h : (env.loadAll names r).loaded = .error e) (more : List String) :
    env.loadAll (names ++ more) r = env.loadAll names r := by
  induction names generalizing r with
  | nil => cases h
  | cons name rest ih =>
    rw [List.cons_append]
    rcases env.loadOne_cases name r with ⟨e', r', hone⟩ | ⟨outcome, r', hone⟩
    · rw [loadAll_of_escape hone, loadAll_of_escape hone]
    · rw [loadAll_of_outcome hone] at h
      cases hrest : (env.loadAll rest r').loaded with
      | ok others =>
        rw [hrest] at h
        cases h
      | error e' =>
        rw [hrest] at h
        cases h
        rw [loadAll_of_outcome hone, loadAll_of_outcome hone, ih hrest]

/-- In an environment in order there is an answer. -/
theorem Orderly.loadAll_answers (horderly : env.Orderly) (names : List String) (r : Registry) :
    ∃ loaded, (env.loadAll names r).loaded = .ok loaded := by
  cases h : (env.loadAll names r).loaded with
  | ok loaded => exact ⟨loaded, rfl⟩
  | error e =>
    obtain ⟨_, name, _, _, middle, -, -, hescapes⟩ := exists_escape_of_loadAll h
    exact absurd hescapes (horderly.not_failsToLoad_escape name middle e _)

/-- Names have one outcome each, that of loading the name into the registry that the names before it leave,
up to the name from which an error escapes if there is one. There is one diagnostic for each outcome, in
order. The answer is the classes that were loaded, so they and the errors make up the names, and more names
may be loaded in the same go or afterwards; or it is the error, and no more names are looked at. There is no
such error when the environment is in order. -/
theorem loadAll_accounts_for_names (env : Environment) (names more : List String) (r : Registry) :
    (∃ outcomes stop,
      (∀ os s left, env.LoadsAll names r os s left ↔
        os = outcomes ∧ s = stop ∧ left = (env.loadAll names r).registry) ∧
      (stop = none → outcomes.length = names.length) ∧
      List.Forall₂ ReportsOutcome outcomes (env.loadAll names r).trace.diagnostics ∧
      (env.loadAll names r).loaded = stop.elim (.ok (outcomes.filterMap Except.toOption)) .error) ∧
    (∀ loaded, (env.loadAll names r).loaded = .ok loaded →
      loaded.length + tally .error (env.loadAll names r).trace.diagnostics = names.length ∧
      env.loadAll (names ++ more) r =
        { loaded := (env.loadAll more (env.loadAll names r).registry).loaded.map (loaded ++ ·)
          trace := (env.loadAll names r).trace ++ (env.loadAll more (env.loadAll names r).registry).trace
          registry := (env.loadAll more (env.loadAll names r).registry).registry }) ∧
    (∀ e, (env.loadAll names r).loaded = .error e →
      (∃ before name after outcomes middle, names = before ++ name :: after ∧
        env.LoadsAll before r outcomes none middle ∧
        env.FailsToLoad name middle (.escape e) (env.loadAll names r).registry) ∧
      env.loadAll (names ++ more) r = env.loadAll names r) ∧
    (env.Orderly → ∃ loaded, (env.loadAll names r).loaded = .ok loaded) := by
  refine ⟨?_, ?_, ?_, ?_⟩
  · obtain ⟨stop, hall, hloaded⟩ := env.exists_loadsAll names r
    refine ⟨env.outcomes names r, stop, fun os s left => ⟨fun h => h.unique hall, ?_⟩,
      hall.length_outcomes, forall₂_reportsOutcome env names r, hloaded⟩
    rintro ⟨rfl, rfl, rfl⟩
    exact hall
  · intro loaded h
    exact ⟨length_loaded_of_loadAll h, loadAll_append_of_ok h more⟩
  · intro e h
    exact ⟨exists_escape_of_loadAll h, loadAll_append_of_error h more⟩
  · intro horderly
    exact horderly.loadAll_answers names r

/-! ## A class that fails without a word -/

/-- An environment in which every path leads to one taglet class. -/
def sole (c : TagletClass) : Environment where
  entryPoints := []
  importModule := fun _ => .ok (.other "lib")
  memberOf := fun _ _ => .ok (.tagletClass c)

/-- Nothing else is found in it. -/
theorem eq_of_finds_sole {c : TagletClass} {object : LoadedObject} (h : (sole c).Finds name object) :
    object = .tagletClass c := by
  cases h with
  | entryPoint hentry => cases hentry
  | path _ _ _ hmember =>
    cases hmember
    rfl

/-- It is tame if the class can be asked for its method. -/
theorem tame_sole {c : TagletClass} (h : ∀ e, c.method ≠ .raises e) : (sole c).Tame where
  attributes := by
    intro object member failure hmember
    cases hmember
  objects := by
    rintro name object hfind label e rfl
    cases eq_of_finds_sole hfind
  methods := by
    intro name c' hfind
    cases eq_of_finds_sole hfind
    exact h

/-- A class that fails to register with an error whose text does not come about. -/
def muteClass : TagletClass := ⟨"lib", "Mute", .found (.fail (.illegible (.legible "no text")))⟩

/-- Its error escapes, though all that code from elsewhere does is to raise when it is asked to register. -/
theorem mute_escapes :
    ¬∀ (env : Environment) (names : List String) (r : Registry), env.Tame →
      ∃ loaded, (env.loadAll names r).loaded = .ok loaded := by
  intro h
  obtain ⟨loaded, hloaded⟩ := h (sole muteClass) ["lib.Mute"] Registry.standard (tame_sole nofun)
  have hone : (sole muteClass).loadOne "lib.Mute" Registry.standard =
      (.error (.escape (.legible "no text")), Registry.standard) := rfl
  rw [loadAll_of_escape hone] at hloaded
  cases hloaded

end Environment

end DocletPreflight
