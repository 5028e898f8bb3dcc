import DocletPreflight.Configuration
import DocletPreflight.Proofs.Loading.Accounting
import DocletPreflight.Proofs.Registry.Moves

/-!
# The registry of a configuration

A frozen registry stays as it is whatever is done to it, since both moves that touch its entries are
closed to it (`eq_of_moves_of_frozen`). What an operation answers depends on whether it has to write:
`Registry.Writes` says which operations do, and under which key first. On a frozen registry those are
refused for this key (`perform_of_writes`), and the others do not notice (`perform_of_not_writes`). A
taglet class meets the same refusal when it registers itself, and unless it makes something else of it,
the loader reports it. `taglets_never_change` says all of this of the registry of a configuration.
-/

set_option autoImplicit false

namespace DocletPreflight

namespace Registry

variable {offered : String → Taglet → Prop}

/-- No move changes a frozen registry. -/
theorem Move.eq_of_frozen {r r' : Registry} (h : Move offered r r') (hfrozen : r.frozen = true) :
    r' = r := by
  cases h with
  | put hfree => rw [hfree] at hfrozen; cases hfrozen
  | drop hfree => rw [hfree] at hfrozen; cases hfrozen
  | freeze =>
    cases r
    cases hfrozen
    rfl

/-- Moves one after another do not change a frozen registry. -/
theorem eq_of_moves_of_frozen {r r' : Registry} (h : Moves offered r r') (hfrozen : r.frozen = true) :
    r' = r := by
  induction h with
  | refl => rfl
  | tail _ hmove ih =>
    subst ih
    exact hmove.eq_of_frozen hfrozen

/-! ## Operations that write -/

/-- An operation has to write to a registry, and under this key first. -/
inductive Writes (r : Registry) : Op → String → Prop where
  | register {offer : Offer} {key : String} (hkey : offer.key? = some key) :
      Writes r (.register offer) key
  | set (key : String) (offer : Offer) : Writes r (.set key offer) key
  | delete (key : String) : Writes r (.delete key) key
  | update (key : String) (offer : Offer) (rest : List (String × Offer)) :
      Writes r (.update ((key, offer) :: rest)) key
  | pop {key : String} (hkey : key ∈ r.keys) (default : Option Offer) :
      Writes r (.pop key default) key
  | popFirst {key : String} {rest : List String} (hkeys : r.keys = key :: rest) :
      Writes r .popFirst key
  | clear {key : String} {rest : List String} (hkeys : r.keys = key :: rest) : Writes r .clear key
  | setDefault {key : String} (hkey : key ∉ r.keys) (default : Offer) :
      Writes r (.setDefault key default) key

/-- An operation that has to write to a frozen registry fails for the key that it would write first. -/
theorem perform_of_writes {r : Registry} (hfrozen : r.frozen = true) {op : Op} {key : String}
    (h : Writes r op key) : perform op r = (.error (.frozen key), r) := by
  cases h with
  | @register offer key hkey =>
    rw [perform, register_of_key? hkey]
    exact mapAnswer_of_eq (set_of_frozen hfrozen key offer) _
  | set key offer => exact mapAnswer_of_eq (set_of_frozen hfrozen key offer) _
  | delete key => exact mapAnswer_of_eq (delete_of_frozen hfrozen key) _
  | update key offer rest => exact mapAnswer_of_eq (update_of_frozen hfrozen key offer rest) _
  | pop hkey default =>
    obtain ⟨t, hget⟩ := mem_keys_iff.mp hkey
    have hpop := pop_of_some hget default
    rw [if_pos hfrozen] at hpop
    exact mapAnswer_of_eq hpop _
  | popFirst hkeys =>
    obtain ⟨t, hget⟩ := exists_get?_of_cons hkeys
    have hpop := popFirst_of_cons hkeys hget
    rw [if_pos hfrozen] at hpop
    exact mapAnswer_of_eq hpop _
  | clear hkeys => exact mapAnswer_of_eq (clear_of_frozen hfrozen hkeys) _
  | setDefault hkey default =>
    have hset := setDefault_of_none (not_mem_keys_iff.mp hkey) default
    rw [set_of_frozen hfrozen] at hset
    exact mapAnswer_of_eq hset _

/-! ## Operations that do not write -/

/-- A registry with its entries, frozen or not. -/
def withFrozen (frozen : Bool) (r : Registry) : Registry := { r with frozen }

/-- An operation that has nothing to write answers alike on a registry that is frozen and on one that
is not, and leaves either as it is. Only freezing changes a registry without writing. -/
theorem perform_of_not_writes {r : Registry} {op : Op} (h : ∀ key, ¬Writes r op key)
    (hop : op ≠ .freeze) : ∃ outcome, ∀ frozen,
      perform op (r.withFrozen frozen) = (outcome, r.withFrozen frozen) := by
  cases op with
  | register offer =>
    cases hkey : offer.key? with
    | some key => exact absurd (.register hkey) (h key)
    | none =>
      refine ⟨.error (.keyless offer.typeName), fun frozen => ?_⟩
      rw [perform, register_of_keyless hkey]
      rfl
  | set key offer => exact absurd (.set key offer) (h key)
  | delete key => exact absurd (.delete key) (h key)
  | freeze => exact absurd rfl hop
  | clear =>
    cases hkeys : r.keys with
    | cons key rest => exact absurd (.clear hkeys) (h key)
    | nil =>
      refine ⟨.ok .done, fun frozen => ?_⟩
      exact mapAnswer_of_eq (clear_of_nil (r := r.withFrozen frozen) hkeys) _
  | update pairs =>
    cases pairs with
    | nil => exact ⟨_, fun _ => rfl⟩
    | cons pair rest => exact absurd (.update pair.1 pair.2 rest) (h pair.1)
  | item key =>
    cases hget : r.get? key with
    | none =>
      refine ⟨.error (.missing key), fun frozen => ?_⟩
      exact mapAnswer_of_eq (item_of_none (r := r.withFrozen frozen) hget) _
    | some t =>
      refine ⟨.ok (.value (.taglet t)), fun frozen => ?_⟩
      exact mapAnswer_of_eq (item_of_some (r := r.withFrozen frozen) hget) _
  | lookup key => exact ⟨.ok (.value ((r.get? key).elim .nothing .taglet)), fun _ => rfl⟩
  | getOr key default =>
    refine ⟨.ok (.value ((r.get? key).elim default .taglet)), fun frozen => ?_⟩
    exact mapAnswer_of_eq (getOr_eq key default _) _
  | pop key default =>
    have hget := not_mem_keys_iff.mp fun hkey => h key (.pop hkey default)
    cases default with
    | none =>
      refine ⟨.error (.missing key), fun frozen => ?_⟩
      exact mapAnswer_of_eq (pop_of_none (r := r.withFrozen frozen) hget none) _
    | some offer =>
      refine ⟨.ok (.value offer), fun frozen => ?_⟩
      exact mapAnswer_of_eq (pop_of_none (r := r.withFrozen frozen) hget (some offer)) _
  | setDefault key default =>
    have hkey : key ∈ r.keys := by
      by_contra hkey
      exact h key (.setDefault hkey default)
    obtain ⟨t, hget⟩ := mem_keys_iff.mp hkey
    refine ⟨.ok (.value (.taglet t)), fun frozen => ?_⟩
    exact mapAnswer_of_eq (setDefault_of_some (r := r.withFrozen frozen) hget default) _
  | popFirst =>
    cases hkeys : r.keys with
    | cons key rest => exact absurd (.popFirst hkeys) (h key)
    | nil =>
      refine ⟨.error .empty, fun frozen => ?_⟩
      exact mapAnswer_of_eq (popFirst_of_nil (r := r.withFrozen frozen) hkeys) _

end Registry

/-! ## Taglet classes that meet a refusal -/

/-- Registering on a registry, a class comes to perform an operation, and goes on from its outcome. The
last registry is the one that the operation meets. -/
inductive Registrar.Reaches :
    Registrar → Registry → Registry.Op → (Outcome → Registrar) → Registry → Prop where
  | here (op : Registry.Op) (next : Outcome → Registrar) (r : Registry) :
      Reaches (perform op next) r op next r
  | look {next : Registry → Registrar} {r r' : Registry} {op : Registry.Op}
      {later : Outcome → Registrar} (h : Reaches (next r) r op later r') :
      Reaches (look next) r op later r'
  | perform {first op : Registry.Op} {next later : Outcome → Registrar} {r r' : Registry}
      (h : Reaches (next (Registry.perform first r).1) (Registry.perform first r).2 op later r') :
      Reaches (perform first next) r op later r'

/-- A run that comes to an operation ends as it goes on from the outcome. -/
theorem Registrar.Reaches.run_eq {registrar : Registrar} {r r' : Registry} {op : Registry.Op}
    {next : Outcome → Registrar} (h : registrar.Reaches r op next r') :
    registrar.run r = (next (Registry.perform op r').1).run (Registry.perform op r').2 := by
  induction h with
  | here => rfl
  | look _ ih => exact ih
  | perform _ ih => exact ih

/-- Up to each of its operations, a class has only moved the registry. -/
theorem Registrar.Reaches.moves {registrar : Registrar} {r r' : Registry} {op : Registry.Op}
    {next : Outcome → Registrar} (h : registrar.Reaches r op next r') :
    Registry.Moves Registry.anything r r' := by
  induction h with
  | here => exact .refl
  | look _ ih => exact ih
  | perform _ ih => exact (Registry.perform_moves _ _).toAnything.trans ih

/-- A class that comes to a write on a frozen registry goes on from the refusal. -/
theorem Registrar.Reaches.run_of_frozen {registrar : Registrar} {r r' : Registry} {op : Registry.Op}
    {next : Outcome → Registrar} (h : registrar.Reaches r op next r') (hfrozen : r.frozen = true)
    {key : String} (hwrites : r.Writes op key) :
    registrar.run r = (next (.error (.frozen key))).run r := by
  obtain rfl := Registry.eq_of_moves_of_frozen h.moves hfrozen
  rw [h.run_eq, Registry.perform_of_writes hfrozen hwrites]

namespace Environment

/-- A class whose registrar fails with an error that has a text is not loaded. -/
theorem loadOne_of_run_error {env : Environment} {name text : String} {cls : TagletClass}
    {registrar : Registrar} {r r' : Registry} (hcls : env.tagletClass name = .ok cls)
    (hmethod : cls.method = .found registrar) (hrun : registrar.run r = (.error (.legible text), r')) :
    env.loadOne name r = (.error (.reason (.registerFailed cls.qualifiedName text)), r') := by
  simp only [loadOne, hcls, TagletClass.register, hmethod, hrun]
  rfl

/-- On a frozen registry, a name that fails is reported after any names from which no error escapes. -/
theorem mem_diagnostics_of_frozen {env : Environment} {r : Registry} (hfrozen : r.frozen = true)
    {before : List String} {loaded : List TagletClass} (hbefore : (env.loadAll before r).loaded = .ok loaded)
    {name : String} {e : LoadError} (hone : env.loadOne name r = (.error (.reason e), r))
    (after : List String) :
    loadDiagnostic (.error e) ∈ (env.loadAll (before ++ name :: after) r).trace.diagnostics := by
  have hsame : (env.loadAll before r).registry = r :=
    Registry.eq_of_moves_of_frozen (env.loadAll_moves before r) hfrozen
  have hreason : env.loadOne name r = (Except.mapError LoadFailure.reason (.error e), r) := hone
  rw [loadAll_append_of_ok hbefore, hsame, Trace.diagnostics_append, diagnostics_loadAll env (name :: after),
    outcomes_of_outcome hreason]
  exact List.mem_append_right _ List.mem_cons_self

end Environment

/-! ## The registry of a configuration -/

namespace Configuration

/-- Whatever is done to the registry of a configuration, by any operations and by loading any classes,
leaves its keys, their order, their taglets and the freeze as they are. An operation that has to write is
refused for the key that it would write under first. One that has not answers as it would if the registry
were not frozen, where it changes nothing either. A class that comes to such a write goes on from the
refusal; and if it lets the refusal through, the loader reports it wherever the class is named, unless an
error has escaped from the names before it. -/
theorem taglets_never_change (c : Configuration) :
    (∀ steps, Registry.applyAll steps c.taglets = c.taglets) ∧
    (∀ op key, c.taglets.Writes op key →
      Registry.perform op c.taglets = (.error (.frozen key), c.taglets)) ∧
    (∀ op, (∀ key, ¬c.taglets.Writes op key) → op ≠ .freeze →
      (Registry.perform op c.taglets).1 = (Registry.perform op (c.taglets.withFrozen false)).1 ∧
      (Registry.perform op (c.taglets.withFrozen false)).2 = c.taglets.withFrozen false) ∧
    ∀ (env : Environment) (name : String) (cls : TagletClass) (registrar : Registrar)
      (op : Registry.Op) (next : Outcome → Registrar) (r : Registry) (key : String),
      env.tagletClass name = .ok cls → cls.method = .found registrar →
      registrar.Reaches c.taglets op next r → c.taglets.Writes op key →
      registrar.run c.taglets = (next (.error (.frozen key))).run c.taglets ∧
      (next (.error (.frozen key)) = .fail (.legible (RegistryError.frozen key).message) →
        ∀ before after loaded, (env.loadAll before c.taglets).loaded = .ok loaded →
          loadDiagnostic (.error (.registerFailed cls.qualifiedName (RegistryError.frozen key).message))
            ∈ (env.loadAll (before ++ name :: after) c.taglets).trace.diagnostics) := by
  have hfrozen := c.taglets_frozen
  refine ⟨?_, ?_, ?_, ?_⟩
  · intro steps
    exact Registry.eq_of_moves_of_frozen (Registry.applyAll_moves steps c.taglets) hfrozen
  · intro op key hwrites
    exact Registry.perform_of_writes hfrozen hwrites
  · intro op hwrites hop
    obtain ⟨outcome, hperform⟩ := Registry.perform_of_not_writes hwrites hop
    have hself : c.taglets.withFrozen true = c.taglets := by rw [Registry.withFrozen, ← hfrozen]
    have hsealed := hperform true
    rw [hself] at hsealed
    rw [hsealed, hperform false]
    exact ⟨rfl, rfl⟩
  · intro env name cls registrar op next r key hcls hmethod hreaches hwrites
    have hrun := hreaches.run_of_frozen hfrozen hwrites
    refine ⟨hrun, fun hthrough before after loaded hbefore => ?_⟩
    rw [hthrough] at hrun
    have hone := Environment.loadOne_of_run_error hcls hmethod hrun
    exact Environment.mem_diagnostics_of_frozen hfrozen hbefore hone after

/-- The configuration of the standard tags. -/
def standard : Configuration :=
  .make (.parse "out") false false defaultEncoding defaultFileName .none .standard

/-- A class that takes a standard tag out when it registers. -/
def seeRemover : TagletClass := ⟨"plugins", "SeeRemover", .found (.ofOps [.item "see", .delete "see"])⟩

/-- An environment in which every name is that of the class. -/
def seeRemoverEnvironment : Environment :=
  ⟨[], fun _ => .ok (.other "plugins"), fun _ _ => .ok (.tagletClass seeRemover)⟩

/-- The standard tags stay, and the class is reported. -/
theorem standard_never_changes :
    Registry.applyAll [.operate (.delete "see"), .operate .clear,
      .load seeRemoverEnvironment ["plugins.SeeRemover"]] standard.taglets = standard.taglets ∧
    Registry.perform (.delete "see") standard.taglets = (.error (.frozen "see"), standard.taglets) ∧
    (Registry.perform (.update []) standard.taglets).1 =
      (Registry.perform (.update []) (standard.taglets.withFrozen false)).1 ∧
    .error ("'-taglet' option reported error - :plugins.SeeRemover.register failed: " ++
        "Cannot change taglet 'see': registry is frozen") ∈
      (seeRemoverEnvironment.loadAll ["plugins.SeeRemover"] standard.taglets).trace.diagnostics := by
  obtain ⟨hsteps, hwrites, hreads, hclass⟩ := taglets_never_change standard
  have hupdate : ∀ key, ¬standard.taglets.Writes (.update []) key := by
    intro key h
    cases h
  refine ⟨hsteps _, hwrites _ _ (.delete "see"), (hreads _ hupdate (by simp)).1, ?_⟩
  exact (hclass seeRemoverEnvironment "plugins.SeeRemover" seeRemover
    (.ofOps [.item "see", .delete "see"]) (.delete "see") _ standard.taglets "see" rfl rfl
    (.perform (.here _ _ _)) (.delete "see")).2 rfl [] [] [] rfl

end Configuration

end DocletPreflight
