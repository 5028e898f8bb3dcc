import DocletPreflight.Proofs.Registry.Operations
import DocletPreflight.Taglet.Loading
import Mathlib.Logic.Relation

/-!
# How a registry changes

However many operations there are, a registry only ever changes by three moves: a taglet is put under a
key, a key that is present is taken out, and the registry is frozen; and the first two are made on a
registry that is not frozen yet (`Registry.Move`). Moves say which taglets may be put under which keys:
an operation makes a number of moves in a row, be it made of other operations or not, and puts no more
than what it has offered as taglets (`perform_moves`). A taglet class that registers itself makes moves,
however it goes on after what it meets (`run_moves`), and so does the loading of classes by name
(`loadAll_moves`). What moves preserve is therefore preserved by any steps in any order
(`applyAll_moves`).
-/

set_option autoImplicit false

namespace DocletPreflight

open Relation (ReflTransGen)

namespace Registry

/-- An operation offers a taglet for a key. -/
inductive Op.Offers : Op → String → Taglet → Prop where
  | register (t : Taglet) : Offers (.register (.taglet t)) t.key t
  | set (key : String) (t : Taglet) : Offers (.set key (.taglet t)) key t
  | update {pairs : List (String × Offer)} {key : String} {t : Taglet}
      (h : (key, .taglet t) ∈ pairs) : Offers (.update pairs) key t
  | setDefault (key : String) (t : Taglet) : Offers (.setDefault key (.taglet t)) key t

/-- Any taglet is offered for any key. -/
def anything (_ : String) (_ : Taglet) : Prop := True

/-- A change of a registry, when some taglets are offered for some keys. -/
inductive Move (offered : String → Taglet → Prop) : Registry → Registry → Prop where
  | put {r : Registry} (hfree : r.frozen = false) {key : String} {t : Taglet} (h : offered key t) :
      Move offered r (r.put key t)
  | drop {r : Registry} (hfree : r.frozen = false) {key : String} (hkey : key ∈ r.keys) :
      Move offered r (r.drop key)
  | freeze (r : Registry) : Move offered r { r with frozen := true }

/-- Changes of a registry in a row. -/
abbrev Moves (offered : String → Taglet → Prop) : Registry → Registry → Prop :=
  ReflTransGen (Move offered)

/-- An edit that changes a registry by moves only, whether it answers or fails. -/
def OnlyMoves {α : Type} (offered : String → Taglet → Prop) (edit : Edit α) : Prop :=
  ∀ r, Moves offered r (edit r).2

variable {offered more : String → Taglet → Prop} {α β : Type}

/-- Moves stay moves when more taglets are offered. -/
theorem Moves.mono {r r' : Registry} (hmore : ∀ key t, offered key t → more key t)
    (h : Moves offered r r') : Moves more r r' := by
  induction h with
  | refl => exact .refl
  | tail _ hmove ih =>
    refine ih.tail ?_
    cases hmove with
    | put hfree hput => exact .put hfree (hmore _ _ hput)
    | drop hfree hkey => exact .drop hfree hkey
    | freeze => exact .freeze _

/-- An edit still makes moves only when more taglets are offered. -/
theorem OnlyMoves.mono {edit : Edit α} (h : OnlyMoves offered edit)
    (hmore : ∀ key t, offered key t → more key t) : OnlyMoves more edit :=
  fun r => (h r).mono hmore

/-! ## Operations -/

/-- An answer does not touch the registry. -/
theorem onlyMoves_answer (a : α) : OnlyMoves offered (answer a) := fun _ => .refl

/-- A failure does not touch the registry. -/
theorem onlyMoves_failWith (e : RegistryError) : OnlyMoves offered (failWith e : Edit α) :=
  fun _ => .refl

/-- Edits one after another make the moves of both. -/
theorem OnlyMoves.andThen {first : Edit α} {second : α → Edit β} (hfirst : OnlyMoves offered first)
    (hsecond : ∀ a, OnlyMoves offered (second a)) : OnlyMoves offered (andThen first second) := by
  intro r
  have hr := hfirst r
  unfold Registry.andThen
  split
  next a r' heq =>
    rw [heq] at hr
    exact hr.trans (hsecond a r')
  next e r' heq => rwa [heq] at hr

/-- An edit makes the same moves when its answer is turned into another. -/
theorem OnlyMoves.mapAnswer {edit : Edit α} (h : OnlyMoves offered edit) (f : α → Answer) :
    OnlyMoves offered (mapAnswer f edit) :=
  h.andThen fun _ => onlyMoves_answer _

/-- Asking for an item does not touch the registry. -/
theorem onlyMoves_item (key : String) : OnlyMoves offered (item key) := by
  intro r
  unfold item
  split <;> exact .refl

/-- Setting an item moves only what is offered. -/
theorem onlyMoves_set (key : String) (offer : Offer) :
    OnlyMoves (Op.set key offer).Offers (set key offer) := by
  intro r
  unfold set
  split
  · exact .refl
  next hfree =>
    split
    next t => exact .single (.put (by simpa using hfree) (.set key t))
    · exact .refl

/-- Deleting an item is a move. -/
theorem onlyMoves_delete (key : String) : OnlyMoves offered (delete key) := by
  intro r
  unfold delete
  split
  · exact .refl
  next hfree =>
    split
    next hkey => exact .single (.drop (by simpa using hfree) (contains_iff_mem_keys.mp hkey))
    · exact .refl

/-- Registering moves only what is offered. -/
theorem onlyMoves_register (offer : Offer) :
    OnlyMoves (Op.register offer).Offers (register offer) := by
  cases hkey : offer.key? with
  | none =>
    rw [register_of_keyless hkey]
    exact onlyMoves_failWith _
  | some key =>
    rw [register_of_key? hkey]
    refine (onlyMoves_set key offer).mono ?_
    rintro _ t ⟨⟩
    cases hkey
    exact .register t

/-- Freezing is a move. -/
theorem onlyMoves_freeze : OnlyMoves offered freeze := fun r => .single (.freeze r)

/-- An update moves only what is offered in its pairs. -/
theorem onlyMoves_update (pairs : List (String × Offer)) :
    OnlyMoves (Op.update pairs).Offers (update pairs) := by
  induction pairs with
  | nil => exact onlyMoves_answer ()
  | cons pair rest ih =>
    obtain ⟨key, offer⟩ := pair
    refine OnlyMoves.andThen ((onlyMoves_set key offer).mono ?_) fun _ => ih.mono ?_
    · rintro _ _ ⟨⟩
      exact .update List.mem_cons_self
    · rintro _ _ ⟨⟩
      next hmem => exact .update (List.mem_cons_of_mem _ hmem)

/-- A look-up does not touch the registry. -/
theorem onlyMoves_lookup (key : String) : OnlyMoves offered (lookup key) := fun _ => .refl

/-- A look-up with a default does not touch the registry. -/
theorem onlyMoves_getOr (key : String) (default : Offer) : OnlyMoves offered (getOr key default) := by
  intro r
  rw [getOr_eq]

/-- Taking an item out is a move at most. -/
theorem onlyMoves_pop (key : String) (default : Option Offer) :
    OnlyMoves offered (pop key default) := by
  intro r
  cases hget : r.get? key with
  | none => rw [pop_of_none hget]
  | some t =>
    rw [pop_of_some hget]
    split
    · exact .refl
    next hfree => exact .single (.drop (by simpa using hfree) (mem_keys_of_get? hget))

/-- Taking the first item out is a move at most. -/
theorem onlyMoves_popFirst : OnlyMoves offered popFirst := by
  intro r
  unfold popFirst
  split
  · exact .refl
  next key rest hkeys =>
    exact (onlyMoves_item key).andThen
      (fun _ => (onlyMoves_delete key).andThen fun _ => onlyMoves_answer _) r

/-- Clearing takes out one item after another. -/
theorem onlyMoves_clear : OnlyMoves offered clear := by
  intro r
  have hpop : Moves offered r (popFirst r).2 := onlyMoves_popFirst r
  fun_induction clear r with
  | case1 r entry r' heq ih =>
    rw [heq] at hpop
    exact hpop.trans (ih (onlyMoves_popFirst r'))
  | case2 r r' heq => rwa [heq] at hpop
  | case3 r key r' heq => rwa [heq] at hpop
  | case4 r e r' _ _ heq => rwa [heq] at hpop

/-- Setting a default moves only what is offered. -/
theorem onlyMoves_setDefault (key : String) (default : Offer) :
    OnlyMoves (Op.setDefault key default).Offers (setDefault key default) := by
  intro r
  cases hget : r.get? key with
  | none =>
    rw [setDefault_of_none hget]
    refine (onlyMoves_set key default).mono ?_ r
    rintro _ t ⟨⟩
    exact .setDefault key t
  | some t => rw [setDefault_of_some hget]

/-- Every operation changes a registry by moves only, and puts what it offers. -/
theorem perform_moves (op : Op) (r : Registry) : Moves op.Offers r (perform op r).2 := by
  cases op with
  | register offer => exact (onlyMoves_register offer).mapAnswer _ r
  | set key offer => exact (onlyMoves_set key offer).mapAnswer _ r
  | delete key => exact (onlyMoves_delete key).mapAnswer _ r
  | freeze => exact onlyMoves_freeze.mapAnswer _ r
  | clear => exact onlyMoves_clear.mapAnswer _ r
  | update pairs => exact (onlyMoves_update pairs).mapAnswer _ r
  | item key => exact (onlyMoves_item key).mapAnswer _ r
  | lookup key => exact (onlyMoves_lookup key).mapAnswer _ r
  | getOr key default => exact (onlyMoves_getOr key default).mapAnswer _ r
  | pop key default => exact (onlyMoves_pop key default).mapAnswer _ r
  | setDefault key default => exact (onlyMoves_setDefault key default).mapAnswer _ r
  | popFirst => exact onlyMoves_popFirst.mapAnswer _ r

/-- Moves with some taglets on offer are moves with any. -/
theorem Moves.toAnything {r r' : Registry} (h : Moves offered r r') : Moves anything r r' :=
  h.mono fun _ _ _ => trivial

end Registry

/-! ## Taglet classes -/

/-- A registrar changes a registry by moves only, whatever it makes of the outcomes. -/
theorem Registrar.run_moves (registrar : Registrar) (r : Registry) :
    Registry.Moves Registry.anything r (registrar.run r).2 := by
  induction registrar generalizing r with
  | done => exact .refl
  | fail e => exact .refl
  | look next ih => exact ih r r
  | perform op next ih =>
    exact (Registry.perform_moves op r).toAnything.trans
      (ih (Registry.perform op r).1 (Registry.perform op r).2)

/-- A class moves the registry while it registers itself, whether it succeeds or fails. -/
theorem TagletClass.register_moves (c : TagletClass) (r : Registry) :
    Registry.Moves Registry.anything r (c.register r).2 := by
  unfold TagletClass.register
  cases c.method with
  | missing => exact .refl
  | raises e => exact .refl
  | found registrar =>
    have hrun := registrar.run_moves r
    simp only
    split <;> next heq => rwa [heq] at hrun

namespace Environment

/-- Loading a name moves the registry, whether it succeeds or fails. -/
theorem loadOne_moves (env : Environment) (name : String) (r : Registry) :
    Registry.Moves Registry.anything r (env.loadOne name r).2 := by
  unfold loadOne
  split
  · exact .refl
  next c _ =>
    have hregister := c.register_moves r
    split <;> next heq => rwa [heq] at hregister

/-- Loading names moves the registry, even where an error escapes. -/
theorem loadAll_moves (env : Environment) (names : List String) (r : Registry) :
    Registry.Moves Registry.anything r (env.loadAll names r).registry := by
  induction names generalizing r with
  | nil => exact .refl
  | cons name rest ih =>
    have hone := env.loadOne_moves name r
    unfold loadAll
    simp only
    split
    next heq => rwa [heq] at hone
    next e r' heq =>
      rw [heq] at hone
      exact hone.trans (ih r')
    next c r' heq =>
      rw [heq] at hone
      exact hone.trans (ih r')

end Environment

/-! ## Steps -/

namespace Registry

/-- Something that is done to a registry from outside: an operation, or the loading of taglet classes
by name. -/
inductive Step where
  | operate (op : Op)
  | load (env : Environment) (names : List String)

/-- The registry after a step, whether it answers or fails. -/
def Step.apply : Step → Registry → Registry
  | operate op, r => (perform op r).2
  | load env names, r => (env.loadAll names r).registry

/-- The registry after steps in a row. -/
def applyAll (steps : List Step) (r : Registry) : Registry :=
  steps.foldl (fun r step => step.apply r) r

/-- A step in the life of a registry moves it. -/
theorem Step.apply_moves (step : Step) (r : Registry) : Moves anything r (step.apply r) := by
  cases step with
  | operate op => exact (perform_moves op r).toAnything
  | load env names => exact env.loadAll_moves names r

/-- Steps one after another move a registry. -/
theorem applyAll_moves (steps : List Step) (r : Registry) : Moves anything r (applyAll steps r) := by
  induction steps generalizing r with
  | nil => exact .refl
  | cons step rest ih => exact (step.apply_moves r).trans (ih (step.apply r))

end Registry

end DocletPreflight
