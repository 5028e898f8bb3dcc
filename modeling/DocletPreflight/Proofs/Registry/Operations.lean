import DocletPreflight.Taglet.Registry
import Mathlib.Tactic.Common

/-!
# What the operations of a registry come to

The operations of a registry are made of one another. Here each of them is said in one go, in terms of
the keys, of what is found under them, and of whether the registry is frozen. An operation that writes
comes down to one `put` or `drop`, and is refused on a frozen registry before anything has changed;
clearing takes every key out (`clear_of_free`).
-/

set_option autoImplicit false

namespace DocletPreflight.Registry

/-! ## Keys and what is found under them -/

/-- A key is found among entries when it is the key of one of them. -/
theorem isSome_lookup_iff (entries : List (String × Taglet)) (key : String) :
    (entries.lookup key).isSome = true ↔ key ∈ entries.map (·.1) := by
  induction entries with
  | nil => simp
  | cons entry rest ih =>
    obtain ⟨k, t⟩ := entry
    by_cases h : key = k
    · simp [h]
    · have hb : (key == k) = false := beq_eq_false_iff_ne.mpr h
      simp [List.lookup_cons, hb, h, ih]

/-- A registry contains just the keys it lists. -/
@[simp]
theorem contains_iff_mem_keys {r : Registry} {key : String} :
    r.contains key = true ↔ key ∈ r.keys :=
  isSome_lookup_iff r.entries key

/-- A key that is present has a taglet. -/
theorem mem_keys_iff {r : Registry} {key : String} : key ∈ r.keys ↔ ∃ t, r.get? key = some t := by
  rw [← contains_iff_mem_keys, contains, Option.isSome_iff_exists]

/-- A key is missing just when nothing is found under it. -/
theorem not_mem_keys_iff {r : Registry} {key : String} : key ∉ r.keys ↔ r.get? key = none := by
  rw [← contains_iff_mem_keys, contains, Option.not_isSome_iff_eq_none]

/-- A key under which something is found is there. -/
theorem mem_keys_of_get? {r : Registry} {key : String} {t : Taglet} (h : r.get? key = some t) :
    key ∈ r.keys :=
  mem_keys_iff.mpr ⟨t, h⟩

/-! ## Reading -/

/-- After a first edit that succeeds, the second goes on from its answer and its registry. -/
theorem andThen_of_ok {α β : Type} {first : Edit α} {r r' : Registry} {a : α}
    (h : first r = (.ok a, r')) (second : α → Edit β) : andThen first second r = second a r' := by
  rw [andThen, h]

/-- An edit whose answer is put in other words. -/
theorem andThen_answer {α β : Type} (edit : Edit α) (f : α → β) (r : Registry) :
    andThen edit (fun a => answer (f a)) r = ((edit r).1.map f, (edit r).2) := by
  unfold andThen
  split <;> next heq => rw [heq]; rfl

/-- Turning an answer into another leaves the registry of the edit. -/
theorem mapAnswer_eq {α : Type} (f : α → Answer) (edit : Edit α) (r : Registry) :
    mapAnswer f edit r = ((edit r).1.map f, (edit r).2) :=
  andThen_answer edit f r

/-- An edit with a known outcome has that outcome turned. -/
theorem mapAnswer_of_eq {α : Type} {edit : Edit α} {r r' : Registry} {outcome : Except RegistryError α}
    (h : edit r = (outcome, r')) (f : α → Answer) : mapAnswer f edit r = (outcome.map f, r') := by
  rw [mapAnswer_eq, h]

/-- Asking for an item answers with what is found. -/
theorem item_of_some {r : Registry} {key : String} {t : Taglet} (h : r.get? key = some t) :
    item key r = (.ok t, r) := by
  rw [item, h]

/-- Asking for an item that is missing fails for its key. -/
theorem item_of_none {r : Registry} {key : String} (h : r.get? key = none) :
    item key r = (.error (.missing key), r) := by
  rw [item, h]

/-- A look-up with a default answers with what is found, or else with the default. -/
theorem getOr_eq (key : String) (default : Offer) (r : Registry) :
    getOr key default r = (.ok ((r.get? key).elim default .taglet), r) := by
  cases h : r.get? key with
  | none => rw [getOr, item_of_none h]; rfl
  | some t => rw [getOr, item_of_some h]; rfl

/-! ## Writing -/

/-- Setting a taglet puts it in place unless the registry is frozen. -/
theorem set_taglet (key : String) (t : Taglet) (r : Registry) :
    set key (.taglet t) r =
      if r.frozen then (.error (.frozen key), r) else (.ok (), r.put key t) := rfl

/-- Setting what is no taglet fails, for that or because the registry is frozen. -/
theorem set_of_not_taglet {offer : Offer} (h : offer.taglet? = none) (key : String) (r : Registry) :
    set key offer r =
      if r.frozen then (.error (.frozen key), r) else (.error (.notTaglet key offer), r) := by
  cases offer with
  | taglet t => cases h
  | definition d => rfl
  | plain v => rfl
  | keyed typeName shownKey shown => rfl

/-- What has a key is registered as it is set under this key. -/
theorem register_of_key? {offer : Offer} {key : String} (h : offer.key? = some key) :
    register offer = set key offer := by
  unfold register
  rw [h]

/-- What has no key is refused, whether the registry is frozen or not. -/
theorem register_of_keyless {offer : Offer} (h : offer.key? = none) :
    register offer = failWith (.keyless offer.typeName) := by
  unfold register
  rw [h]

/-- Setting an item of a frozen registry fails for its key. -/
theorem set_of_frozen {r : Registry} (h : r.frozen = true) (key : String) (offer : Offer) :
    set key offer r = (.error (.frozen key), r) := by
  unfold set
  rw [if_pos h]

/-- An update of a frozen registry fails at its first pair. -/
theorem update_of_frozen {r : Registry} (h : r.frozen = true) (key : String) (offer : Offer)
    (rest : List (String × Offer)) :
    update ((key, offer) :: rest) r = (.error (.frozen key), r) := by
  rw [update, andThen, set_of_frozen h]

/-- Deleting an item takes it out unless the registry is frozen. -/
theorem delete_of_mem {r : Registry} {key : String} (h : key ∈ r.keys) :
    delete key r = if r.frozen then (.error (.frozen key), r) else (.ok (), r.drop key) := by
  rw [delete, if_pos (contains_iff_mem_keys.mpr h)]

/-- Deleting a missing item fails, for that or because the registry is frozen. -/
theorem delete_of_not_mem {r : Registry} {key : String} (h : key ∉ r.keys) :
    delete key r = if r.frozen then (.error (.frozen key), r) else (.error (.missing key), r) := by
  rw [delete, if_neg (mt contains_iff_mem_keys.mp h)]

/-- Deleting an item of a frozen registry fails for its key. -/
theorem delete_of_frozen {r : Registry} (h : r.frozen = true) (key : String) :
    delete key r = (.error (.frozen key), r) := by
  rw [delete, if_pos h]

/-- Taking a key out that is present. -/
theorem pop_of_some {r : Registry} {key : String} {t : Taglet} (h : r.get? key = some t)
    (default : Option Offer) :
    pop key default r =
      if r.frozen then (.error (.frozen key), r) else (.ok (.taglet t), r.drop key) := by
  rw [pop, item_of_some h]
  simp only [andThen_answer, delete_of_mem (mem_keys_of_get? h)]
  split <;> rfl

/-- Taking a missing item out answers with the default, or else fails for the key. -/
theorem pop_of_none {r : Registry} {key : String} (h : r.get? key = none) (default : Option Offer) :
    pop key default r = (default.elim (.error (.missing key)) .ok, r) := by
  rw [pop, item_of_none h]
  cases default <;> rfl

/-- Setting a default answers with what is there already. -/
theorem setDefault_of_some {r : Registry} {key : String} {t : Taglet} (h : r.get? key = some t)
    (default : Offer) : setDefault key default r = (.ok (.taglet t), r) := by
  rw [setDefault, item_of_some h]

/-- Setting a default under a missing key sets it and answers with it. -/
theorem setDefault_of_none {r : Registry} {key : String} (h : r.get? key = none) (default : Offer) :
    setDefault key default r =
      ((set key default r).1.map fun _ => default, (set key default r).2) := by
  rw [setDefault, item_of_none h]
  exact andThen_answer (set key default) (fun _ => default) r

/-- There is no first item to take out of an empty registry. -/
theorem popFirst_of_nil {r : Registry} (h : r.keys = []) : popFirst r = (.error .empty, r) := by
  rw [popFirst, h]

/-- Taking the first item out answers with it unless the registry is frozen. -/
theorem popFirst_of_cons {r : Registry} {key : String} {rest : List String} {t : Taglet}
    (hkeys : r.keys = key :: rest) (hget : r.get? key = some t) :
    popFirst r = if r.frozen then (.error (.frozen key), r) else (.ok (key, t), r.drop key) := by
  rw [popFirst, hkeys]
  simp only [andThen_of_ok (item_of_some hget), andThen_answer,
    delete_of_mem (mem_keys_of_get? hget)]
  split <;> rfl

/-- The first key has a taglet. -/
theorem exists_get?_of_cons {r : Registry} {key : String} {rest : List String}
    (h : r.keys = key :: rest) : ∃ t, r.get? key = some t :=
  mem_keys_iff.mp (by rw [h]; exact List.mem_cons_self)

/-! ## Clearing -/

/-- Clearing goes on behind the first item. -/
theorem clear_of_popFirst {r r' : Registry} {entry : String × Taglet}
    (h : popFirst r = (.ok entry, r')) : clear r = clear r' := by
  rw [clear]
  split <;> simp_all

/-- An empty registry is cleared already. -/
theorem clear_of_nil {r : Registry} (h : r.keys = []) : clear r = (.ok (), r) := by
  have hpop := popFirst_of_nil h
  rw [clear]
  split <;> simp_all

/-- Clearing a frozen registry fails for its first key. -/
theorem clear_of_frozen {r : Registry} (hfrozen : r.frozen = true) {key : String}
    {rest : List String} (hkeys : r.keys = key :: rest) : clear r = (.error (.frozen key), r) := by
  obtain ⟨t, hget⟩ := exists_get?_of_cons hkeys
  have hpop := popFirst_of_cons hkeys hget
  rw [if_pos hfrozen] at hpop
  rw [clear]
  split <;> simp_all

/-- Clearing a registry that is not frozen comes to an end, with nothing left. -/
theorem clear_of_free {r : Registry} (h : r.frozen = false) : clear r = (.ok (), Registry.empty) := by
  -- on the size, since the registry that is left is no part of the one before
  induction hsize : r.size using Nat.strongRecOn generalizing r with
  | ind n ih =>
    cases hkeys : r.keys with
    | nil =>
      rw [clear_of_nil hkeys]
      have hentries : r.entries = [] := List.map_eq_nil_iff.mp hkeys
      cases r
      cases h
      cases hentries
      rfl
    | cons key rest =>
      obtain ⟨t, hget⟩ := exists_get?_of_cons hkeys
      have hpop := popFirst_of_cons hkeys hget
      rw [h, if_neg Bool.false_ne_true] at hpop
      rw [clear_of_popFirst hpop]
      exact ih _ (hsize ▸ size_of_popFirst hpop) h rfl

/-- Clearing leaves nothing unless the registry is frozen. -/
theorem clear_of_cons {r : Registry} {key : String} {rest : List String}
    (h : r.keys = key :: rest) :
    clear r = if r.frozen then (.error (.frozen key), r) else (.ok (), Registry.empty) := by
  split
  next hfrozen => exact clear_of_frozen hfrozen h
  next hfree => exact clear_of_free (by simpa using hfree)

end DocletPreflight.Registry
