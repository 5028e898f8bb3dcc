import DocletPreflight.Proofs.Lists
import DocletPreflight.Proofs.Registry.Moves
import Mathlib.Data.List.Nodup
import Mathlib.Logic.Function.Basic

/-!
# Registries as ordered maps

An `OrderedMap` is a finite map from keys to taglets whose keys stand in an order: a key keeps its place
while its taglet changes, and a key that comes new, or comes again, goes last. On a map that may be
frozen, `OrderedMap.State.perform` says of every operation what it does in one go. A registry stands for
such a map (`Represents`), and its operations, made of one another as they are, answer what the map
answers and leave what stands for the map that is left (`perform_refines`), also when they fail, and
also in any row (`runAll_refines`).
-/

set_option autoImplicit false

namespace DocletPreflight

/-- A finite map from keys to taglets, with an order of its keys. -/
structure OrderedMap where
  keys : List String
  value : String → Option Taglet
  nodup : keys.Nodup
  mem_keys_iff : ∀ key, key ∈ keys ↔ ∃ t, value key = some t

namespace OrderedMap

/-- The map with no keys. -/
def empty : OrderedMap where
  keys := []
  value := fun _ => none
  nodup := .nil
  mem_keys_iff := by simp

/-- The map with a taglet under a key. A key that is there keeps its place, and a new one goes last. -/
def insert (key : String) (t : Taglet) (m : OrderedMap) : OrderedMap where
  keys := if key ∈ m.keys then m.keys else m.keys ++ [key]
  value := Function.update m.value key (some t)
  nodup := by
    split
    · exact m.nodup
    next hkey =>
      refine List.nodup_append.mpr ⟨m.nodup, List.nodup_singleton key, ?_⟩
      intro other hother _ hlast
      rw [List.mem_singleton.mp hlast]
      exact ne_of_mem_of_not_mem hother hkey
  mem_keys_iff := by
    intro other
    by_cases heq : other = key
    · subst heq
      split <;> simp_all
    · rw [Function.update_of_ne heq, ← m.mem_keys_iff]
      split <;> simp [heq]

/-- The map without a key. -/
def erase (key : String) (m : OrderedMap) : OrderedMap where
  keys := m.keys.erase key
  value := Function.update m.value key none
  nodup := m.nodup.erase key
  mem_keys_iff := by
    intro other
    rw [m.nodup.mem_erase_iff]
    by_cases heq : other = key
    · subst heq
      simp
    · simp [heq, m.mem_keys_iff]

/-- The first key with its taglet. -/
def first? (m : OrderedMap) : Option (String × Taglet) :=
  m.keys.head?.bind fun key => (m.value key).map (key, ·)

/-- A map that may be frozen. -/
structure State where
  map : OrderedMap
  frozen : Bool

namespace State

/-- A write: it is refused for its key when the map is frozen. -/
def write (key : String) (outcome : Outcome) (after : OrderedMap) (s : State) : Outcome × State :=
  if s.frozen then (.error (.frozen key), s) else (outcome, { s with map := after })

/-- An offer is stored under a key if it is a taglet. -/
def store (key : String) (offer : Offer) (answer : Registry.Answer) (s : State) : Outcome × State :=
  match offer.taglet? with
  | some t => s.write key (.ok answer) (s.map.insert key t)
  | none => s.write key (.error (.notTaglet key offer)) s.map

/-- Offers are stored in order, up to the first that is not. -/
def storeAll : List (String × Offer) → State → Outcome × State
  | [], s => (.ok .done, s)
  | (key, offer) :: rest, s =>
    match s.store key offer .done with
    | (.ok _, s) => s.storeAll rest
    | (.error e, s) => (.error e, s)

/-- What an operation on a map answers, and the map that is left. -/
def perform (s : State) : Registry.Op → Outcome × State
  | .register offer =>
    match offer.key? with
    | some key => s.store key offer .done
    | none => (.error (.keyless offer.typeName), s)
  | .set key offer => s.store key offer .done
  | .delete key =>
    if key ∈ s.map.keys then s.write key (.ok .done) (s.map.erase key)
    else s.write key (.error (.missing key)) s.map
  | .freeze => (.ok .done, { s with frozen := true })
  | .clear =>
    match s.map.keys with
    | [] => (.ok .done, s)
    | key :: _ => s.write key (.ok .done) .empty
  | .update pairs => s.storeAll pairs
  | .item key =>
    ((s.map.value key).elim (.error (.missing key)) fun t => .ok (.value (.taglet t)), s)
  | .lookup key => (.ok (.value ((s.map.value key).elim .nothing .taglet)), s)
  | .getOr key default => (.ok (.value ((s.map.value key).elim default .taglet)), s)
  | .pop key default =>
    match s.map.value key with
    | some t => s.write key (.ok (.value (.taglet t))) (s.map.erase key)
    | none => (default.elim (.error (.missing key)) fun offer => .ok (.value offer), s)
  | .setDefault key default =>
    match s.map.value key with
    | some t => (.ok (.value (.taglet t)), s)
    | none => s.store key default (.value default)
  | .popFirst =>
    match s.map.first? with
    | some (key, t) => s.write key (.ok (.entry key t)) (s.map.erase key)
    | none => (.error .empty, s)

/-- What operations in a row answer, and the map that is left. -/
def runAll : List Registry.Op → State → List Outcome × State
  | [], s => ([], s)
  | op :: rest, s =>
    let later := runAll rest (s.perform op).2
    ((s.perform op).1 :: later.1, later.2)

end State

end OrderedMap

namespace Registry

/-- What operations in a row answer, and the registry that is left. -/
def runAll : List Op → Registry → List Outcome × Registry
  | [], r => ([], r)
  | op :: rest, r =>
    let later := runAll rest (perform op r).2
    ((perform op r).1 :: later.1, later.2)

/-! ## Putting and dropping -/

/-- Putting a taglet in place leaves the keys, or adds its key behind them. -/
theorem keys_put (r : Registry) (key : String) (t : Taglet) :
    (r.put key t).keys = if key ∈ r.keys then r.keys else r.keys ++ [key] :=
  keys_putEntry key t r.entries

/-- Dropping a key leaves all others in order. -/
theorem keys_drop (r : Registry) (key : String) :
    (r.drop key).keys = r.keys.filter fun other => other ≠ key := by
  simp only [drop, keys, dropEntry, List.filter_map]
  rfl

/-- Where no key stands twice, dropping one erases it from the keys. -/
theorem keys_drop_of_nodup {r : Registry} (h : r.keys.Nodup) (key : String) :
    (r.drop key).keys = r.keys.erase key := by
  rw [keys_drop, h.erase_eq_filter]
  refine List.filter_congr fun other _ => ?_
  by_cases heq : other = key <;> simp [heq]

/-- Taking a key out changes what is found under this key and nothing else. -/
theorem get?_drop (r : Registry) (key other : String) :
    (r.drop key).get? other = if other = key then none else r.get? other := by
  by_cases heq : other = key
  · rw [if_pos heq, ← not_mem_keys_iff, keys_drop]
    simp [heq]
  · rw [if_neg heq]
    exact lookup_filter_ne heq r.entries

/-! ## Refinement -/

/-- A registry stands for a map: both have the same keys in the same order, the same taglets under
them, and both are frozen or not. -/
structure Represents (r : Registry) (s : OrderedMap.State) : Prop where
  keys : r.keys = s.map.keys
  value : ∀ key, r.get? key = s.map.value key
  frozen : r.frozen = s.frozen

/-- The same outcome, and a registry that stands for a map. -/
def Agrees (p : Outcome × Registry) (q : Outcome × OrderedMap.State) : Prop :=
  p.1 = q.1 ∧ Represents p.2 q.2

variable {r : Registry} {s : OrderedMap.State}

/-- Putting a taglet in place is an insertion into the map. -/
theorem Represents.put (h : Represents r s) (key : String) (t : Taglet) :
    Represents (r.put key t) { s with map := s.map.insert key t } := by
  refine ⟨?_, ?_, h.frozen⟩
  · rw [keys_put, h.keys]
    rfl
  · intro other
    rw [get?_put, h.value]
    simp only [OrderedMap.insert, Function.update_apply]

/-- Dropping a key is an erasure from the map. -/
theorem Represents.drop (h : Represents r s) (key : String) :
    Represents (r.drop key) { s with map := s.map.erase key } := by
  refine ⟨?_, ?_, h.frozen⟩
  · rw [keys_drop_of_nodup (h.keys ▸ s.map.nodup), h.keys]
    rfl
  · intro other
    rw [get?_drop, h.value]
    simp only [OrderedMap.erase, Function.update_apply]

/-- A registry without entries stands for the empty map. -/
theorem Represents.clear (hfree : r.frozen = false) (h : Represents r s) :
    Represents Registry.empty { s with map := .empty } :=
  ⟨rfl, fun _ => rfl, hfree.symm.trans h.frozen⟩

/-- An edit that writes is refused, or goes through, when the write to the map is or does. -/
theorem Represents.write {α : Type} (h : Represents r s) {edit : Edit α} {key : String}
    {outcome : Except RegistryError α} {r' : Registry} {after : OrderedMap}
    (hedit : edit r = if r.frozen then (.error (.frozen key), r) else (outcome, r'))
    (hafter : r.frozen = false → Represents r' { s with map := after }) (f : α → Answer) :
    Agrees ((edit r).1.map f, (edit r).2) (s.write key (outcome.map f) after) := by
  rw [hedit, OrderedMap.State.write, h.frozen]
  split
  · exact ⟨rfl, h⟩
  next hfree => exact ⟨rfl, hafter (h.frozen.trans (by simpa using hfree))⟩

/-- A registry stores what is offered under a key when the map does. -/
theorem Represents.store (h : Represents r s) (key : String) (offer : Offer) (answer : Answer) :
    Agrees ((set key offer r).1.map fun _ => answer, (set key offer r).2)
      (s.store key offer answer) := by
  cases offer with
  | taglet t => exact h.write (set_taglet key t r) (fun _ => h.put key t) _
  | definition d => exact h.write (set_of_not_taglet rfl key r) (fun _ => h) _
  | plain v => exact h.write (set_of_not_taglet rfl key r) (fun _ => h) _
  | keyed typeName shownKey shown => exact h.write (set_of_not_taglet rfl key r) (fun _ => h) _

/-- Setting keys one by one goes on as long as the map does. -/
theorem Represents.update (pairs : List (String × Offer)) (h : Represents r s) :
    Agrees ((update pairs r).1.map fun _ => Answer.done, (update pairs r).2) (s.storeAll pairs) := by
  induction pairs generalizing r s with
  | nil => exact ⟨rfl, h⟩
  | cons pair rest ih =>
    obtain ⟨key, offer⟩ := pair
    obtain ⟨houtcome, hleft⟩ := h.store key offer .done
    rw [OrderedMap.State.storeAll, Registry.update, andThen]
    -- both sides fail or both go on, since their outcomes are the same
    rcases hset : Registry.set key offer r with ⟨e | a, r'⟩
    all_goals
      rcases hstore : s.store key offer .done with ⟨e' | a', s'⟩
      all_goals
        rw [hset, hstore] at houtcome hleft
        cases houtcome
    · exact ⟨rfl, hleft⟩
    · exact ih hleft

/-- The first item of the map is that of the registry. -/
theorem Represents.first?_eq (h : Represents r s) :
    s.map.first? = r.keys.head?.bind fun key => (r.get? key).map (key, ·) := by
  rw [OrderedMap.first?, h.keys]
  congr 1
  funext key
  rw [h.value]

/-- An operation on a registry does what it does on the map that the registry stands for. -/
theorem perform_refines (h : Represents r s) (op : Op) : Agrees (perform op r) (s.perform op) := by
  cases op with
  | register offer =>
    rw [perform, mapAnswer_eq, OrderedMap.State.perform]
    cases hkey : offer.key? with
    | some key =>
      rw [register_of_key? hkey]
      exact h.store key offer .done
    | none =>
      rw [register_of_keyless hkey]
      exact ⟨rfl, h⟩
  | set key offer =>
    rw [perform, mapAnswer_eq]
    exact h.store key offer .done
  | delete key =>
    rw [perform, mapAnswer_eq, OrderedMap.State.perform, ← h.keys]
    by_cases hkey : key ∈ r.keys
    · rw [if_pos hkey]
      exact h.write (delete_of_mem hkey) (fun _ => h.drop key) _
    · rw [if_neg hkey]
      exact h.write (delete_of_not_mem hkey) (fun _ => h) _
  | freeze => exact ⟨rfl, h.keys, h.value, rfl⟩
  | clear =>
    rw [perform, mapAnswer_eq, OrderedMap.State.perform, ← h.keys]
    cases hkeys : r.keys with
    | nil =>
      rw [clear_of_nil hkeys]
      exact ⟨rfl, h⟩
    | cons key rest => exact h.write (clear_of_cons hkeys) (fun hfree => h.clear hfree) _
  | update pairs =>
    rw [perform, mapAnswer_eq]
    exact h.update pairs
  | item key =>
    rw [perform, mapAnswer_eq, OrderedMap.State.perform, ← h.value]
    cases hget : r.get? key with
    | none => rw [item_of_none hget]; exact ⟨rfl, h⟩
    | some t => rw [item_of_some hget]; exact ⟨rfl, h⟩
  | lookup key =>
    rw [perform, mapAnswer_eq, OrderedMap.State.perform, ← h.value]
    exact ⟨rfl, h⟩
  | getOr key default =>
    rw [perform, mapAnswer_eq, OrderedMap.State.perform, ← h.value, getOr_eq]
    exact ⟨rfl, h⟩
  | pop key default =>
    rw [perform, mapAnswer_eq, OrderedMap.State.perform, ← h.value]
    cases hget : r.get? key with
    | none =>
      rw [pop_of_none hget]
      cases default <;> exact ⟨rfl, h⟩
    | some t => exact h.write (pop_of_some hget default) (fun _ => h.drop key) _
  | setDefault key default =>
    rw [perform, mapAnswer_eq, OrderedMap.State.perform, ← h.value]
    cases hget : r.get? key with
    | none =>
      have hstore := h.store key default (.value default)
      rw [setDefault_of_none hget]
      cases hset : (Registry.set key default r).1 <;> rwa [hset] at hstore
    | some t =>
      rw [setDefault_of_some hget]
      exact ⟨rfl, h⟩
  | popFirst =>
    rw [perform, mapAnswer_eq, OrderedMap.State.perform, h.first?_eq]
    cases hkeys : r.keys with
    | nil =>
      rw [popFirst_of_nil hkeys]
      exact ⟨rfl, h⟩
    | cons key rest =>
      obtain ⟨t, hget⟩ := exists_get?_of_cons hkeys
      simp only [List.head?_cons, Option.bind_some, hget, Option.map_some]
      exact h.write (popFirst_of_cons hkeys hget) (fun _ => h.drop key) _

/-- So do operations in a row, whether they answer or fail on the way. -/
theorem runAll_refines (ops : List Op) (h : Represents r s) :
    (runAll ops r).1 = (s.runAll ops).1 ∧ Represents (runAll ops r).2 (s.runAll ops).2 := by
  induction ops generalizing r s with
  | nil => exact ⟨rfl, h⟩
  | cons op rest ih =>
    obtain ⟨houtcome, hleft⟩ := perform_refines h op
    obtain ⟨houtcomes, hend⟩ := ih hleft
    rw [runAll, OrderedMap.State.runAll]
    exact ⟨by rw [houtcome, houtcomes], hend⟩

end Registry

end DocletPreflight
