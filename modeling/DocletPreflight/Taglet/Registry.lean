import DocletPreflight.Taglet.Offer
import DocletPreflight.Taglet.Standard

/-!
# The taglet registry

A registry maps keys to taglets and keeps the keys in the order in which they came. Setting a key
that is present replaces its taglet in place; a new key goes to the end. A frozen registry accepts
no change. Every operation is an `Edit`, which answers or fails and leaves a registry in either
case; the composed operations (`pop`, `popFirst`, `clear`, `setDefault`, `update`) are made of
`item`, `set` and `delete` and so refuse exactly when these do. `Registry.Op` names the operations
as values, so that runs of operations can be spoken about.
-/

set_option autoImplicit false

namespace DocletPreflight

/-- Keys and taglets in the order of the keys' arrival. -/
structure Registry where
  entries : List (String × Taglet)
  frozen : Bool
  deriving DecidableEq, Repr

/-- Why an operation on a registry fails. -/
inductive RegistryError where
  /-- The registry is frozen. -/
  | frozen (key : String)
  /-- The value offered for a key is no taglet. -/
  | notTaglet (key : String) (offer : Offer)
  /-- The value offered has no key to be registered under. -/
  | keyless (typeName : String)
  /-- There is no such key. -/
  | missing (key : String)
  /-- There is no key at all. -/
  | empty
  deriving Repr

/-- The text of a failure. -/
def RegistryError.message : RegistryError → String
  | frozen key => "Cannot change taglet '" ++ key ++ "': registry is frozen"
  | notTaglet key offer => "Cannot register " ++ offer.quoted ++ " as taglet '" ++ key ++ "'"
  | keyless typeName => "'" ++ typeName ++ "' object has no attribute 'registry_key'"
  | missing key => Text.quoted key
  | empty => ""

/-- An operation on a registry: an answer or a failure, and the registry that is left. -/
abbrev Edit (α : Type) := Registry → Except RegistryError α × Registry

namespace Registry

def get? (r : Registry) (key : String) : Option Taglet := r.entries.lookup key

def keys (r : Registry) : List String := r.entries.map (·.1)

/-- The number of keys. -/
def size (r : Registry) : Nat := r.entries.length

def contains (r : Registry) (key : String) : Bool := (r.get? key).isSome

/-- Puts a taglet under a key, in place when the key is present and at the end when it is not. -/
def putEntry (key : String) (t : Taglet) : List (String × Taglet) → List (String × Taglet)
  | [] => [(key, t)]
  | entry :: rest => if entry.1 = key then (key, t) :: rest else entry :: putEntry key t rest

def put (r : Registry) (key : String) (t : Taglet) : Registry :=
  { r with entries := putEntry key t r.entries }

def dropEntry (key : String) (entries : List (String × Taglet)) : List (String × Taglet) :=
  entries.filter fun entry => entry.1 ≠ key

def drop (r : Registry) (key : String) : Registry :=
  { r with entries := dropEntry key r.entries }

def answer {α : Type} (a : α) : Edit α := fun r => (.ok a, r)

def failWith {α : Type} (e : RegistryError) : Edit α := fun r => (.error e, r)

/-- One operation after another; the second runs on what the first left, if that one answered. -/
def andThen {α β : Type} (first : Edit α) (second : α → Edit β) : Edit β := fun r =>
  match first r with
  | (.ok a, r') => second a r'
  | (.error e, r') => (.error e, r')

def item (key : String) : Edit Taglet := fun r =>
  match r.get? key with
  | some t => (.ok t, r)
  | none => (.error (.missing key), r)

/-- Sets a key. A frozen registry refuses before it looks at the offer. -/
def set (key : String) (offer : Offer) : Edit Unit := fun r =>
  if r.frozen then (.error (.frozen key), r)
  else
    match offer with
    | .taglet t => (.ok (), r.put key t)
    | _ => (.error (.notTaglet key offer), r)

/-- Deletes a key. A frozen registry refuses before it looks for the key. -/
def delete (key : String) : Edit Unit := fun r =>
  if r.frozen then (.error (.frozen key), r)
  else if r.contains key then (.ok (), r.drop key)
  else (.error (.missing key), r)

/-- Sets what is offered under its own key. What has no key is refused, whether the registry is frozen
or not. -/
def register (offer : Offer) : Edit Unit :=
  match offer.key? with
  | some key => set key offer
  | none => failWith (.keyless offer.typeName)

/-- Makes the registry read-only. -/
def freeze : Edit Unit := fun r => (.ok (), { r with frozen := true })

/-- Sets keys one by one, up to the first refusal. -/
def update : List (String × Offer) → Edit Unit
  | [] => answer ()
  | (key, offer) :: rest => andThen (set key offer) fun _ => update rest

/-- The taglet of a key, or a default. -/
def getOr (key : String) (default : Offer) : Edit Offer := fun r =>
  match item key r with
  | (.ok t, r') => (.ok (.taglet t), r')
  | (.error _, r') => (.ok default, r')

/-- Takes a key out and answers its taglet. A missing key is a failure unless there is a default,
and needs no change. -/
def pop (key : String) (default : Option Offer) : Edit Offer := fun r =>
  match item key r with
  | (.ok t, r') => andThen (delete key) (fun _ => answer (.taglet t)) r'
  | (.error e, r') =>
    match default with
    | some offer => (.ok offer, r')
    | none => (.error e, r')

/-- Takes the first key out. -/
def popFirst : Edit (String × Taglet) := fun r =>
  match r.keys with
  | [] => (.error .empty, r)
  | key :: _ =>
    andThen (item key) (fun t => andThen (delete key) fun _ => answer (key, t)) r

/-- Dropping a key makes a registry smaller. -/
theorem size_drop_lt {r : Registry} {key : String} (h : key ∈ r.keys) :
    (r.drop key).size < r.size := by
  obtain ⟨entry, hmem, rfl⟩ := List.mem_map.mp h
  exact List.length_filter_lt_length_iff_exists.mpr ⟨entry, hmem, by simp⟩

/-- Taking the first item out makes a registry smaller. -/
theorem size_of_popFirst {r r' : Registry} {entry : String × Taglet}
    (h : popFirst r = (.ok entry, r')) : r'.size < r.size := by
  unfold popFirst at h
  cases hk : r.keys with
  | nil => simp [hk] at h
  | cons key rest =>
    have hmem : key ∈ r.keys := by simp [hk]
    simp only [hk, andThen, item, delete, answer] at h
    cases hg : r.get? key with
    | none => simp [hg] at h
    | some t =>
      cases hf : r.frozen with
      | true => simp [hg, hf] at h
      | false =>
        have hc : r.contains key = true := by simp [contains, hg]
        simp only [hg, hf, hc, Bool.false_eq_true, if_false, if_true, Prod.mk.injEq] at h
        rw [← h.2]
        exact size_drop_lt hmem

/-- Takes first keys out until there is none; that there is none ends it, and any other refusal fails
it. -/
def clear (r : Registry) : Except RegistryError Unit × Registry :=
  match _h : popFirst r with
  | (.ok _, r') => clear r'
  | (.error .empty, r') => (.ok (), r')
  | (.error (.missing _), r') => (.ok (), r')
  | (.error e, r') => (.error e, r')
termination_by r.size
decreasing_by exact size_of_popFirst _h

/-- The taglet of a key; a missing key is set to the default first, and the default is answered as
it was given. -/
def setDefault (key : String) (default : Offer) : Edit Offer := fun r =>
  match item key r with
  | (.ok t, r') => (.ok (.taglet t), r')
  | (.error _, r') => andThen (set key default) (fun _ => answer default) r'

/-- Whether the taglet of a key may stand in a place. -/
def inScope (key scope : String) : Edit Bool :=
  andThen (item key) fun t => answer (t.inScope scope)

/-- The operations as values. -/
inductive Op where
  | register (offer : Offer)
  | set (key : String) (offer : Offer)
  | delete (key : String)
  | freeze
  | clear
  | update (pairs : List (String × Offer))
  | item (key : String)
  | lookup (key : String)
  | getOr (key : String) (default : Offer)
  | pop (key : String) (default : Option Offer)
  | setDefault (key : String) (default : Offer)
  | popFirst
  deriving Repr

inductive Answer where
  | done
  | value (offer : Offer)
  | entry (key : String) (t : Taglet)
  deriving Repr

def mapAnswer {α : Type} (f : α → Answer) (edit : Edit α) : Edit Answer :=
  andThen edit fun a => answer (f a)

/-- The taglet of a key as an offer, nothing when the key is missing. -/
def lookup (key : String) : Edit Offer := fun r =>
  (.ok ((r.get? key).elim .nothing .taglet), r)

def perform : Op → Edit Answer
  | .register offer => mapAnswer (fun _ => .done) (Registry.register offer)
  | .set key offer => mapAnswer (fun _ => .done) (Registry.set key offer)
  | .delete key => mapAnswer (fun _ => .done) (Registry.delete key)
  | .freeze => mapAnswer (fun _ => .done) Registry.freeze
  | .clear => mapAnswer (fun _ => .done) Registry.clear
  | .update pairs => mapAnswer (fun _ => .done) (Registry.update pairs)
  | .item key => mapAnswer (fun t => .value (.taglet t)) (Registry.item key)
  | .lookup key => mapAnswer .value (Registry.lookup key)
  | .getOr key default => mapAnswer .value (Registry.getOr key default)
  | .pop key default => mapAnswer .value (Registry.pop key default)
  | .setDefault key default => mapAnswer .value (Registry.setDefault key default)
  | .popFirst => mapAnswer (fun entry => .entry entry.1 entry.2) Registry.popFirst

/-- The registry after operations in a row, whether they answer or fail. -/
def performAll (ops : List Op) (r : Registry) : Registry :=
  ops.foldl (fun r op => (perform op r).2) r

def empty : Registry := ⟨[], false⟩

/-- Registers offers in order, up to the first refusal. -/
def registerAll : List Offer → Edit Unit
  | [] => answer ()
  | offer :: rest => andThen (Registry.register offer) fun _ => registerAll rest

def ofOffers (offers : List Offer) : Except RegistryError Registry :=
  match registerAll offers Registry.empty with
  | (.ok _, r) => .ok r
  | (.error e, _) => .error e

/-- The registry of some taglets: each under its key, the last one of a key wins. -/
def ofTaglets (taglets : List Taglet) : Registry :=
  taglets.foldl (fun r t => r.put t.key t) Registry.empty

def standard : Registry := ofTaglets Taglet.standard

/-- Whether two registries hold equal taglets under the same keys. A taglet of a loaded class equals only
itself. -/
def same (a b : Registry) : Bool :=
  a.size = b.size && a.entries.all fun entry => b.get? entry.1 = some entry.2

/-- A registry as text: its keys in the order of their characters. -/
def quoted (r : Registry) : String :=
  let sorted := r.keys.mergeSort Text.precedes
  "TagletRegistry([" ++ String.intercalate ", " (sorted.map Text.quoted) ++ "])"

/-- The entries that differ from the standard taglet of their key, in order. -/
def changed (r : Registry) : List (String × Taglet) :=
  r.entries.filter fun entry => standard.get? entry.1 ≠ some entry.2

/-- Nothing is found in the empty registry. -/
@[simp]
theorem get?_empty (key : String) : Registry.empty.get? key = none := rfl

/-- An entry that is put in place is found under its key, and nothing else changes. -/
theorem lookup_putEntry (key other : String) (t : Taglet) (entries : List (String × Taglet)) :
    (putEntry key t entries).lookup other = if other = key then some t else entries.lookup other := by
  induction entries with
  | nil =>
    by_cases h : other = key
    · simp [putEntry, h]
    · have hb : (other == key) = false := beq_eq_false_iff_ne.mpr h
      simp [putEntry, List.lookup_cons, h, hb]
  | cons entry rest ih =>
    obtain ⟨k, u⟩ := entry
    by_cases hk : k = key
    · subst hk
      by_cases h : other = k
      · simp [putEntry, h]
      · have hb : (other == k) = false := beq_eq_false_iff_ne.mpr h
        simp [putEntry, List.lookup_cons, h, hb]
    · by_cases h : other = k
      · subst h
        simp [putEntry, hk]
      · have hb : (other == k) = false := beq_eq_false_iff_ne.mpr h
        simp [putEntry, hk, List.lookup_cons, hb, ih]

/-- Setting a key changes what is found under this key and nothing else. -/
theorem get?_put (r : Registry) (key other : String) (t : Taglet) :
    (r.put key t).get? other =
      if other = key then some t else r.get? other :=
  lookup_putEntry key other t r.entries

/-- Putting an entry in place leaves the keys, or adds its key behind them. -/
theorem keys_putEntry (key : String) (t : Taglet) (entries : List (String × Taglet)) :
    (putEntry key t entries).map (·.1) =
      if key ∈ entries.map (·.1) then entries.map (·.1) else entries.map (·.1) ++ [key] := by
  induction entries with
  | nil => simp [putEntry]
  | cons entry rest ih =>
    by_cases h : entry.1 = key
    · simp [putEntry, h]
    · by_cases hm : key ∈ rest.map (·.1)
      · simp_all [putEntry]
      · simp_all [putEntry, Ne.symm h]

end Registry

end DocletPreflight
