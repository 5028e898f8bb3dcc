import DocletPreflight.Proofs.Registry.Equality

/-!
# Registries made of taglets

A registry that taglets are put into one after another keeps the keys that it has, and after them come the
new ones as they first occur (`keys_putAll`); under each key stands the taglet that was last put there
(`get?_putAll`). A registry made of taglets is one case of this, with each of them put under its own key, so
where two have the same key the place is that of the first and the taglet is the last. From then on a
taglet stands under its own key as long as no operation names another (`performAll_ownKeys`), since nothing
comes under a key but what an operation offers for it. `made_of_last_taglets` puts these together.
-/

set_option autoImplicit false

namespace DocletPreflight

/-- The last of some taglets with a key. -/
def Taglet.lastOf? (ts : List Taglet) (key : String) : Option Taglet :=
  ts.reverse.find? fun t => t.key = key

namespace Registry

/-- An operation that puts no taglet under a key of the caller's choice. -/
inductive Op.Unkeyed : Op → Prop where
  | register (offer : Offer) : Unkeyed (.register offer)
  | delete (key : String) : Unkeyed (.delete key)
  | pop (key : String) (default : Option Offer) : Unkeyed (.pop key default)
  | popFirst : Unkeyed .popFirst
  | clear : Unkeyed .clear
  | freeze : Unkeyed .freeze

/-- Each taglet stands under its own key. -/
def OwnKeys (r : Registry) : Prop := ∀ key t, r.get? key = some t → t.key = key

/-! ## Taglets put one after another -/

/-- The registry with taglets put under keys one after another. -/
def putAll (pairs : List (String × Taglet)) (r : Registry) : Registry :=
  pairs.foldl (fun r pair => r.put pair.1 pair.2) r

/-- No pairs leave the registry. -/
@[simp]
theorem putAll_nil (r : Registry) : putAll [] r = r := rfl

/-- The first pair is put in place before the others. -/
@[simp]
theorem putAll_cons (pair : String × Taglet) (rest : List (String × Taglet)) (r : Registry) :
    putAll (pair :: rest) r = putAll rest (r.put pair.1 pair.2) := rfl

/-- New keys come behind the old ones, each of them once and where it first comes. -/
theorem keys_putAll (pairs : List (String × Taglet)) (r : Registry) :
    (putAll pairs r).keys =
      r.keys ++ ((pairs.map (·.1)).filter fun key => key ∉ r.keys).eraseDups := by
  induction pairs generalizing r with
  | nil => simp
  | cons pair rest ih =>
    obtain ⟨key, t⟩ := pair
    rw [putAll_cons, ih, keys_put]
    by_cases hkey : key ∈ r.keys
    · simp [hkey]
    · -- the rest is rid of the key by the registry on one side, and as a repetition on the other
      have hrest : (rest.map (·.1)).filter (fun other => other ∉ r.keys ++ [key]) =
          ((rest.map (·.1)).filter fun other => other ∉ r.keys).filter fun other => !other == key := by
        rw [List.filter_filter]
        refine List.filter_congr fun other _ => ?_
        by_cases heq : other = key <;> simp [heq]
      rw [if_neg hkey, hrest, List.map_cons, List.filter_cons_of_pos (by simpa using hkey),
        List.eraseDups_cons, List.append_assoc, List.singleton_append]

/-- Under each key stands what was put there last, or else what was there before. -/
theorem get?_putAll (pairs : List (String × Taglet)) (r : Registry) (key : String) :
    (putAll pairs r).get? key = (pairs.reverse.lookup key).or (r.get? key) := by
  induction pairs generalizing r with
  | nil => rfl
  | cons pair rest ih =>
    obtain ⟨other, t⟩ := pair
    rw [putAll_cons, ih, get?_put, List.reverse_cons, List.lookup_append, Option.or_assoc]
    by_cases heq : key = other
    · simp [heq]
    · have hb : (key == other) = false := beq_eq_false_iff_ne.mpr heq
      simp [heq, List.lookup_cons, hb]

/-- Putting pairs in place makes no key stand twice. -/
theorem nodup_keys_putAll (pairs : List (String × Taglet)) {r : Registry} (hfree : r.frozen = false)
    (h : r.keys.Nodup) : (putAll pairs r).keys.Nodup := by
  induction pairs generalizing r with
  | nil => exact h
  | cons pair rest ih =>
    have hput : Move anything r (r.put pair.1 pair.2) := .put hfree trivial
    exact ih hfree (hput.nodup_keys h)

/-- What is looked up among pairs that are made of some things is made of the first of these. -/
theorem lookup_map {α : Type} (key : String) (f : α → String) (g : α → Taglet) (xs : List α) :
    (xs.map fun x => (f x, g x)).lookup key = (xs.find? fun x => f x = key).map g := by
  induction xs with
  | nil => rfl
  | cons x rest ih =>
    rw [List.map_cons, List.lookup_cons, List.find?_cons, ih]
    by_cases heq : f x = key
    · simp [heq]
    · have hb : (key == f x) = false := beq_eq_false_iff_ne.mpr (Ne.symm heq)
      simp [heq, hb]

/-! ## Registries of taglets -/

/-- A registry is made of taglets without failure. -/
theorem ofOffers_taglets (ts : List Taglet) : ofOffers (ts.map .taglet) = .ok (ofTaglets ts) := by
  rw [ofOffers, registerAll_taglets rfl]
  rfl

/-- A registry made of taglets has each of them put under its own key. -/
theorem ofTaglets_eq (ts : List Taglet) :
    ofTaglets ts = putAll (ts.map fun t => (t.key, t)) Registry.empty := by
  rw [ofTaglets, putAll, List.foldl_map]

/-- A registry made of taglets has their keys, each of them once and where it first comes. -/
theorem keys_ofTaglets (ts : List Taglet) : (ofTaglets ts).keys = (ts.map Taglet.key).eraseDups := by
  have hnone : ∀ key, key ∉ Registry.empty.keys := fun key => List.not_mem_nil
  rw [ofTaglets_eq, keys_putAll, List.map_map]
  simp only [hnone, not_false_eq_true, decide_true, List.filter_true]
  rfl

/-- A registry made of taglets has the last one of each key. -/
theorem get?_ofTaglets (ts : List Taglet) (key : String) :
    (ofTaglets ts).get? key = Taglet.lastOf? ts key := by
  have hlookup : (ts.reverse.map fun t => (t.key, t)).lookup key = Taglet.lastOf? ts key := by
    simpa [Taglet.lastOf?] using lookup_map key Taglet.key id ts.reverse
  rw [ofTaglets_eq, get?_putAll, ← List.map_reverse, hlookup, get?_empty, Option.or_none]

/-- Of taglets with different keys, each stands under its own. -/
theorem get?_ofTaglets_iff {ts : List Taglet} (h : (ts.map Taglet.key).Nodup) {key : String}
    {t : Taglet} : (ofTaglets ts).get? key = some t ↔ t ∈ ts ∧ t.key = key := by
  rw [get?_ofTaglets, Taglet.lastOf?]
  constructor
  · intro hlast
    exact ⟨by simpa using List.mem_of_find?_eq_some hlast, by simpa using List.find?_some hlast⟩
  · rintro ⟨ht, rfl⟩
    cases hlast : ts.reverse.find? fun u => u.key = t.key with
    | none =>
      have hne := List.find?_eq_none.mp hlast t (List.mem_reverse.mpr ht)
      simp at hne
    | some u =>
      have hu : u ∈ ts := by simpa using List.mem_of_find?_eq_some hlast
      have hkey : u.key = t.key := by simpa using List.find?_some hlast
      rw [List.inj_on_of_nodup_map h hu ht hkey]

/-- No key stands twice in a registry made of taglets. -/
theorem nodup_keys_ofTaglets (ts : List Taglet) : (ofTaglets ts).keys.Nodup :=
  (reachable_ofTaglets ts).nodup_keys

/-! ## Own keys -/

/-- In a registry made of taglets, each stands under its own key. -/
theorem ownKeys_ofTaglets (ts : List Taglet) : (ofTaglets ts).OwnKeys := by
  intro key t hget
  rw [get?_ofTaglets] at hget
  simpa using List.find?_some hget

/-- An operation that gives no key of its own offers taglets under their own keys. -/
theorem Op.Unkeyed.key_eq {op : Op} (h : op.Unkeyed) {key : String} {t : Taglet}
    (hoffers : op.Offers key t) : t.key = key := by
  cases h <;> cases hoffers
  rfl

/-- An operation that gives no key of its own leaves each taglet under its own key. -/
theorem perform_ownKeys {r : Registry} (hr : r.OwnKeys) {op : Op} (h : op.Unkeyed) :
    (perform op r).2.OwnKeys := by
  intro key t hget
  rcases get?_of_moves (perform_moves op r) hget with hbefore | hoffers
  · exact hr key t hbefore
  · exact h.key_eq hoffers

/-- Operations that give no keys of their own leave each taglet under its own key. -/
theorem performAll_ownKeys {r : Registry} (hr : r.OwnKeys) {ops : List Op}
    (h : ∀ op ∈ ops, op.Unkeyed) : (performAll ops r).OwnKeys := by
  induction ops generalizing r with
  | nil => exact hr
  | cons op rest ih =>
    refine ih (perform_ownKeys hr (h op List.mem_cons_self)) ?_
    intro other hother
    exact h other (List.mem_cons_of_mem op hother)

/-! ## All together -/

/-- A registry made of taglets has their keys, in the order in which they first occur, and under each key
the last taglet that has it. Whatever is registered, taken out, or frozen after that, each taglet stands
under its own key, as long as no operation puts one under a key that it names. Two registries that are made
of taglets compare equal just when the last taglets of each key are the same. -/
theorem made_of_last_taglets (ts : List Taglet) :
    ∃ r, ofOffers (ts.map .taglet) = .ok r ∧ r.keys = (ts.map Taglet.key).eraseDups ∧
      (∀ key, r.get? key = Taglet.lastOf? ts key) ∧
      (∀ ops, (∀ op ∈ ops, op.Unkeyed) → (performAll ops r).OwnKeys) ∧
      ∀ us r', ofOffers (us.map .taglet) = .ok r' →
        (r.same r' = true ↔ ∀ key, Taglet.lastOf? ts key = Taglet.lastOf? us key) := by
  refine ⟨ofTaglets ts, ofOffers_taglets ts, keys_ofTaglets ts, get?_ofTaglets ts, ?_, ?_⟩
  · intro ops hops
    exact performAll_ownKeys (ownKeys_ofTaglets ts) hops
  · intro us r' hmade
    rw [ofOffers_taglets] at hmade
    cases hmade
    rw [same_iff (nodup_keys_ofTaglets ts) (nodup_keys_ofTaglets us)]
    simp only [get?_ofTaglets]

/-- A block tag whose name starts with the sign of inline tags, a custom tag, and the inline tag that has
the key of the first. -/
def sharedKey : List Taglet := [.block "@todo" .full, .custom "note" true none none, .inline "todo"]

/-- Tags of which the last ones are the same. -/
def sharedKeyLater : List Taglet :=
  [.custom "note" false (some "X") none, .custom "note" true none none, .inline "todo"]

/-- The inline tag stands in the place of the block tag, both make registries that compare equal, and a tag
that is registered after its key was taken out stands under its own key. -/
theorem sharedKey_made :
    ∃ r r', ofOffers (sharedKey.map .taglet) = .ok r ∧ ofOffers (sharedKeyLater.map .taglet) = .ok r' ∧
      r.keys = ["@todo", "note"] ∧ r.get? "@todo" = some (.inline "todo") ∧
      (performAll [.popFirst, .register (.taglet (.block "@todo" .full)), .freeze, .clear] r).OwnKeys ∧
      r.same r' = true := by
  obtain ⟨r, hmade, hkeys, hget, hown, hsame⟩ := made_of_last_taglets sharedKey
  have hmade' := ofOffers_taglets sharedKeyLater
  have hlast : ∀ key, Taglet.lastOf? sharedKey key = Taglet.lastOf? sharedKeyLater key := by
    intro key
    by_cases htodo : "@todo" = key
    · subst htodo
      rfl
    · by_cases hnote : "note" = key
      · subst hnote
        rfl
      · simp [Taglet.lastOf?, sharedKey, sharedKeyLater, Taglet.key, Taglet.isInline, Taglet.name,
          htodo, hnote]
  refine ⟨r, _, hmade, hmade', ?_, ?_, hown _ ?_, (hsame _ _ hmade').mpr hlast⟩
  · rw [hkeys]
    decide
  · rw [hget]
    rfl
  · intro op hop
    simp only [List.mem_cons, List.not_mem_nil, or_false] at hop
    rcases hop with rfl | rfl | rfl | rfl
    · exact .popFirst
    · exact .register _
    · exact .freeze
    · exact .clear

end Registry

end DocletPreflight
