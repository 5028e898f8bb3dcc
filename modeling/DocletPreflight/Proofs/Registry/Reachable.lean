import DocletPreflight.Proofs.Registry.OrderedMap

/-!
# Registries that can come about

A registry is made of some offers, and then anything may be done to it. In every registry that comes
about in this way the keys are different from each other (`Reachable.nodup_keys`), since each move keeps
them so, and it stands for an ordered map (`Reachable.represents`). What is stored under a key was offered
for it as a taglet (`get?_perform`), and all ways to ask for a key agree (`observersAgree`).
`reachable_refines_orderedMap` puts these together.
-/

set_option autoImplicit false

namespace DocletPreflight.Registry

/-- A registry comes about: it is made of offers, and goes through steps that answer or fail. -/
inductive Reachable : Registry → Prop where
  | made {offers : List Offer} {r : Registry} (h : ofOffers offers = .ok r) : Reachable r
  | step {r : Registry} (h : Reachable r) (step : Step) : Reachable (step.apply r)

/-- Registering taglets puts each of them under its own key, one after another. -/
theorem registerAll_taglets {r : Registry} (hfree : r.frozen = false) (ts : List Taglet) :
    registerAll (ts.map .taglet) r = (.ok (), ts.foldl (fun r t => r.put t.key t) r) := by
  induction ts generalizing r with
  | nil => rfl
  | cons t rest ih =>
    have hregister : register (.taglet t) r = (.ok (), r.put t.key t) := by
      rw [register_of_key? rfl, set_taglet, hfree]
      rfl
    rw [List.map_cons, registerAll, andThen_of_ok hregister, List.foldl_cons]
    exact ih hfree

/-- The registry of some taglets is made of them, that of the standard tags among others. -/
theorem reachable_ofTaglets (ts : List Taglet) : Reachable (ofTaglets ts) := by
  have hmade : ofOffers (ts.map .taglet) = .ok (ofTaglets ts) := by
    rw [ofOffers, registerAll_taglets rfl]
    rfl
  exact .made hmade

/-- Steps lead from a registry that can come about to another. -/
theorem Reachable.applyAll {r : Registry} (h : Reachable r) (steps : List Step) :
    Reachable (applyAll steps r) := by
  induction steps generalizing r with
  | nil => exact h
  | cons step rest ih => exact ih (h.step step)

/-- Registering one after another makes moves only, even where it fails. -/
theorem onlyMoves_registerAll (offers : List Offer) : OnlyMoves anything (registerAll offers) := by
  induction offers with
  | nil => exact onlyMoves_answer ()
  | cons offer rest ih =>
    exact ((onlyMoves_register offer).mono fun _ _ _ => trivial).andThen fun _ => ih

/-- A registry that can come about does so by moves from the empty one. -/
theorem Reachable.moves {r : Registry} (h : Reachable r) : Moves anything Registry.empty r := by
  induction h with
  | @made offers r hmade =>
    have hmoves := onlyMoves_registerAll offers Registry.empty
    rw [ofOffers] at hmade
    split at hmade
    next r' heq =>
      cases hmade
      rwa [heq] at hmoves
    next => cases hmade
  | step _ step ih => exact ih.trans (step.apply_moves _)

/-! ## Keys -/

/-- After a move, no key stands twice if none did before. -/
theorem Move.nodup_keys {offered : String → Taglet → Prop} {r r' : Registry}
    (h : Move offered r r') (hr : r.keys.Nodup) : r'.keys.Nodup := by
  cases h with
  | put hfree hput =>
    rw [keys_put]
    split
    · exact hr
    next hkey => simpa using hr.concat hkey
  | drop hfree hkey =>
    rw [keys_drop]
    exact hr.filter _
  | freeze => exact hr

/-- The keys of a registry that comes about are different from each other. -/
theorem Reachable.nodup_keys {r : Registry} (h : Reachable r) : r.keys.Nodup := by
  have hmoves := h.moves
  clear h
  induction hmoves with
  | refl => exact .nil
  | tail _ hmove ih => exact hmove.nodup_keys ih

/-- The map that a registry with different keys stands for. -/
def toState (r : Registry) (h : r.keys.Nodup) : OrderedMap.State where
  map := { keys := r.keys, value := r.get?, nodup := h, mem_keys_iff := fun _ => mem_keys_iff }
  frozen := r.frozen

/-- A registry that can come about stands for a map. -/
theorem Reachable.represents {r : Registry} (h : Reachable r) :
    Represents r (r.toState h.nodup_keys) :=
  ⟨rfl, fun _ => rfl, rfl⟩

/-! ## Asking for a key -/

/-- The ways to ask a registry for a key agree with each other and with its keys. -/
structure ObserversAgree (r : Registry) (key : String) : Prop where
  contains : r.contains key = true ↔ key ∈ r.keys
  item : (∃ t, item key r = (.ok t, r)) ↔ key ∈ r.keys
  lookup : lookup key r ≠ (.ok .nothing, r) ↔ key ∈ r.keys
  getOr : getOr key .nothing r ≠ (.ok .nothing, r) ↔ key ∈ r.keys
  same : ∀ t, Registry.item key r = (.ok t, r) →
    Registry.lookup key r = (.ok (.taglet t), r) ∧
      Registry.getOr key .nothing r = (.ok (.taglet t), r)

/-- All ways to ask a registry for a key agree. -/
theorem observersAgree (r : Registry) (key : String) : ObserversAgree r key := by
  cases hget : r.get? key with
  | none =>
    have hkey : key ∉ r.keys := not_mem_keys_iff.mpr hget
    have hitem := item_of_none hget
    have hlookup : lookup key r = (.ok .nothing, r) := by rw [lookup, hget]; rfl
    have hgetOr : getOr key .nothing r = (.ok .nothing, r) := by rw [getOr_eq, hget]; rfl
    exact ⟨contains_iff_mem_keys, by simp [hitem, hkey], by simp [hlookup, hkey],
      by simp [hgetOr, hkey], by simp [hitem]⟩
  | some t =>
    have hkey : key ∈ r.keys := mem_keys_of_get? hget
    have hitem := item_of_some hget
    have hlookup : lookup key r = (.ok (.taglet t), r) := by rw [lookup, hget]; rfl
    have hgetOr : getOr key .nothing r = (.ok (.taglet t), r) := by rw [getOr_eq, hget]; rfl
    have hne :
        ((.ok (.taglet t), r) : Except RegistryError Offer × Registry) ≠ (.ok .nothing, r) := by
      simp [Offer.nothing]
    exact ⟨contains_iff_mem_keys, by simp [hitem, hkey], by simp [hlookup, hkey, hne],
      by simp [hgetOr, hkey, hne], by simp [hitem, hlookup, hgetOr]⟩

/-! ## What is stored -/

/-- What is under a key after some moves was there before, or was offered for the key. -/
theorem get?_of_moves {offered : String → Taglet → Prop} {r r' : Registry} (h : Moves offered r r')
    {key : String} {t : Taglet} (hget : r'.get? key = some t) :
    r.get? key = some t ∨ offered key t := by
  induction h with
  | refl => exact .inl hget
  | tail _ hmove ih =>
    cases hmove with
    | put hfree hput =>
      rw [get?_put] at hget
      split at hget
      next heq => exact .inr (heq ▸ Option.some.inj hget ▸ hput)
      next => exact ih hget
    | drop hfree hkey =>
      rw [get?_drop] at hget
      split at hget
      · cases hget
      · exact ih hget
    | freeze => exact ih hget

/-! ## Ordered maps -/

/-- Setting a taglet of a registry that is not frozen puts it in place. -/
theorem perform_set_taglet {r : Registry} (hfree : r.frozen = false) (key : String) (t : Taglet) :
    perform (.set key (.taglet t)) r = (.ok .done, r.put key t) := by
  have hset := set_taglet key t r
  rw [hfree] at hset
  exact mapAnswer_of_eq hset _

/-- Deleting an item of a registry that is not frozen drops its key. -/
theorem perform_delete {r : Registry} (hfree : r.frozen = false) {key : String} (h : key ∈ r.keys) :
    perform (.delete key) r = (.ok .done, r.drop key) := by
  have hdelete := delete_of_mem h
  rw [hfree] at hdelete
  exact mapAnswer_of_eq hdelete _

/-- A key that is taken out and comes again goes last. -/
theorem keys_delete_set {r : Registry} (hfree : r.frozen = false) (hnodup : r.keys.Nodup)
    {key : String} (h : key ∈ r.keys) (t : Taglet) :
    (runAll [.delete key, .set key (.taglet t)] r).2.keys = r.keys.erase key ++ [key] := by
  have hgone : key ∉ (r.drop key).keys := by
    rw [keys_drop]
    simp
  simp only [runAll, perform_delete hfree h, perform_set_taglet (r := r.drop key) hfree]
  rw [keys_put, if_neg hgone, keys_drop_of_nodup hnodup]

/-- The first key is the one that is taken out when none is named. -/
theorem perform_popFirst {r : Registry} (hfree : r.frozen = false) (hnodup : r.keys.Nodup)
    {key : String} {rest : List String} (hkeys : r.keys = key :: rest) :
    ∃ t, r.get? key = some t ∧ (perform .popFirst r).1 = .ok (.entry key t) ∧
      (perform .popFirst r).2.keys = rest := by
  obtain ⟨t, hget⟩ := exists_get?_of_cons hkeys
  have hpop := popFirst_of_cons hkeys hget
  rw [hfree] at hpop
  have hperform : perform .popFirst r = (.ok (.entry key t), r.drop key) := mapAnswer_of_eq hpop _
  refine ⟨t, hget, by rw [hperform], ?_⟩
  rw [hperform, keys_drop_of_nodup hnodup, hkeys, List.erase_cons_head]

/-- A registry that comes about is an ordered map of taglets. Its keys are different, their number is
its size, and all ways to ask for a key agree. Any operations in a row answer what they answer on the map
that it stands for, and leave what stands for the map that is left. What an operation leaves under a key
was there or was offered as a taglet. As long as the registry is not frozen, a key that is set keeps its
place or goes last, as does one that comes again; the first key is taken out when none is named; and
clearing comes to an end with nothing left. -/
theorem reachable_refines_orderedMap {r : Registry} (h : Reachable r) :
    r.keys.Nodup ∧ r.size = r.keys.length ∧ (∀ key, ObserversAgree r key) ∧
    (∃ s, Represents r s ∧ ∀ ops,
      (runAll ops r).1 = (s.runAll ops).1 ∧ Represents (runAll ops r).2 (s.runAll ops).2) ∧
    (∀ op key t, (perform op r).2.get? key = some t → r.get? key = some t ∨ op.Offers key t) ∧
    (r.frozen = false →
      (∀ key t, (perform (.set key (.taglet t)) r).1 = .ok .done ∧
        (perform (.set key (.taglet t)) r).2.keys =
          if key ∈ r.keys then r.keys else r.keys ++ [key]) ∧
      (∀ key t, key ∈ r.keys →
        (runAll [.delete key, .set key (.taglet t)] r).2.keys = r.keys.erase key ++ [key]) ∧
      (∀ key rest, r.keys = key :: rest → ∃ t, r.get? key = some t ∧
        (perform .popFirst r).1 = .ok (.entry key t) ∧ (perform .popFirst r).2.keys = rest) ∧
      perform .clear r = (.ok .done, Registry.empty)) := by
  have hnodup := h.nodup_keys
  refine ⟨hnodup, (List.length_map _).symm, observersAgree r, ?_, ?_, ?_⟩
  · exact ⟨_, h.represents, fun ops => runAll_refines ops h.represents⟩
  · intro op key t hget
    exact get?_of_moves (perform_moves op r) hget
  · intro hfree
    refine ⟨?_, ?_, ?_, ?_⟩
    · intro key t
      rw [perform_set_taglet hfree]
      exact ⟨rfl, keys_put r key t⟩
    · intro key t hkey
      exact keys_delete_set hfree hnodup hkey t
    · intro key rest hkeys
      exact perform_popFirst hfree hnodup hkeys
    · exact mapAnswer_of_eq (clear_of_free hfree) _

/-- The standard registry after a standard tag was deleted, nothing was offered for it, and a custom tag
was. -/
def customAuthor : Registry :=
  applyAll [.operate (.delete "author"), .operate (.setDefault "author" .nothing),
    .operate (.setDefault "author" (.taglet (.custom "author" true none none)))] standard

/-- Its keys are different, the custom tag is found under its key, and it can be cleared. -/
theorem customAuthor_refines :
    Reachable customAuthor ∧ customAuthor.keys.Nodup ∧ ObserversAgree customAuthor "author" ∧
      perform .clear customAuthor = (.ok .done, Registry.empty) := by
  have hreachable : Reachable customAuthor :=
    (reachable_ofTaglets Taglet.standard).applyAll _
  obtain ⟨hnodup, -, hobservers, -, -, hfree⟩ := reachable_refines_orderedMap hreachable
  exact ⟨hreachable, hnodup, hobservers "author", (hfree rfl).2.2.2⟩

end DocletPreflight.Registry
