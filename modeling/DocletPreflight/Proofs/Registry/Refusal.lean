import DocletPreflight.Proofs.Registry.OrderedMap
import DocletPreflight.Proofs.Registry.Sealed

/-!
# Operations that fail

An operation fails because the registry is frozen, because what it is offered is no taglet or has no key to
be registered under, or because a key is missing. `Registry.Refuses` says which operation fails for which of
these on which registry. Those that set at most one key fail for these reasons only (`refuses_of_perform`),
and then nothing has happened (`perform_of_refuses`). An update sets its pairs one by one, so what it has
set before a pair is refused stays set, and what comes after that pair is not looked at
(`perform_update_of_error`). `registry_left_by_error` puts these together.
-/

set_option autoImplicit false

namespace DocletPreflight.Registry

/-- An operation fails on a registry, and for this reason. A frozen registry refuses whatever has to
write before anything else is looked at, except that what has no key is not registered in the first
place. -/
inductive Refuses (r : Registry) : Op → RegistryError → Prop where
  | frozen {op : Op} {key : String} (hfrozen : r.frozen = true) (hwrites : Writes r op key) :
      Refuses r op (.frozen key)
  | keyless {offer : Offer} (hkey : offer.key? = none) :
      Refuses r (.register offer) (.keyless offer.typeName)
  | register (hfree : r.frozen = false) {offer : Offer} {key : String} (hkey : offer.key? = some key)
      (hoffer : offer.taglet? = none) : Refuses r (.register offer) (.notTaglet key offer)
  | set (hfree : r.frozen = false) (key : String) {offer : Offer} (hoffer : offer.taglet? = none) :
      Refuses r (.set key offer) (.notTaglet key offer)
  | setDefault (hfree : r.frozen = false) {key : String} (hkey : key ∉ r.keys) {default : Offer}
      (hdefault : default.taglet? = none) :
      Refuses r (.setDefault key default) (.notTaglet key default)
  | delete (hfree : r.frozen = false) {key : String} (hkey : key ∉ r.keys) :
      Refuses r (.delete key) (.missing key)
  | item {key : String} (hkey : key ∉ r.keys) : Refuses r (.item key) (.missing key)
  | pop {key : String} (hkey : key ∉ r.keys) : Refuses r (.pop key none) (.missing key)
  | popFirst (hkeys : r.keys = []) : Refuses r .popFirst .empty

variable {r : Registry} {op : Op} {e : RegistryError}

/-- An operation that is refused fails for that reason and leaves the registry. -/
theorem perform_of_refuses (h : Refuses r op e) : perform op r = (.error e, r) := by
  cases h with
  | frozen hfrozen hwrites => exact perform_of_writes hfrozen hwrites
  | keyless hkey =>
    rw [perform, register_of_keyless hkey]
    rfl
  | @register hfree offer key hkey hoffer =>
    have hset := set_of_not_taglet hoffer key r
    rw [hfree] at hset
    rw [perform, register_of_key? hkey]
    exact mapAnswer_of_eq hset _
  | set hfree key hoffer =>
    have hset := set_of_not_taglet hoffer key r
    rw [hfree] at hset
    exact mapAnswer_of_eq hset _
  | @setDefault hfree key hkey default hdefault =>
    have hset := set_of_not_taglet hdefault key r
    rw [hfree] at hset
    have hdefault := setDefault_of_none (not_mem_keys_iff.mp hkey) default
    rw [hset] at hdefault
    exact mapAnswer_of_eq hdefault _
  | delete hfree hkey =>
    have hdelete := delete_of_not_mem hkey
    rw [hfree] at hdelete
    exact mapAnswer_of_eq hdelete _
  | item hkey => exact mapAnswer_of_eq (item_of_none (not_mem_keys_iff.mp hkey)) _
  | pop hkey => exact mapAnswer_of_eq (pop_of_none (not_mem_keys_iff.mp hkey) none) _
  | popFirst hkeys => exact mapAnswer_of_eq (popFirst_of_nil hkeys) _

/-- An operation that is refused for a reason is refused for no other. -/
theorem Refuses.of_error {reason : RegistryError} (h : Refuses r op reason)
    (herror : (perform op r).1 = .error e) : Refuses r op e := by
  rw [perform_of_refuses h] at herror
  cases herror
  exact h

/-! ## The reasons -/

/-- What is offered is a taglet or it is none. -/
theorem exists_taglet_or (offer : Offer) : (∃ t, offer = .taglet t) ∨ offer.taglet? = none := by
  cases offer with
  | taglet t => exact .inl ⟨t, rfl⟩
  | definition d => exact .inr rfl
  | plain v => exact .inr rfl
  | keyed typeName key shown => exact .inr rfl

/-- A write to a registry that is not frozen, and that nothing else speaks against, does not fail. -/
theorem not_error_of_write {α : Type} {edit : Edit α} {key : String} {a : α} {r' : Registry}
    (hfree : r.frozen = false)
    (hedit : edit r = if r.frozen then (.error (.frozen key), r) else (.ok a, r')) (f : α → Answer) :
    (mapAnswer f edit r).1 ≠ .error e := by
  rw [hfree, if_neg Bool.false_ne_true] at hedit
  rw [mapAnswer_of_eq hedit]
  intro h
  cases h

/-- An operation that has nothing to write fails for what is missing. -/
theorem refuses_of_not_writes (hwrites : ∀ key, ¬Writes r op key) (h : (perform op r).1 = .error e) :
    Refuses r op e := by
  cases op with
  | register offer =>
    cases hkey : offer.key? with
    | some key => exact absurd (.register hkey) (hwrites key)
    | none => exact (Refuses.keyless hkey).of_error h
  | set key offer => exact absurd (.set key offer) (hwrites key)
  | delete key => exact absurd (.delete key) (hwrites key)
  | freeze => cases h
  | clear =>
    cases hkeys : r.keys with
    | nil =>
      rw [perform, mapAnswer_of_eq (clear_of_nil hkeys)] at h
      cases h
    | cons key rest => exact absurd (.clear hkeys) (hwrites key)
  | update pairs =>
    cases pairs with
    | nil => cases h
    | cons pair rest => exact absurd (.update pair.1 pair.2 rest) (hwrites pair.1)
  | item key =>
    by_cases hkey : key ∈ r.keys
    · obtain ⟨t, hget⟩ := mem_keys_iff.mp hkey
      rw [perform, mapAnswer_of_eq (item_of_some hget)] at h
      cases h
    · exact (Refuses.item hkey).of_error h
  | lookup key => cases h
  | getOr key default =>
    rw [perform, mapAnswer_of_eq (getOr_eq key default r)] at h
    cases h
  | pop key default =>
    have hkey : key ∉ r.keys := fun hkey => hwrites key (.pop hkey default)
    cases default with
    | none => exact (Refuses.pop hkey).of_error h
    | some offer =>
      rw [perform, mapAnswer_of_eq (pop_of_none (not_mem_keys_iff.mp hkey) (some offer))] at h
      cases h
  | setDefault key default =>
    have hkey : key ∈ r.keys := by
      by_contra hkey
      exact hwrites key (.setDefault hkey default)
    obtain ⟨t, hget⟩ := mem_keys_iff.mp hkey
    rw [perform, mapAnswer_of_eq (setDefault_of_some hget default)] at h
    cases h
  | popFirst =>
    cases hkeys : r.keys with
    | nil => exact (Refuses.popFirst hkeys).of_error h
    | cons key rest => exact absurd (.popFirst hkeys) (hwrites key)

/-- An operation that writes to a registry that is not frozen fails for what it is offered, or for a key
that it does not find. -/
theorem refuses_of_free (hop : ∀ pairs, op ≠ .update pairs) (hfree : r.frozen = false) {key : String}
    (hwrites : Writes r op key) (h : (perform op r).1 = .error e) : Refuses r op e := by
  cases hwrites with
  | @register offer key hkey =>
    rcases exists_taglet_or offer with ⟨t, rfl⟩ | hoffer
    · cases hkey
      exact absurd h (not_error_of_write hfree (set_taglet t.key t r) _)
    · exact (Refuses.register hfree hkey hoffer).of_error h
  | set key offer =>
    rcases exists_taglet_or offer with ⟨t, rfl⟩ | hoffer
    · exact absurd h (not_error_of_write hfree (set_taglet key t r) _)
    · exact (Refuses.set hfree key hoffer).of_error h
  | delete key =>
    by_cases hkey : key ∈ r.keys
    · exact absurd h (not_error_of_write hfree (delete_of_mem hkey) _)
    · exact (Refuses.delete hfree hkey).of_error h
  | update key offer rest => exact absurd rfl (hop _)
  | pop hkey default =>
    obtain ⟨t, hget⟩ := mem_keys_iff.mp hkey
    exact absurd h (not_error_of_write hfree (pop_of_some hget default) _)
  | popFirst hkeys =>
    obtain ⟨t, hget⟩ := exists_get?_of_cons hkeys
    exact absurd h (not_error_of_write hfree (popFirst_of_cons hkeys hget) _)
  | clear hkeys => exact absurd h (not_error_of_write hfree (clear_of_cons hkeys) _)
  | setDefault hkey default =>
    rcases exists_taglet_or default with ⟨t, rfl⟩ | hdefault
    · have hset := setDefault_of_none (not_mem_keys_iff.mp hkey) (.taglet t)
      rw [set_taglet, hfree] at hset
      rw [perform, mapAnswer_of_eq hset] at h
      cases h
    · exact (Refuses.setDefault hfree hkey hdefault).of_error h

/-- A single operation fails only where it is refused. -/
theorem refuses_of_perform (hop : ∀ pairs, op ≠ .update pairs) (h : (perform op r).1 = .error e) :
    Refuses r op e := by
  by_cases hwrites : ∃ key, Writes r op key
  · obtain ⟨key, hwrites⟩ := hwrites
    cases hfrozen : r.frozen with
    | true => exact (Refuses.frozen hfrozen hwrites).of_error h
    | false => exact refuses_of_free hop hfrozen hwrites h
  · exact refuses_of_not_writes (not_exists.mp hwrites) h

/-! ## Updates -/

/-- The operation that sets one pair of an update. -/
def Op.setPair (pair : String × Offer) : Op := .set pair.1 pair.2

/-- An update sets its first pair and goes on with the others if that succeeds. -/
theorem perform_update_cons (pair : String × Offer) (rest : List (String × Offer)) (r : Registry) :
    perform (.update (pair :: rest)) r =
      match perform (.setPair pair) r with
      | (.ok _, r') => perform (.update rest) r'
      | (.error e, r') => (.error e, r') := by
  rw [perform, mapAnswer_eq, update, andThen, Op.setPair, perform, mapAnswer_eq]
  rcases set pair.1 pair.2 r with ⟨e | a, r'⟩
  · rfl
  · exact (mapAnswer_eq _ _ _).symm

/-- Setting a pair has nothing to answer. -/
theorem eq_done_of_setPair {pair : String × Offer} {a : Answer} {r' : Registry}
    (h : perform (.setPair pair) r = (.ok a, r')) : a = .done := by
  rw [Op.setPair, perform, mapAnswer_eq] at h
  cases hset : (set pair.1 pair.2 r).1 with
  | error e =>
    rw [hset] at h
    cases h
  | ok b =>
    rw [hset] at h
    cases h
    rfl

/-- An update that fails has set the pairs before the first one that is refused. -/
theorem perform_update_of_error {pairs : List (String × Offer)}
    (h : (perform (.update pairs) r).1 = .error e) :
    ∃ before pair after, pairs = before ++ pair :: after ∧
      (runAll (before.map .setPair) r).1 = before.map (fun _ => .ok .done) ∧
      Refuses (runAll (before.map .setPair) r).2 (.setPair pair) e ∧
      (perform (.update pairs) r).2 = (runAll (before.map .setPair) r).2 := by
  -- the rest of the pairs meets the registry that the first one leaves, and fails there
  induction pairs generalizing r with
  | nil => cases h
  | cons pair rest ih =>
    rw [perform_update_cons] at h ⊢
    rcases hset : perform (.setPair pair) r with ⟨e' | a, r'⟩
    · rw [hset] at h
      cases h
      have hrefuses : Refuses r (.setPair pair) e :=
        refuses_of_perform (fun _ => Op.noConfusion) (by rw [hset])
      have hleft : r' = r := by
        rw [perform_of_refuses hrefuses] at hset
        exact (congrArg Prod.snd hset).symm
      exact ⟨[], pair, rest, rfl, rfl, hrefuses, hleft⟩
    · rw [hset] at h
      obtain ⟨before, refused, after, hpairs, hanswers, hrefuses, hleft⟩ := ih h
      have hdone := eq_done_of_setPair hset
      refine ⟨pair :: before, refused, after, by rw [hpairs]; rfl, ?_, ?_, ?_⟩
      · simp only [List.map_cons, runAll, hset, hanswers, hdone]
      · simpa only [List.map_cons, runAll, hset] using hrefuses
      · simpa only [List.map_cons, runAll, hset] using hleft

/-! ## What a failure leaves -/

/-- An operation other than an update that fails leaves the entries of a registry, their order and the
freeze as they are. An update that fails leaves what setting the pairs before the first refused one
leaves, each of which is set; that one is refused there, and nothing of it or of what comes after it is
done. -/
theorem registry_left_by_error (r : Registry) :
    (∀ op e, (∀ pairs, op ≠ .update pairs) → (perform op r).1 = .error e →
      Refuses r op e ∧ (perform op r).2 = r) ∧
    ∀ pairs e, (perform (.update pairs) r).1 = .error e →
      ∃ before pair after, pairs = before ++ pair :: after ∧
        (runAll (before.map .setPair) r).1 = before.map (fun _ => .ok .done) ∧
        (perform (.setPair pair) (runAll (before.map .setPair) r).2).1 = .error e ∧
        (perform (.update pairs) r).2 = (runAll (before.map .setPair) r).2 := by
  constructor
  · intro op e hop h
    have hrefuses := refuses_of_perform hop h
    exact ⟨hrefuses, by rw [perform_of_refuses hrefuses]⟩
  · intro pairs e h
    obtain ⟨before, pair, after, hpairs, hanswers, hrefuses, hleft⟩ := perform_update_of_error h
    exact ⟨before, pair, after, hpairs, hanswers, by rw [perform_of_refuses hrefuses], hleft⟩

/-- A custom tag, nothing at all, and another custom tag. -/
def nothingBetween : List (String × Offer) :=
  [("todo", .taglet (.custom "todo" true none none)), ("see", .nothing),
    ("review", .taglet (.custom "review" true none none))]

/-- Nothing is refused as a default, a frozen registry cannot be cleared, and an update that comes to
nothing at all has set the tag before it. -/
theorem standard_left_by_error :
    (perform (.setDefault "todo" .nothing) standard).2 = standard ∧
    (perform .clear (standard.withFrozen true)).2 = standard.withFrozen true ∧
    (perform (.update nothingBetween) standard).2.keys = standard.keys ++ ["todo"] ∧
    ∃ before pair after, nothingBetween = before ++ pair :: after ∧
      (perform (.update nothingBetween) standard).2 =
        (runAll (before.map .setPair) standard).2 := by
  have hfrozen : (standard.withFrozen true).keys = "author" :: standard.keys.tail := rfl
  have hclear : (perform .clear (standard.withFrozen true)).1 = .error (.frozen "author") := by
    rw [perform_of_writes rfl (.clear hfrozen)]
  obtain ⟨before, pair, after, hpairs, -, -, hleft⟩ :=
    (registry_left_by_error standard).2 nothingBetween (.notTaglet "see" .nothing) rfl
  refine ⟨?_, ?_, rfl, before, pair, after, hpairs, hleft⟩
  · exact ((registry_left_by_error standard).1 _ _ (fun _ => Op.noConfusion) rfl).2
  · exact ((registry_left_by_error (standard.withFrozen true)).1 _ _ (fun _ => Op.noConfusion)
      hclear).2

end DocletPreflight.Registry
