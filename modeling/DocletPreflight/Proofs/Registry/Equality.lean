import DocletPreflight.Proofs.Registry.Reachable
import Mathlib.Data.List.Perm.Subperm

/-!
# Registries that compare equal

Two registries are compared by their sizes, and then by looking up the entries of the one in the other. When
the keys of each are different from each other, this comes to comparing what is found under every key of both,
however taglets are compared (`sameBy_iff`), and so to the same being found there (`same_iff`): neither the
order of the keys nor a freeze makes a difference.
-/

set_option autoImplicit false

namespace DocletPreflight.Registry

/-- Under a key there is the taglet that stands beside it, when no other entry has the key. -/
theorem mem_entries_iff {r : Registry} (h : r.keys.Nodup) {key : String} {t : Taglet} :
    (key, t) ∈ r.entries ↔ r.get? key = some t := by
  rw [get?, List.lookup_eq_some_iff]
  constructor
  · intro hmem
    obtain ⟨before, after, hentries⟩ := List.append_of_mem hmem
    refine ⟨before, after, hentries, ?_⟩
    intro other hother
    rw [keys, hentries, List.map_append, List.nodup_append] at h
    have hne := h.2.2 other.1 (List.mem_map_of_mem hother) key (by simp)
    simpa using hne.symm
  · rintro ⟨before, after, hentries, -⟩
    rw [hentries]
    simp

/-- Whether two registries hold, under the same keys, taglets that some comparison takes to be equal. -/
def sameBy (equal : Taglet → Taglet → Bool) (a b : Registry) : Bool :=
  a.size = b.size && a.entries.all fun entry => (b.get? entry.1).any (equal entry.2)

/-- Being the same is being the same by equality of the taglets. -/
theorem same_eq_sameBy (a b : Registry) : a.same b = a.sameBy (fun t u => t = u) b := by
  unfold same sameBy
  congr 2
  funext entry
  cases b.get? entry.1 <;> simp [eq_comm]

/-- Of related look-ups, both or neither find something. -/
theorem isSome_eq_of_rel {α β : Type} {r : α → β → Prop} {x : Option α} {y : Option β}
    (h : Option.Rel r x y) : x.isSome = y.isSome := by
  cases h <;> rfl

/-- What is related to a look-up that finds something finds something too. -/
theorem exists_of_rel_some {α β : Type} {r : α → β → Prop} {a : α} {y : Option β}
    (h : Option.Rel r (some a) y) : ∃ b, y = some b ∧ r a b := by
  cases h with
  | some h => exact ⟨_, rfl, h⟩

/-- What is related in one way is related in another if this is so of what is there. -/
theorem rel_mono {α β : Type} {r s : α → β → Prop} {x : Option α} {y : Option β}
    (hrs : ∀ a, x = some a → ∀ b, r a b → s a b) (h : Option.Rel r x y) : Option.Rel s x y := by
  cases h with
  | some h => exact .some (hrs _ rfl _ h)
  | none => exact .none

/-- A relation that is equality is equality of what may be missing. -/
theorem rel_iff_eq {α : Type} {r : α → α → Prop} (hr : ∀ a b, r a b ↔ a = b) {x y : Option α} :
    Option.Rel r x y ↔ x = y := by
  constructor
  · rintro (h | _)
    · rw [(hr _ _).mp h]
    · rfl
  · rintro rfl
    cases x with
    | none => exact .none
    | some a => exact .some ((hr a a).mpr rfl)

/-- Registries of different keys compare equal when what is found under every key of both does. -/
theorem sameBy_iff {a b : Registry} (ha : a.keys.Nodup) (hb : b.keys.Nodup)
    {equal : Taglet → Taglet → Bool} :
    a.sameBy equal b = true ↔
      ∀ key, Option.Rel (fun t u => equal t u = true) (a.get? key) (b.get? key) := by
  simp only [sameBy, Bool.and_eq_true, decide_eq_true_eq, List.all_eq_true, Option.any_eq_true]
  constructor
  · rintro ⟨hsize, hentries⟩ key
    have hfound : ∀ key t, a.get? key = some t → ∃ u, b.get? key = some u ∧ equal t u = true := by
      intro key t hget
      exact hentries (key, t) ((mem_entries_iff ha).mpr hget)
    have hsub : a.keys ⊆ b.keys := by
      intro key hkey
      obtain ⟨t, hget⟩ := mem_keys_iff.mp hkey
      obtain ⟨u, hother, -⟩ := hfound key t hget
      exact mem_keys_of_get? hother
    -- as many keys, and each of the one among those of the other, so there is no key besides
    have hlength : b.keys.length ≤ a.keys.length := by
      simpa [keys, size] using Nat.le_of_eq hsize.symm
    have hperm := (List.subperm_of_subset ha hsub).perm_of_length_le hlength
    cases hget : a.get? key with
    | some t =>
      obtain ⟨u, hother, hequal⟩ := hfound key t hget
      rw [hother]
      exact .some hequal
    | none =>
      have hkey : key ∉ b.keys := mt hperm.mem_iff.mpr (not_mem_keys_iff.mpr hget)
      rw [not_mem_keys_iff.mp hkey]
      exact .none
  · intro h
    have hperm : a.keys.Perm b.keys := by
      refine (List.perm_ext_iff_of_nodup ha hb).mpr fun key => ?_
      rw [← contains_iff_mem_keys, ← contains_iff_mem_keys, contains, contains, isSome_eq_of_rel (h key)]
    refine ⟨by simpa [keys, size] using hperm.length_eq, ?_⟩
    rintro ⟨key, t⟩ hmem
    have hrel := h key
    rw [(mem_entries_iff ha).mp hmem] at hrel
    exact exists_of_rel_some hrel

/-- Registries of different keys compare equal when the same is found under every key of both. -/
theorem same_iff {a b : Registry} (ha : a.keys.Nodup) (hb : b.keys.Nodup) :
    a.same b = true ↔ ∀ key, a.get? key = b.get? key := by
  rw [same_eq_sameBy, sameBy_iff ha hb]
  exact forall_congr' fun _ => rel_iff_eq fun t u => decide_eq_true_iff

end DocletPreflight.Registry
