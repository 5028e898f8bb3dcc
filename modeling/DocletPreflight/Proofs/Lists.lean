import Mathlib.Data.List.Forall2

/-!
# Lists

What is needed of lists in more than one place: two lists side by side, lists of results, lists that are
joined, lists in which one item is changed, and lists of values under names.
-/

set_option autoImplicit false

namespace DocletPreflight

variable {α β γ : Type}

/-! ## Lists side by side -/

section

variable {R : α → β → Prop} {xs : List α} {ys : List β}

/-- Of lists related one by one, an item of the first has its partner at the same place. -/
theorem exists_getElem?_of_forall₂ (h : List.Forall₂ R xs ys) {i : Nat} {x : α}
    (hx : xs[i]? = some x) : ∃ y, ys[i]? = some y ∧ R x y := by
  obtain ⟨hi, rfl⟩ := List.getElem?_eq_some_iff.mp hx
  have hi' : i < ys.length := h.length_eq ▸ hi
  exact ⟨ys[i], List.getElem?_eq_getElem hi', h.get hi hi'⟩

/-- Of lists related one by one, each item of the first has a partner in the second. -/
theorem exists_right_of_mem (h : List.Forall₂ R xs ys) {x : α} (hx : x ∈ xs) : ∃ y ∈ ys, R x y := by
  obtain ⟨i, hi⟩ := List.mem_iff_getElem?.mp hx
  obtain ⟨y, hy, hxy⟩ := exists_getElem?_of_forall₂ h hi
  exact ⟨y, List.mem_of_getElem? hy, hxy⟩

/-- Of lists related one by one, each item of the second has a partner in the first. -/
theorem exists_left_of_mem (h : List.Forall₂ R xs ys) {y : β} (hy : y ∈ ys) : ∃ x ∈ xs, R x y :=
  exists_right_of_mem h.flip hy

end

/-! ## Results of what may fail -/

/-- Two steps succeed when the first does and the second does on its result. -/
theorem bind_eq_ok {ε : Type} {x : Except ε α} {f : α → Except ε β} {b : β} (h : x >>= f = .ok b) :
    ∃ a, x = .ok a ∧ f a = .ok b := by
  cases x with
  | error e => cases h
  | ok a => exact ⟨a, rfl, h⟩

/-- The results of a function that may fail, beside what they are the results of. -/
theorem eq_ok_of_mem_zip {ε : Type} {f : α → Except ε β} {xs : List α} {ys : List β}
    (h : xs.mapM f = .ok ys) {x : α} {y : β} (hmem : (x, y) ∈ xs.zip ys) : f x = .ok y := by
  induction xs generalizing ys with
  | nil => simp at hmem
  | cons first xs ih =>
    rw [List.mapM_cons] at h
    obtain ⟨result, hfirst, h⟩ := bind_eq_ok h
    obtain ⟨results, hrest, h⟩ := bind_eq_ok h
    cases h
    rcases List.mem_cons.mp hmem with heq | hmem
    · obtain ⟨rfl, rfl⟩ := Prod.mk.inj heq
      exact hfirst
    · exact ih hrest hmem

/-! ## Lists joined -/

/-- What is in joined lists is in one of them or in the separator. -/
theorem mem_of_mem_intercalate {sep : List α} {ps : List (List α)} {a : α} (h : a ∈ sep.intercalate ps) :
    a ∈ sep ∨ ∃ p ∈ ps, a ∈ p := by
  induction ps with
  | nil => simp at h
  | cons p ps ih =>
    cases ps with
    | nil => exact .inr ⟨p, by simp, by simpa using h⟩
    | cons q ps =>
      rw [List.intercalate_cons_cons, List.mem_append, List.mem_append] at h
      rcases h with (h | h) | h
      · exact .inr ⟨p, by simp, h⟩
      · exact .inl h
      · exact (ih h).imp_right fun ⟨r, hr, ha⟩ => ⟨r, by simp [hr], ha⟩

/-- What is in one of the lists is in all of them joined. -/
theorem mem_intercalate_of_mem {p : List α} {ps : List (List α)} (sep : List α) (hp : p ∈ ps) {a : α}
    (ha : a ∈ p) : a ∈ sep.intercalate ps := by
  induction ps with
  | nil => simp at hp
  | cons q ps ih =>
    cases ps with
    | nil =>
      obtain rfl : p = q := by simpa using hp
      simpa using ha
    | cons r ps =>
      rw [List.intercalate_cons_cons, List.mem_append, List.mem_append]
      rcases List.mem_cons.mp hp with rfl | hp
      · exact .inl (.inl ha)
      · exact .inr (ih hp)

/-! ## One item changed -/

/-- Changing the item behind a beginning leaves the beginning and the rest. -/
theorem modify_append_length (f : α → α) (before : List α) (a : α) (rest : List α) :
    (before ++ a :: rest).modify before.length f = before ++ f a :: rest :=
  List.modifyTailIdx_add (List.modifyHead f) 0 before (a :: rest)

/-- What is true of all items stays true when one is changed by what keeps it. -/
theorem forall_mem_modify {p : α → Prop} {f : α → α} {xs : List α} (h : ∀ a ∈ xs, p a)
    (hf : ∀ a ∈ xs, p (f a)) (i : Nat) : ∀ a ∈ xs.modify i f, p a := by
  intro a ha
  obtain ⟨j, hj⟩ := List.mem_iff_getElem?.mp ha
  rw [List.getElem?_modify] at hj
  obtain ⟨b, hb, rfl⟩ := Option.map_eq_some_iff.mp hj
  have hmem := List.mem_of_getElem? hb
  split
  · exact hf b hmem
  · exact h b hmem

/-- What a change leaves alone is the same for all items. -/
theorem map_modify_of_eq {f : α → α} {g : α → β} (h : ∀ a, g (f a) = g a) (xs : List α) (i : Nat) :
    (xs.modify i f).map g = xs.map g := by
  refine List.ext_getElem (by simp) fun n hn hn' => ?_
  rw [List.getElem_map, List.getElem_map, List.getElem_modify]
  split
  · exact h _
  · rfl

/-- Lists related one by one stay so when an item is changed by what keeps the relation. -/
theorem forall₂_modify_left {R : α → β → Prop} {f : α → α} (hf : ∀ a b, R a b → R (f a) b)
    {xs : List α} {ys : List β} (h : List.Forall₂ R xs ys) (i : Nat) :
    List.Forall₂ R (xs.modify i f) ys := by
  induction h generalizing i with
  | nil => simp
  | cons hab hrest ih =>
    cases i with
    | zero => exact .cons (hf _ _ hab) hrest
    | succ i => exact .cons hab (ih i)

/-- A change of an item of the second list is one of the result at the same place. -/
theorem zipWith_modify_right {f : α → β → γ} {g : β → β} {g' : γ → γ}
    (h : ∀ a b, f a (g b) = g' (f a b)) (xs : List α) (ys : List β) (i : Nat) :
    List.zipWith f xs (ys.modify i g) = (List.zipWith f xs ys).modify i g' := by
  induction ys generalizing xs i with
  | nil => cases i <;> simp
  | cons b ys ih =>
    cases xs with
    | nil => cases i <;> simp
    | cons a xs =>
      cases i with
      | zero => simp [h]
      | succ i => simp [ih]

/-! ## Values under names -/

/-- Taking out what stands under one name leaves what stands under another. -/
theorem lookup_filter_ne {name other : String} (h : other ≠ name) (entries : List (String × α)) :
    (entries.filter (·.1 ≠ name)).lookup other = entries.lookup other := by
  induction entries with
  | nil => rfl
  | cons entry rest ih =>
    obtain ⟨own, a⟩ := entry
    by_cases hown : own = name
    · have hother : (other == own) = false := by simpa [hown] using h
      rw [List.filter_cons_of_neg (by simpa using hown), List.lookup_cons, hother, ih]
    · rw [List.filter_cons_of_pos (by simpa using hown), List.lookup_cons, List.lookup_cons, ih]

end DocletPreflight
