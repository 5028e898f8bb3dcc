import DocletPreflight.Text.Cut
import Mathlib.Tactic.Common

/-!
# Where a text is cut

A cut is determined by what it gives: all that stands before the first separator (`fst_cutFirst`), which
holds none and gives the text with what comes after (`cutFirst_eq_iff`), the last separator before a part
that holds none (`cutLast_eq_some_iff`), and the pieces of a text as the parts without separators that give
the text when they are joined (`split_eq_iff`). None of this refers to how the text is gone through.
-/

set_option autoImplicit false

namespace DocletPreflight.Text

variable {sep : Char}

/-- What is cut off in front has no separator. -/
theorem fst_cutFirst (s : List Char) : (cutFirst sep s).1 = s.takeWhile fun c => c ≠ sep := by
  induction s with
  | nil => rfl
  | cons c rest ih =>
    by_cases hc : c = sep
    · simp [cutFirst, hc]
    · simp [cutFirst, hc, ih]

/-- A text is cut at its first separator: the part before it holds none. -/
theorem cutFirst_eq_iff {s before : List Char} {after : Option (List Char)} :
    cutFirst sep s = (before, after) ↔ sep ∉ before ∧ rejoin sep (before, after) = s := by
  constructor
  · intro h
    have hnot := not_mem_cutFirst sep s
    have hjoin := rejoin_cutFirst sep s
    rw [h] at hnot hjoin
    exact ⟨hnot, hjoin⟩
  · rintro ⟨hnot, rfl⟩
    induction before with
    | nil => cases after <;> simp [rejoin, cutFirst]
    | cons c before ih =>
      rw [List.mem_cons, not_or] at hnot
      have hrest := ih hnot.2
      cases after <;> simp_all [rejoin, cutFirst, Ne.symm hnot.1]

/-- Only a text without a separator is not cut. -/
theorem cutLast_eq_none_iff {s : List Char} : cutLast sep s = none ↔ sep ∉ s := by
  induction s with
  | nil => simp [cutLast]
  | cons c rest ih =>
    cases hrest : cutLast sep rest with
    | none =>
      have hnot := ih.mp hrest
      by_cases hc : c = sep
      · simp [cutLast, hrest, hc]
      · simp [cutLast, hrest, hc, hnot, Ne.symm hc]
    | some cut =>
      have hmem : sep ∈ rest := by
        by_contra hnot
        rw [ih.mpr hnot] at hrest
        cases hrest
      simp [cutLast, hrest, hmem]

/-- A text is cut at its last separator: the part after it holds none. -/
theorem cutLast_eq_some_iff {s before after : List Char} :
    cutLast sep s = some (before, after) ↔ s = before ++ sep :: after ∧ sep ∉ after := by
  induction s generalizing before with
  | nil => simp [cutLast]
  | cons c rest ih =>
    cases hrest : cutLast sep rest with
    | none =>
      -- there is no separator in the rest, so only the first character can be the last one
      have hnot := cutLast_eq_none_iff.mp hrest
      constructor
      · intro h
        by_cases hc : c = sep
        · have hcut : ([], rest) = (before, after) := by simpa [cutLast, hrest, hc] using h
          obtain ⟨rfl, rfl⟩ := Prod.mk.inj hcut
          exact ⟨by rw [hc, List.nil_append], hnot⟩
        · simp [cutLast, hrest, hc] at h
      · rintro ⟨heq, -⟩
        cases before with
        | nil =>
          obtain ⟨rfl, rfl⟩ := List.cons.inj heq
          simp [cutLast, hrest]
        | cons d before =>
          obtain ⟨-, rfl⟩ := List.cons.inj heq
          exact absurd (by simp) hnot
    | some cut =>
      obtain ⟨first, second⟩ := cut
      have hcut : cutLast sep (c :: rest) = some (c :: first, second) := by
        simp [cutLast, hrest]
      rw [hcut]
      constructor
      · intro h
        obtain ⟨rfl, rfl⟩ := Prod.mk.inj (Option.some.inj h)
        obtain ⟨rfl, hnot⟩ := ih.mp hrest
        exact ⟨rfl, hnot⟩
      · rintro ⟨heq, hnot⟩
        cases before with
        | nil =>
          obtain ⟨rfl, rfl⟩ := List.cons.inj heq
          rw [cutLast_eq_none_iff.mpr hnot] at hrest
          cases hrest
        | cons d before =>
          obtain ⟨rfl, rfl⟩ := List.cons.inj heq
          have hsame := hrest.symm.trans (ih.mpr ⟨rfl, hnot⟩)
          obtain ⟨rfl, rfl⟩ := Prod.mk.inj (Option.some.inj hsame)
          rfl

/-! ## Pieces -/

/-- The pieces are those between the separators. -/
theorem pieces_eq_splitOn (s : List Char) : pieces sep s = s.splitOn sep := by
  induction s with
  | nil => rw [List.splitOn_nil, pieces]
  | cons c rest ih =>
    rw [List.splitOn_cons_eq_if_modifyHead, ← ih, pieces]
    by_cases hc : c = sep
    · simp [hc]
    · cases hp : pieces sep rest with
      | nil => exact absurd hp (pieces_ne_nil sep rest)
      | cons p ps => simp [hc]

/-- No piece has a separator in it. -/
theorem not_mem_of_mem_pieces {s p : List Char} (h : p ∈ pieces sep s) : sep ∉ p := by
  induction s generalizing p with
  | nil =>
    rw [pieces, List.mem_singleton] at h
    simp [h]
  | cons c rest ih =>
    rw [pieces] at h
    by_cases hc : c = sep
    · rw [if_pos hc, List.mem_cons] at h
      rcases h with rfl | h
      · simp
      · exact ih h
    · rw [if_neg hc] at h
      cases hp : pieces sep rest with
      | nil => exact absurd hp (pieces_ne_nil sep rest)
      | cons q qs =>
        rw [hp] at h ih
        rcases List.mem_cons.mp h with rfl | h
        · simp [Ne.symm hc, ih]
        · exact ih (List.mem_cons_of_mem _ h)

/-- The pieces of a text are what gives it when it is joined by separators, and holds no separator. -/
theorem split_eq_iff {s : String} {ps : List String} :
    split sep s = ps ↔
      ps ≠ [] ∧ (∀ p ∈ ps, sep ∉ p.toList) ∧ String.intercalate (String.singleton sep) ps = s := by
  constructor
  · rintro rfl
    refine ⟨by simp [split, pieces_ne_nil], ?_, ?_⟩
    · intro p hp
      obtain ⟨q, hq, rfl⟩ := List.mem_map.mp hp
      rw [String.toList_ofList]
      exact not_mem_of_mem_pieces hq
    · rw [← String.toList_inj, String.toList_intercalate, split, List.map_map]
      have hid : String.toList ∘ String.ofList = id := funext fun _ => String.toList_ofList
      rw [hid, List.map_id, pieces_eq_splitOn, String.toList_singleton, List.intercalate_splitOn]
  · rintro ⟨hne, hfree, rfl⟩
    have hpieces : pieces sep (String.intercalate (String.singleton sep) ps).toList =
        ps.map String.toList := by
      rw [pieces_eq_splitOn, String.toList_intercalate, String.toList_singleton]
      exact List.splitOn_intercalate sep (by simpa using hfree) (by simpa using hne)
    have hid : String.ofList ∘ String.toList = id := funext fun _ => String.ofList_toList
    rw [split, hpieces, List.map_map, hid, List.map_id]

end DocletPreflight.Text
