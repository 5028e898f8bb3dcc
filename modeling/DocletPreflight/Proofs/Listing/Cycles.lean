import DocletPreflight.Proofs.Listing.Reading

/-!
# The class that a cycle is reported for

A listing whose superclasses go round in a circle is rejected in the name of one class. Of the classes from
which following superclasses leads into a circle it is the one that is listed first
(`rejected_cyclic_iff`). Such a class need not lie on the circle: it may only extend a class that does
(`selfAndHeir_blames_heir`).
-/

set_option autoImplicit false

namespace DocletPreflight.Listing

open Yaml (Value)
open Relation (TransGen)

/-- Of the places from which following what entries extend leads to a cycle, this is the first. -/
structure IsFirstToCycle (es : List Value) (i : Nat) : Prop where
  leads : LeadsToCycle (Extends es) i
  least : ∀ j < i, ¬LeadsToCycle (Extends es) j

/-- When a listing is rejected for a cycle, its entries have passed the first two rounds. -/
theorem rounds_of_cyclic {file : String} {v : Value} {name : String}
    (h : ofValue file v = .error (.rejected (.cyclic name))) :
    ∃ names, (∀ e ∈ entries v, Legible e) ∧ List.Forall₂ IsCalled (entries v) names ∧ names.Nodup := by
  cases hfirst : namesFrom file [] (entries v) with
  | error e =>
    have hunnamed := failsOnly_namesFrom file [] _ e hfirst
    rw [ofValue_of_namesFrom hfirst] at h
    cases h
    cases hunnamed
  | ok names =>
    rw [ofValue, hfirst] at h
    cases hsecond : linkAll names (entries v) (names.map .unlinked) with
    | error e =>
      have hlong := failsOnly_linkAll hfirst e hsecond
      simp only [hsecond, bind, Except.bind] at h
      cases h
      cases hlong
    | ok classes =>
      obtain ⟨hnamed, hnodup, ⟨links, hlinks⟩, -⟩ := rounds_of_linkAll hfirst hsecond
      exact ⟨names, legible_of_rounds hnamed hlinks, hnamed.imp fun _ _ => isCalled_of_entryName, hnodup⟩

/-- Among the classes that entries describe, the one that the last round finds is the first that leads to a
cycle. -/
theorem find?_isCyclic_iff {names : List String} {es : List Value}
    (hcalled : List.Forall₂ IsCalled es names) (hnodup : names.Nodup) {c : ListedClass} :
    (tableFor names es).find? (isCyclic (tableFor names es)) = some c ↔
      ∃ i, (tableFor names es)[i]? = some c ∧ IsFirstToCycle es i := by
  have hcyclic {i : Nat} {d : ListedClass} (hd : (tableFor names es)[i]? = some d) :
      isCyclic (tableFor names es) d = true ↔ LeadsToCycle (Extends es) i := by
    rw [← isSuperclassOf_tableFor hcalled hnodup]
    exact isCyclic_iff_leadsToCycle (coherent_tableFor hcalled hnodup) hd
  rw [List.find?_eq_some_iff_getElem]
  constructor
  · rintro ⟨hc, i, hi, rfl, hbefore⟩
    have hplace := List.getElem?_eq_getElem hi
    refine ⟨i, hplace, (hcyclic hplace).mp hc, fun j hj hleads => ?_⟩
    have hearlier := List.getElem?_eq_getElem (Nat.lt_trans hj hi)
    simpa [(hcyclic hearlier).mpr hleads] using hbefore j hj
  · rintro ⟨i, hplace, hleads, hleast⟩
    refine ⟨(hcyclic hplace).mpr hleads, ?_⟩
    obtain ⟨hi, rfl⟩ := List.getElem?_eq_some_iff.mp hplace
    refine ⟨i, hi, rfl, fun j hj => ?_⟩
    have hearlier := List.getElem?_eq_getElem (Nat.lt_trans hj hi)
    simpa using mt (hcyclic hearlier).mp (hleast j hj)

/-- A listing is rejected for a cycle just when its entries can be read and have names of their own, and
following what they extend leads to a cycle from some of them. The class that is named is then the first
of these, whether it lies on the cycle or not. -/
theorem rejected_cyclic_iff (file : String) (v : Value) (name : String) :
    ofValue file v = .error (.rejected (.cyclic name)) ↔
      (∀ e ∈ entries v, Legible e) ∧ (∀ e ∈ entries v, ∃ other, IsCalled e other) ∧
        CalledApart (entries v) ∧
        ∃ i e, (entries v)[i]? = some e ∧ IsCalled e name ∧ IsFirstToCycle (entries v) i := by
  constructor
  · intro h
    obtain ⟨names, hlegible, hcalled, hnodup⟩ := rounds_of_cyclic h
    refine ⟨hlegible, forall_called hcalled, (calledApart_iff_nodup hcalled).mpr hnodup, ?_⟩
    rw [ofValue_eq_of_called hlegible hcalled hnodup] at h
    split at h
    next c hfind =>
      cases h
      obtain ⟨i, hplace, hfirst⟩ := (find?_isCyclic_iff hcalled hnodup).mp hfind
      obtain ⟨own, e, hown, he, rfl⟩ := getElem?_tableFor.mp hplace
      exact ⟨i, e, he, isCalled_of_getElem? hcalled he hown, hfirst⟩
    · cases h
  · rintro ⟨hlegible, hnames, hapart, i, e, he, hname, hfirst⟩
    obtain ⟨names, hcalled⟩ := exists_names hnames
    have hnodup := (calledApart_iff_nodup hcalled).mp hapart
    obtain ⟨own, hown, hcalledOwn⟩ := exists_getElem?_of_forall₂ hcalled he
    obtain rfl := hname.unique hcalledOwn
    have hfind := (find?_isCyclic_iff hcalled hnodup).mpr
      ⟨i, getElem?_tableFor.mpr ⟨name, e, hown, he, rfl⟩, hfirst⟩
    rw [ofValue_eq_of_called hlegible hcalled hnodup, hfind]
    rfl

/-- A class that extends itself, listed behind another one that extends it. -/
def selfAndHeir : Value :=
  .map [("classes", .list [.map [("name", .str "A"), ("extends", .str "B")],
    .map [("name", .str "B"), ("extends", .str "B")]])]

/-- The class that a listing is rejected for need not lie on a cycle: here it is the heir. -/
theorem selfAndHeir_blames_heir :
    ¬∀ (file : String) (v : Value) (name : String),
      ofValue file v = .error (.rejected (.cyclic name)) →
      ∃ i e, (entries v)[i]? = some e ∧ IsCalled e name ∧ TransGen (Extends (entries v)) i i := by
  intro h
  obtain ⟨i, e, he, hname, hcycle⟩ := h "classes.yml" selfAndHeir "A" (by decide +kernel)
  -- whoever lies on a cycle is extended by an entry, and all entries extend the other class
  obtain ⟨j, -, d, f, other, hd, hf, hextends, hcalled⟩ := TransGen.tail'_iff.mp hcycle
  obtain rfl := Option.some.inj (he.symm.trans hf)
  obtain rfl := Option.some.inj (hname.written.symm.trans hcalled)
  match j, hd with
  | 0, rfl | 1, rfl => exact absurd hextends (by decide)

end DocletPreflight.Listing
