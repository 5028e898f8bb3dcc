import DocletPreflight.Command.Run
import DocletPreflight.Proofs.Listing.Graph

/-!
# What a filter selects

A filter looks at classes whose references lead from one entry of a listing to another, or to classes
that are no entries. What it finds there is what the entries themselves say: the names that an entry
refers to are the names that it writes, whatever they lead to (`facets_classFor`). So an entry is let
through just when the texts in it have all that is asked for (`Listing.Satisfies`), and the names that a
configuration accepts are those of such entries, in the order of the listing
(`forall₂_acceptedNames`).
-/

set_option autoImplicit false

namespace DocletPreflight.Listing

open Yaml (Value)

/-- An entry has all that a filter asks for, by what is written in the entry alone. A superclass must
be written with a text that is not empty. -/
structure Satisfies (f : ClassFilter) (e : Value) : Prop where
  superclass : ∀ type, f.superclass = some type →
    type ≠ "" ∧ (e.field "extends").written? = some type
  interface : ∀ type, f.interface = some type → type ∈ (e.field "implements").writtenTexts
  annotation : ∀ type, f.annotationType = some type → type ∈ (e.field "annotations").writtenTexts

/-- The facets that an entry writes. -/
def writtenFacets (e : Value) : Facets :=
  ⟨writtenSuperclass e, some (e.field "implements").writtenTexts,
    some (e.field "annotations").writtenTexts⟩

/-- A filter accepts the written facets of the entries that satisfy it. -/
theorem accepts_writtenFacets_iff {f : ClassFilter} {e : Value} :
    f.accepts (writtenFacets e) = true ↔ Satisfies f e := by
  have hsuper : f.superclass.all (ClassFilter.extendsType (writtenFacets e)) = true ↔
      ∀ type, f.superclass = some type →
        type ≠ "" ∧ (e.field "extends").written? = some type := by
    cases f.superclass with
    | none => simp
    | some type =>
      simp [ClassFilter.extendsType, writtenFacets, writtenSuperclass_eq_some_iff, and_comm]
  have hinterface : f.interface.all (ClassFilter.implementsType (writtenFacets e)) = true ↔
      ∀ type, f.interface = some type → type ∈ (e.field "implements").writtenTexts := by
    cases f.interface <;>
      simp [ClassFilter.implementsType, writtenFacets, Facets.interfaceNames]
  have hannotation : f.annotationType.all (ClassFilter.carriesType (writtenFacets e)) = true ↔
      ∀ type, f.annotationType = some type → type ∈ (e.field "annotations").writtenTexts := by
    cases f.annotationType <;>
      simp [ClassFilter.carriesType, writtenFacets, Facets.annotationNames]
  rw [ClassFilter.accepts, Bool.and_eq_true, Bool.and_eq_true, hsuper, hinterface, hannotation]
  constructor
  · rintro ⟨⟨hs, hi⟩, ha⟩
    exact ⟨hs, hi, ha⟩
  · rintro ⟨hs, hi, ha⟩
    exact ⟨⟨hs, hi⟩, ha⟩

instance (f : ClassFilter) (e : Value) : Decidable (Satisfies f e) :=
  decidable_of_iff _ accepts_writtenFacets_iff

/-- Every entry satisfies a filter that asks for nothing. -/
theorem satisfies_of_not_isActive {f : ClassFilter} (h : f.isActive = false) (e : Value) :
    Satisfies f e := by
  obtain ⟨hs, hi, ha⟩ := ClassFilter.isActive_eq_false_iff.mp h
  exact ⟨by simp [hs], by simp [hi], by simp [ha]⟩

/-- Entries and their names, as they are written. -/
theorem map_written_of_called {es : List Value} {names : List String}
    (h : List.Forall₂ IsCalled es names) :
    es.map (fun e => (e.field "name").written?) = names.map some := by
  induction h with
  | nil => rfl
  | cons he _ ih => rw [List.map_cons, List.map_cons, he.written, ih]

/-! ## Names through the table -/

/-- A name that is resolved among the entries leads to something of that name, be it an entry or
not. -/
theorem nameOf_resolve {names : List String} {es : List Value} (hlength : es.length = names.length)
    (hnodup : names.Nodup) (name : String) :
    nameOf ⟨tableFor names es⟩ (resolve names name) = name := by
  obtain ⟨d, hd⟩ := refersTo_resolve hlength hnodup name
  exact hd.nameOf_eq

/-- The facets of the class that an entry describes are those that the entry writes. -/
theorem facets_classFor {names : List String} {es : List Value} (hlength : es.length = names.length)
    (hnodup : names.Nodup) (name : String) (e : Value) :
    facets ⟨tableFor names es⟩ (classFor names name e) = writtenFacets e := by
  have hid : nameOf ⟨tableFor names es⟩ ∘ resolve names = id :=
    funext (nameOf_resolve hlength hnodup)
  simp [facets, classFor, ListedClass.link, linksFor, writtenFacets, hid]

/-! ## The names that are accepted -/

/-- Of classes side by side with entries, those that are kept have the names of the entries that are
kept, when both are kept alike. -/
theorem forall₂_filter_zipWith {names : List String} {keepsClass : ListedClass → Bool}
    {keeps : Value → Bool} (h : ∀ name e, keepsClass (classFor names name e) = keeps e)
    {es : List Value} {own : List String} (hcalled : List.Forall₂ IsCalled es own) :
    List.Forall₂ IsCalled (es.filter keeps)
      (((List.zipWith (classFor names) own es).filter keepsClass).map (·.name)) := by
  induction hcalled with
  | nil => exact .nil
  | @cons e name es own he _ ih =>
    rw [List.zipWith_cons_cons, List.filter_cons, List.filter_cons, h]
    by_cases hkeeps : keeps e = true
    · rw [if_pos hkeeps, if_pos hkeeps, List.map_cons]
      exact .cons he ih
    · rw [if_neg hkeeps, if_neg hkeeps]
      exact ih

/-- A configuration accepts, in order, the names of the entries that satisfy its filter, and none of
them twice. -/
theorem forall₂_acceptedNames {file : String} {v : Value} {l : Listing}
    (h : ofValue file v = .ok l) (c : Configuration) :
    List.Forall₂ IsCalled ((entries v).filter fun e => Satisfies c.classFilter e)
        (c.acceptedNames l) ∧
      (c.acceptedNames l).Nodup := by
  obtain ⟨names, hcalled, hnodup, hclasses, -⟩ := shape_of_ofValue h
  obtain rfl : l = ⟨tableFor names (entries v)⟩ := by
    cases l
    exact congrArg Listing.mk hclasses
  constructor
  · refine forall₂_filter_zipWith ?_ hcalled
    intro name e
    rw [Configuration.accepts, facets_classFor hcalled.length_eq hnodup]
    -- a filter that asks for nothing is not asked at all
    cases hactive : c.classFilter.isActive with
    | false => simp [satisfies_of_not_isActive hactive]
    | true => simp [← accepts_writtenFacets_iff]
  · have hsub := (List.filter_sublist (p := fun listed => !c.classFilter.isActive ||
      c.accepts (facets ⟨tableFor names (entries v)⟩ listed))
      (l := tableFor names (entries v))).map (·.name)
    rw [map_name_tableFor hcalled.length_eq] at hsub
    exact hsub.nodup hnodup

end DocletPreflight.Listing
