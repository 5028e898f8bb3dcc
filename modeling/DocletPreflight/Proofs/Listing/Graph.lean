import DocletPreflight.Proofs.Listing.Superclass

/-!
# The graph of a listing

A class of a listing refers to other classes, and a reference is to an entry of its name wherever the entry
stands, or else to a class of which only the name is known (`Listing.RefersTo`). The references of a class
are the texts that its entry writes (`Listing.Describes`). Going from a class to its superclass, and on from
there (`Listing.Ascends`), is going from an entry to what it extends (`Listing.WrittenAbove`).

The last round of reading a listing walks the same way. If it does not come back it comes to an end, and on
the way it meets no name twice (`exists_ascent_of_not_comesBack`), so there are no more steps than entries
(`Ascends.length_le`). `describes_of_ofValue` says all this of every listing that is accepted.
-/

set_option autoImplicit false

namespace DocletPreflight

/-- The references of a class, of whatever kind. -/
def ListedClass.references (c : ListedClass) : List TypeRef :=
  c.superclass.toList ++ c.interfaces ++ c.annotations

namespace Listing

open Yaml (Value)

/-- A reference refers to the class of its name at its place, or to a class that is not listed and refers
to nothing itself. -/
inductive RefersTo (l : Listing) (r : TypeRef) : ListedClass → Prop where
  | listed {j : Nat} {d : ListedClass} (hposition : r.position = some j)
      (hd : l.classes[j]? = some d) (hname : d.name = r.name) : RefersTo l r d
  | bare (hposition : r.position = none) (hnone : ∀ d ∈ l.classes, d.name ≠ r.name) :
      RefersTo l r (.unlinked r.name)

/-- A class is the one that an entry describes. -/
structure Describes (l : Listing) (e : Value) (c : ListedClass) : Prop where
  name : IsCalled e c.name
  superclass : c.superclass.map (·.name) = writtenSuperclass e
  interfaces : c.interfaces.map (·.name) = (e.field "implements").writtenTexts
  annotations : c.annotations.map (·.name) = (e.field "annotations").writtenTexts
  references : ∀ r ∈ c.references, ∃ d, l.RefersTo r d

/-- The classes from a reference on, each the superclass of the one before it, up to one that has none. -/
inductive Ascends (l : Listing) : Option TypeRef → List ListedClass → Prop where
  | top : Ascends l none []
  | up {r : TypeRef} {d : ListedClass} {above : List ListedClass} (hrefers : l.RefersTo r d)
      (habove : Ascends l d.superclass above) : Ascends l (some r) (d :: above)

/-- The names above an entry, each what the entry of the one before it extends, up to an entry that extends
nothing or a name that no entry has. -/
inductive WrittenAbove (es : List Value) : Value → List String → Prop where
  | top {e : Value} (hextends : writtenSuperclass e = none) : WrittenAbove es e []
  | outside {e : Value} {name : String} (hextends : writtenSuperclass e = some name)
      (hnone : ∀ f ∈ es, ¬IsCalled f name) : WrittenAbove es e [name]
  | up {e f : Value} {name : String} {above : List String}
      (hextends : writtenSuperclass e = some name) (hf : f ∈ es) (hname : IsCalled f name)
      (habove : WrittenAbove es f above) : WrittenAbove es e (name :: above)

variable {l : Listing} {r : TypeRef} {d : ListedClass}

/-! ## References -/

/-- A reference has the name of what it refers to. -/
theorem RefersTo.name_eq (h : l.RefersTo r d) : d.name = r.name := by
  cases h with
  | listed hposition hd hname => exact hname
  | bare hposition hnone => rfl

/-- A reference that leads somewhere is shown by its own name. -/
theorem RefersTo.nameOf_eq (h : l.RefersTo r d) : l.nameOf r = r.name := by
  cases h with
  | listed hposition hd hname => simp [nameOf, entryOf, hposition, hd, hname]
  | bare hposition hnone => simp [nameOf, entryOf, hposition]

/-- Where a reference leads to an entry, it refers to that entry. -/
theorem RefersTo.eq_of_entryOf {c : ListedClass} (h : l.RefersTo r d)
    (hentry : entryOf l.classes r = some c) : d = c := by
  obtain ⟨j, hj, hc⟩ := Option.bind_eq_some_iff.mp hentry
  cases h with
  | listed hposition hd hname =>
    rw [hposition] at hj
    cases hj
    exact Option.some.inj (hd.symm.trans hc)
  | bare hposition hnone =>
    rw [hposition] at hj
    cases hj

/-- Where a reference leads to no entry, it refers to a class without references. -/
theorem RefersTo.eq_unlinked (h : l.RefersTo r d) (hentry : entryOf l.classes r = none) :
    d = .unlinked r.name := by
  cases h with
  | listed hposition hd hname => simp [entryOf, hposition, hd] at hentry
  | bare hposition hnone => rfl

/-- What is referred to is listed, unless it has no superclass. -/
theorem RefersTo.mem (h : l.RefersTo r d) (hsuper : d.superclass ≠ none) : d ∈ l.classes := by
  cases h with
  | listed hposition hd hname => exact List.mem_of_getElem? hd
  | bare hposition hnone => exact absurd rfl hsuper

/-- References have the names of what they refer to, one by one. -/
theorem map_name_of_refersTo {rs : List TypeRef} {ds : List ListedClass}
    (h : List.Forall₂ l.RefersTo rs ds) : rs.map (·.name) = ds.map (·.name) := by
  induction h with
  | nil => rfl
  | cons hd _ ih => rw [List.map_cons, List.map_cons, hd.name_eq, ih]

/-- Each of the references leads somewhere. -/
theorem exists_of_refersTo {rs : List TypeRef} {ds : List ListedClass}
    (h : List.Forall₂ l.RefersTo rs ds) {r : TypeRef} (hr : r ∈ rs) : ∃ d, l.RefersTo r d := by
  obtain ⟨d, -, hd⟩ := exists_right_of_mem h hr
  exact ⟨d, hd⟩

/-- The superclass of a class is among its references. -/
theorem superclass_of_mem_references {c : ListedClass} (h : c.superclass = some r) :
    r ∈ c.references := by
  simp [ListedClass.references, h]

/-! ## The classes that entries describe -/

/-- A name among those of a table refers to the class of that name, any other to one outside. -/
theorem refersTo_resolve {names : List String} {es : List Value} (hlength : es.length = names.length)
    (hnodup : names.Nodup) (name : String) :
    ∃ d, RefersTo ⟨tableFor names es⟩ (resolve names name) d := by
  have hnames := map_name_tableFor hlength
  cases hplace : names.idxOf? name with
  | none =>
    refine ⟨_, .bare hplace ?_⟩
    intro d hd hname
    refine List.idxOf?_eq_none_iff.mp hplace ?_
    rw [← hnames]
    exact List.mem_map.mpr ⟨d, hd, hname⟩
  | some j =>
    have hj : names[j]? = some name := (idxOf?_eq_some_iff_of_nodup hnodup).mp hplace
    rw [← hnames, List.getElem?_map] at hj
    obtain ⟨d, hd, hname⟩ := Option.map_eq_some_iff.mp hj
    exact ⟨d, .listed hplace hd hname⟩

/-- Resolving texts keeps them as names. -/
theorem map_name_resolve (names texts : List String) :
    (texts.map (resolve names)).map (·.name) = texts := by
  rw [List.map_map]
  exact List.map_id texts

/-- The class that is made for an entry is described by it. -/
theorem describes_classFor {names : List String} {es : List Value}
    (hlength : es.length = names.length) (hnodup : names.Nodup) {name : String} {e : Value}
    (he : IsCalled e name) : Describes ⟨tableFor names es⟩ e (classFor names name e) where
  name := he
  superclass := by
    show ((writtenSuperclass e).map (resolve names)).map (·.name) = writtenSuperclass e
    cases writtenSuperclass e <;> rfl
  interfaces := map_name_resolve names _
  annotations := map_name_resolve names _
  references := by
    intro r hr
    obtain ⟨text, rfl⟩ : ∃ text, resolve names text = r := by
      simp only [ListedClass.references, classFor, ListedClass.link, linksFor, List.mem_append,
        Option.mem_toList, Option.map_eq_some_iff, List.mem_map] at hr
      rcases hr with (⟨text, -, h⟩ | ⟨text, -, h⟩) | ⟨text, -, h⟩
      all_goals exact ⟨text, h⟩
    exact refersTo_resolve hlength hnodup text

/-- The classes of an accepted listing are those that its entries describe, one by one. -/
theorem forall₂_describes {file : String} {v : Value} (h : ofValue file v = .ok l) :
    List.Forall₂ l.Describes (entries v) l.classes := by
  obtain ⟨names, hcalled, hnodup, hclasses, -⟩ := shape_of_ofValue h
  obtain rfl : l = ⟨tableFor names (entries v)⟩ := by
    cases l
    exact congrArg Listing.mk hclasses
  have hlength := hcalled.length_eq
  refine List.forall₂_iff_get.mpr ⟨by simp [tableFor, hlength], ?_⟩
  intro i hi hi'
  have hin : i < names.length := hlength ▸ hi
  have hclass : (tableFor names (entries v)).get ⟨i, hi'⟩ =
      classFor names (names.get ⟨i, hin⟩) ((entries v).get ⟨i, hi⟩) := by
    simp [tableFor]
  rw [hclass]
  exact describes_classFor hlength hnodup (hcalled.get hi hin)

/-! ## The walk upwards -/

section

variable (hrefers : ∀ c ∈ l.classes, ∀ r ∈ c.references, ∃ d, l.RefersTo r d)
include hrefers

/-- A walk that does not come back comes to an end. It meets only names that were not seen before, and
none of them twice; as many steps as it takes are enough to climb it. -/
theorem exists_ascent_of_not_comesBack {seen : List String} {next : Option TypeRef}
    (h : comesBack l.classes seen next = false) (hnext : ∀ r, next = some r → ∃ d, l.RefersTo r d) :
    ∃ above refs, l.Ascends next above ∧ (above.map (·.name)).Nodup ∧
      (∀ d ∈ above, d.name ∉ seen) ∧ List.Forall₂ l.RefersTo refs above ∧
      ∀ fuel, above.length ≤ fuel → climb l.classes fuel next = some refs := by
  fun_induction comesBack l.classes seen next with
  | case1 seen =>
    refine ⟨[], [], .top, .nil, by simp, .nil, ?_⟩
    intro fuel _
    cases fuel <;> rfl
  | case2 seen r hentry =>
    -- what is not listed has no superclass, so the walk ends there
    obtain ⟨d, hd⟩ := hnext r rfl
    obtain rfl := hd.eq_unlinked hentry
    refine ⟨[.unlinked r.name], [r], .up hd .top, List.nodup_singleton _, ?_, .cons hd .nil, ?_⟩
    · simpa [ListedClass.unlinked] using h
    · intro fuel hfuel
      obtain ⟨fuel, rfl⟩ := Nat.exists_eq_add_of_lt (Nat.lt_of_lt_of_le Nat.zero_lt_one hfuel)
      have hnone : superclassOf l.classes r = none := by rw [superclassOf, hentry, Option.bind_none]
      simp only [Nat.zero_add, climb, hnone]
      cases fuel <;> rfl
  | case3 => cases h
  | case4 seen r c hentry hmem ih =>
    obtain ⟨d, hd⟩ := hnext r rfl
    obtain rfl := hd.eq_of_entryOf hentry
    have hlisted : d ∈ l.classes := by
      obtain ⟨j, -, hj⟩ := Option.bind_eq_some_iff.mp hentry
      exact List.mem_of_getElem? hj
    obtain ⟨above, refs, hascends, hnodup, hfresh, hrefs, hclimb⟩ :=
      ih h fun r hr => hrefers d hlisted r (superclass_of_mem_references hr)
    refine ⟨d :: above, r :: refs, .up hd hascends, ?_, ?_, .cons hd hrefs, ?_⟩
    · refine List.nodup_cons.mpr ⟨?_, hnodup⟩
      intro hagain
      obtain ⟨e, he, hname⟩ := List.mem_map.mp hagain
      exact hfresh e he (by simp [hname])
    · intro e he hseen
      rcases List.mem_cons.mp he with rfl | he
      · exact hmem hseen
      · exact hfresh e he (List.mem_cons_of_mem _ hseen)
    · intro fuel hfuel
      rw [List.length_cons] at hfuel
      obtain ⟨fuel, rfl⟩ := Nat.exists_eq_add_of_lt (Nat.lt_of_lt_of_le (Nat.succ_pos _) hfuel)
      have hsuper : superclassOf l.classes r = d.superclass := by
        rw [superclassOf, hentry, Option.bind_some]
      rw [Nat.zero_add, climb, hsuper, hclimb fuel (by omega)]
      rfl

end

/-- All classes of an ascent but the last are listed. -/
theorem Ascends.mem_of_mem_dropLast {next : Option TypeRef} {above : List ListedClass}
    (h : l.Ascends next above) : ∀ d ∈ above.dropLast, d ∈ l.classes := by
  induction h with
  | top => simp
  | @up r d above hrefers habove ih =>
    cases above with
    | nil => simp
    | cons e rest =>
      have hsuper : d.superclass ≠ none := by
        intro hnone
        rw [hnone] at habove
        cases habove
      intro c hc
      rw [List.dropLast_cons_cons] at hc
      rcases List.mem_cons.mp hc with rfl | hc
      · exact hrefers.mem hsuper
      · exact ih c hc

/-- There are no more classes above a listed class than there are listed classes, if no two of them have
one name. -/
theorem Ascends.length_le {c : ListedClass} {above : List ListedClass}
    (h : l.Ascends c.superclass above) (hc : c ∈ l.classes)
    (hnodup : ((c :: above).map (·.name)).Nodup) : above.length ≤ l.classes.length := by
  -- the class and those above it, but for the last, are different classes of the listing
  have hsub : c :: above.dropLast ⊆ l.classes := by
    intro d hd
    rcases List.mem_cons.mp hd with rfl | hd
    · exact hc
    · exact h.mem_of_mem_dropLast d hd
  have hdistinct : (c :: above.dropLast).Nodup := by
    refine List.Nodup.sublist ?_ (List.Nodup.of_map _ hnodup)
    exact List.Sublist.cons_cons c (List.dropLast_sublist above)
  have hle := hdistinct.length_le_of_subset hsub
  rw [List.length_cons, List.length_dropLast] at hle
  omega

/-- The names of the classes above a class are those above its entry. -/
theorem Ascends.writtenAbove {es : List Value} (hdescribes : List.Forall₂ l.Describes es l.classes)
    {next : Option TypeRef} {above : List ListedClass} (h : l.Ascends next above) {e : Value}
    {c : ListedClass} (he : l.Describes e c) (hc : c.superclass = next) :
    WrittenAbove es e (above.map (·.name)) := by
  induction h generalizing e c with
  | top =>
    refine .top ?_
    rw [← he.superclass, hc]
    rfl
  | @up r d above hrefers habove ih =>
    have hextends : writtenSuperclass e = some d.name := by
      rw [← he.superclass, hc, hrefers.name_eq]
      rfl
    cases hrefers with
    | listed hposition hd hname =>
      obtain ⟨f, hf, hfd⟩ := exists_left_of_mem hdescribes (List.mem_of_getElem? hd)
      exact .up hextends hf hfd.name (ih hfd rfl)
    | bare hposition hnone =>
      cases habove
      refine .outside hextends ?_
      intro f hf hcalled
      obtain ⟨d, hd, hfd⟩ := exists_right_of_mem hdescribes hf
      exact hnone d hd (hfd.name.unique hcalled)

/-- Above a class of a listing there are the classes that are met when superclasses are followed. They come
to an end after no more steps than there are entries, no two of them and the class itself have one name,
and their names are those above the entry. -/
structure HasAbove (l : Listing) (es : List Value) (e : Value) (c : ListedClass)
    (above : List ListedClass) : Prop where
  ascends : l.Ascends c.superclass above
  climbs : ∃ refs, chain? l.classes c = some refs ∧ List.Forall₂ l.RefersTo refs above
  bounded : above.length ≤ es.length
  nodup : ((c :: above).map (·.name)).Nodup
  written : WrittenAbove es e (above.map (·.name))

/-- Above every class of an accepted listing there is an end. -/
theorem exists_hasAbove {file : String} {v : Value} (h : ofValue file v = .ok l) {i : Nat}
    (hi : i < (entries v).length) (hi' : i < l.classes.length) :
    ∃ above, l.HasAbove (entries v) (entries v)[i] l.classes[i] above := by
  have hdescribes := forall₂_describes h
  obtain ⟨-, -, -, -, hcyclic⟩ := shape_of_ofValue h
  have hrefers : ∀ c ∈ l.classes, ∀ r ∈ c.references, ∃ d, l.RefersTo r d := by
    intro c hc
    obtain ⟨e, -, hec⟩ := exists_left_of_mem hdescribes hc
    exact hec.references
  have he := hdescribes.get hi hi'
  have hc : l.classes[i] ∈ l.classes := List.getElem_mem hi'
  obtain ⟨above, refs, hascends, hnodup, hfresh, hrefs, hclimb⟩ :=
    exists_ascent_of_not_comesBack hrefers (hcyclic _ hc) fun r hr =>
      he.references r (superclass_of_mem_references hr)
  have hall : ((l.classes[i] :: above).map (·.name)).Nodup := by
    refine List.nodup_cons.mpr ⟨?_, hnodup⟩
    intro hagain
    obtain ⟨d, hd, hname⟩ := List.mem_map.mp hagain
    exact hfresh d hd (by simp [hname])
  have hbound := hascends.length_le hc hall
  exact ⟨above, hascends, ⟨refs, hclimb _ hbound, hrefs⟩, hdescribes.length_eq ▸ hbound, hall,
    hascends.writtenAbove hdescribes he rfl⟩

/-- An accepted listing has the graph that its entries describe: a class for every entry, in order, each
with its name and its references, and above each class an end. -/
theorem describes_of_ofValue {file : String} {v : Value} {l : Listing} (h : ofValue file v = .ok l) :
    List.Forall₂ (fun e c => l.Describes e c ∧ ∃ above, l.HasAbove (entries v) e c above)
      (entries v) l.classes := by
  have hdescribes := forall₂_describes h
  refine List.forall₂_iff_get.mpr ⟨hdescribes.length_eq, ?_⟩
  intro i hi hi'
  exact ⟨hdescribes.get hi hi', exists_hasAbove h hi hi'⟩

/-- Two entries of which the first refers to the second one, twice, and to a class that is not listed. -/
def forwardReferences : Value :=
  .map [("classes", .list
    [.map [("name", .str "A"), ("extends", .str "B"),
      ("implements", .list [.str "I", .str "B", .str "I"])],
    .map [("name", .str "B"), ("extends", .str "Object")]])]

/-- They are described by two classes, of which the first refers to the place of the second. -/
theorem forwardReferences_described :
    ∃ l, ofValue "classes.yml" forwardReferences = .ok l ∧
      l.classes =
        [⟨⟨some ⟨"B", some 1⟩, [⟨"I", none⟩, ⟨"B", some 1⟩, ⟨"I", none⟩], []⟩, "A"⟩,
          ⟨⟨some ⟨"Object", none⟩, [], []⟩, "B"⟩] ∧
      List.Forall₂
        (fun e c => l.Describes e c ∧ ∃ above, l.HasAbove (entries forwardReferences) e c above)
        (entries forwardReferences) l.classes := by
  have hl : ofValue "classes.yml" forwardReferences =
      .ok ⟨[⟨⟨some ⟨"B", some 1⟩, [⟨"I", none⟩, ⟨"B", some 1⟩, ⟨"I", none⟩], []⟩, "A"⟩,
        ⟨⟨some ⟨"Object", none⟩, [], []⟩, "B"⟩]⟩ := by decide +kernel
  exact ⟨_, hl, rfl, describes_of_ofValue hl⟩

end Listing

end DocletPreflight
