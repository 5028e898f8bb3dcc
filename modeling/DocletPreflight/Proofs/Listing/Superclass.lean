import DocletPreflight.Proofs.Listing.Rounds
import Mathlib.Logic.Relation

/-!
# Following superclasses

The last round of reading a listing follows the superclasses of every class and notes the names that it
comes by (`Listing.comesBack`). Here this is compared with the relation that holds between the places of
two classes when the first has the second as its superclass, `Listing.IsSuperclassOf`.

In a table whose references agree with its names (`Listing.Coherent`) the superclasses of a class come
back just when the class leads into a cycle, whether it lies on the cycle itself or not
(`isCyclic_iff_leadsToCycle`); and if none comes back, there is no cycle anywhere
(`forall_not_isCyclic_iff`). The table that the entries of a listing describe is coherent, and there the
relation is that of the entries themselves, `Listing.Extends` (`isSuperclassOf_iff_extends`).
-/

set_option autoImplicit false

namespace DocletPreflight.Listing

open Yaml (Value)
open Relation (TransGen ReflTransGen)

/-- The class at a place of a table has the one at another place as its superclass. -/
def IsSuperclassOf (classes : List ListedClass) (i j : Nat) : Prop :=
  ∃ c r, classes[i]? = some c ∧ c.superclass = some r ∧ r.position = some j

/-- The references to superclasses agree with the names of a table: one with a place leads to a class
of its name, and one without a place has a name that no class of the table has. -/
structure Coherent (classes : List ListedClass) : Prop where
  nodup : (classes.map (·.name)).Nodup
  placed : ∀ c ∈ classes, ∀ r, c.superclass = some r → ∀ j, r.position = some j →
    ∃ d, classes[j]? = some d ∧ d.name = r.name
  unplaced : ∀ c ∈ classes, ∀ r, c.superclass = some r → r.position = none →
    r.name ∉ classes.map (·.name)

/-- In a table, two places with classes of one name are one place. -/
theorem place_unique {classes : List ListedClass} (h : (classes.map (·.name)).Nodup) {i j : Nat}
    {c d : ListedClass} (hc : classes[i]? = some c) (hd : classes[j]? = some d)
    (hname : c.name = d.name) : i = j := by
  obtain ⟨hi, hci⟩ := List.getElem?_eq_some_iff.mp hc
  obtain ⟨hj, hdj⟩ := List.getElem?_eq_some_iff.mp hd
  have hinj := List.nodup_iff_injective_getElem.mp h
  have heq := @hinj ⟨i, by simpa using hi⟩ ⟨j, by simpa using hj⟩ (by simp [hci, hdj, hname])
  exact congrArg Fin.val heq

/-- Going on along a relation from a place leads to a place from which it comes back to itself. -/
def LeadsToCycle (r : Nat → Nat → Prop) (i : Nat) : Prop := ∃ k, ReflTransGen r i k ∧ TransGen r k k

/-- Where a step leads to a place before a cycle, its start is before the cycle too. -/
theorem LeadsToCycle.head {r : Nat → Nat → Prop} {i j : Nat} (hij : r i j) (h : LeadsToCycle r j) :
    LeadsToCycle r i := by
  obtain ⟨k, hpath, hcycle⟩ := h
  exact ⟨k, .head hij hpath, hcycle⟩

/-- What leads to a cycle leads on to a place that leads to a cycle. -/
theorem LeadsToCycle.exists_next {r : Nat → Nat → Prop} {i : Nat} (h : LeadsToCycle r i) :
    ∃ j, r i j ∧ LeadsToCycle r j := by
  obtain ⟨k, hpath, hcycle⟩ := h
  rcases hpath.cases_head with rfl | ⟨j, hij, hjk⟩
  · obtain ⟨j, hij, hjk⟩ := TransGen.head'_iff.mp hcycle
    exact ⟨j, hij, i, hjk, hcycle⟩
  · exact ⟨j, hij, k, hjk, hcycle⟩

/-- Where going on comes to an end, nothing leads to a cycle. -/
theorem not_leadsToCycle_of_acc {r : Nat → Nat → Prop} {i : Nat} (h : Acc (fun j i => r i j) i) :
    ¬LeadsToCycle r i := by
  induction h with
  | intro i _ ih =>
    intro hcycle
    obtain ⟨j, hij, hj⟩ := hcycle.exists_next
    exact ih j hij hj

/-- Superclasses that come back lead into a cycle. Along the walk, every name that was seen is that of
a class from which the walk has come. -/
theorem leadsToCycle_of_comesBack {classes : List ListedClass} (hco : Coherent classes)
    {seen : List String} {next : Option TypeRef} (h : comesBack classes seen next = true)
    {i : Nat} {c : ListedClass} (hc : classes[i]? = some c) (hnext : c.superclass = next)
    (hseen : ∀ name ∈ seen, ∃ k d, classes[k]? = some d ∧ d.name = name ∧
      ReflTransGen (IsSuperclassOf classes) k i) :
    LeadsToCycle (IsSuperclassOf classes) i := by
  fun_induction comesBack classes seen next generalizing i c with
  | case1 => cases h
  | case2 seen r hentry =>
    -- a class that is not listed cannot have been seen
    obtain ⟨k, d, hd, hname, -⟩ := hseen r.name (by simpa using h)
    cases hpos : r.position with
    | none =>
      refine absurd ?_ (hco.unplaced c (List.mem_of_getElem? hc) r hnext hpos)
      exact List.mem_map.mpr ⟨d, List.mem_of_getElem? hd, hname⟩
    | some j =>
      obtain ⟨e, he, -⟩ := hco.placed c (List.mem_of_getElem? hc) r hnext j hpos
      simp [entryOf, hpos, he] at hentry
  | case3 seen r d hentry hmem =>
    -- the walk came from a class of this name and now leads to it again
    obtain ⟨j, hpos, hd⟩ := Option.bind_eq_some_iff.mp hentry
    obtain ⟨k, e, he, hname, hpath⟩ := hseen d.name hmem
    obtain rfl := place_unique hco.nodup he hd hname
    have hstep : IsSuperclassOf classes i k := ⟨c, r, hc, hnext, hpos⟩
    exact ⟨k, .single hstep, TransGen.tail' hpath hstep⟩
  | case4 seen r d hentry hmem ih =>
    obtain ⟨j, hpos, hd⟩ := Option.bind_eq_some_iff.mp hentry
    have hstep : IsSuperclassOf classes i j := ⟨c, r, hc, hnext, hpos⟩
    refine (ih h hd rfl ?_).head hstep
    intro name hname
    rcases List.mem_cons.mp hname with rfl | hname
    · exact ⟨j, d, hd, rfl, .refl⟩
    · obtain ⟨k, e, he, hname, hpath⟩ := hseen name hname
      exact ⟨k, e, he, hname, hpath.tail hstep⟩

/-- From a class whose superclasses do not come back, following superclasses comes to an end. -/
theorem acc_of_not_comesBack {classes : List ListedClass} {seen : List String}
    {next : Option TypeRef} (h : comesBack classes seen next = false) {i : Nat} {c : ListedClass}
    (hc : classes[i]? = some c) (hnext : c.superclass = next) :
    Acc (fun j i => IsSuperclassOf classes i j) i := by
  fun_induction comesBack classes seen next generalizing i c with
  | case1 =>
    refine Acc.intro i ?_
    rintro j ⟨c', r, hc', hr, -⟩
    rw [hc] at hc'
    cases hc'
    rw [hnext] at hr
    cases hr
  | case2 seen r hentry =>
    refine Acc.intro i ?_
    rintro j ⟨c', r', hc', hr', hpos⟩
    rw [hc] at hc'
    cases hc'
    rw [hnext] at hr'
    cases hr'
    -- the superclass is not listed, so nothing can follow it
    have hnone : classes[j]? = none := by simpa [entryOf, hpos] using hentry
    refine Acc.intro j ?_
    rintro k ⟨d, -, hd, -⟩
    rw [hnone] at hd
    cases hd
  | case3 => cases h
  | case4 seen r d hentry hmem ih =>
    refine Acc.intro i ?_
    rintro j ⟨c', r', hc', hr', hpos⟩
    rw [hc] at hc'
    cases hc'
    rw [hnext] at hr'
    cases hr'
    have hd : classes[j]? = some d := by simpa [entryOf, hpos] using hentry
    exact ih h hd rfl

/-- The superclasses of a class come back just when the class leads into a cycle. -/
theorem isCyclic_iff_leadsToCycle {classes : List ListedClass} (hco : Coherent classes) {i : Nat}
    {c : ListedClass} (hc : classes[i]? = some c) :
    isCyclic classes c = true ↔ LeadsToCycle (IsSuperclassOf classes) i := by
  constructor
  · intro h
    refine leadsToCycle_of_comesBack hco h hc rfl ?_
    intro name hname
    rw [List.mem_singleton] at hname
    exact ⟨i, c, hc, hname.symm, .refl⟩
  · intro hcycle
    by_contra h
    rw [Bool.not_eq_true] at h
    exact not_leadsToCycle_of_acc (acc_of_not_comesBack h hc rfl) hcycle

/-- The superclasses of no class come back just when no class is above itself. -/
theorem forall_not_isCyclic_iff {classes : List ListedClass} (hco : Coherent classes) :
    (∀ c ∈ classes, isCyclic classes c = false) ↔
      ∀ i, ¬TransGen (IsSuperclassOf classes) i i := by
  constructor
  · intro h i hi
    obtain ⟨j, ⟨c, r, hc, hr, hpos⟩, -⟩ := TransGen.head'_iff.mp hi
    have hcyclic := (isCyclic_iff_leadsToCycle hco hc).mpr ⟨i, .refl, hi⟩
    rw [h c (List.mem_of_getElem? hc)] at hcyclic
    cases hcyclic
  · intro h c hc
    obtain ⟨i, hi⟩ := List.mem_iff_getElem?.mp hc
    by_contra hcyclic
    rw [Bool.not_eq_false] at hcyclic
    obtain ⟨k, -, hk⟩ := (isCyclic_iff_leadsToCycle hco hi).mp hcyclic
    exact h k hk

/-! ## The classes that entries describe -/

/-- The entry at one place extends the entry at another: it writes its name as that of its superclass.
-/
def Extends (es : List Value) (i j : Nat) : Prop :=
  ∃ e f name, es[i]? = some e ∧ es[j]? = some f ∧ (e.field "extends").written? = some name ∧
    (f.field "name").written? = some name

/-- The classes of a table have the names it is made from. -/
theorem map_name_tableFor {names : List String} {es : List Value} (h : es.length = names.length) :
    (tableFor names es).map (·.name) = names := by
  refine List.ext_getElem (by simp [tableFor, h]) ?_
  intro i hi hi'
  simp [tableFor, classFor, ListedClass.link, ListedClass.unlinked]

/-- The class at a place of a table is made from the name and the entry at that place. -/
theorem getElem?_tableFor {names : List String} {es : List Value} {i : Nat} {c : ListedClass} :
    (tableFor names es)[i]? = some c ↔
      ∃ name e, names[i]? = some name ∧ es[i]? = some e ∧ classFor names name e = c := by
  rw [tableFor, List.getElem?_zipWith_eq_some]

/-- A name is found at its place among different names. -/
theorem idxOf?_eq_some_iff_of_nodup {names : List String} (h : names.Nodup) {name : String}
    {i : Nat} : names.idxOf? name = some i ↔ names[i]? = some name := by
  rw [List.idxOf?_eq_some_iff, List.getElem?_eq_some_iff]
  constructor
  · rintro ⟨hi, hname, -⟩
    exact ⟨hi, hname⟩
  · rintro ⟨hi, hname⟩
    refine ⟨hi, hname, ?_⟩
    intro j hj hname'
    have hinj := List.nodup_iff_injective_getElem.mp h
    have heq := @hinj ⟨j, by omega⟩ ⟨i, hi⟩ (by simp [hname, hname'])
    have : j = i := congrArg Fin.val heq
    omega

/-- Entries and names side by side. -/
theorem isCalled_of_getElem? {names : List String} {es : List Value}
    (h : List.Forall₂ IsCalled es names) {i : Nat} {e : Value} {name : String}
    (he : es[i]? = some e) (hname : names[i]? = some name) : IsCalled e name := by
  obtain ⟨hi, rfl⟩ := List.getElem?_eq_some_iff.mp he
  obtain ⟨hi', rfl⟩ := List.getElem?_eq_some_iff.mp hname
  exact h.get hi hi'

/-- An entry extends what it writes, unless that is empty. -/
theorem writtenSuperclass_eq_some_iff {e : Value} {name : String} :
    writtenSuperclass e = some name ↔ (e.field "extends").written? = some name ∧ name ≠ "" := by
  simp [writtenSuperclass, Option.filter_eq_some_iff]

/-- In a table made from entries, references to superclasses agree with the names. -/
theorem coherent_tableFor {names : List String} {es : List Value}
    (hcalled : List.Forall₂ IsCalled es names) (hnodup : names.Nodup) :
    Coherent (tableFor names es) := by
  have hnames := map_name_tableFor hcalled.length_eq
  refine ⟨hnames.symm ▸ hnodup, ?_, ?_⟩
  · intro c hc r hr j hj
    obtain ⟨i, hi⟩ := List.mem_iff_getElem?.mp hc
    obtain ⟨name, e, -, -, rfl⟩ := getElem?_tableFor.mp hi
    obtain ⟨s, -, rfl⟩ := Option.map_eq_some_iff.mp hr
    have hs : names[j]? = some s := (idxOf?_eq_some_iff_of_nodup hnodup).mp hj
    rw [← hnames, List.getElem?_map] at hs
    exact Option.map_eq_some_iff.mp hs
  · intro c hc r hr hnone
    obtain ⟨i, hi⟩ := List.mem_iff_getElem?.mp hc
    obtain ⟨name, e, -, -, rfl⟩ := getElem?_tableFor.mp hi
    obtain ⟨s, -, rfl⟩ := Option.map_eq_some_iff.mp hr
    rw [hnames]
    exact List.idxOf?_eq_none_iff.mp hnone

/-- Among the classes that entries describe, superclasses are what the entries extend. -/
theorem isSuperclassOf_iff_extends {names : List String} {es : List Value}
    (hcalled : List.Forall₂ IsCalled es names) (hnodup : names.Nodup) (i j : Nat) :
    IsSuperclassOf (tableFor names es) i j ↔ Extends es i j := by
  constructor
  · rintro ⟨c, r, hc, hr, hj⟩
    obtain ⟨name, e, -, he, rfl⟩ := getElem?_tableFor.mp hc
    obtain ⟨s, hs, rfl⟩ := Option.map_eq_some_iff.mp hr
    have hname : names[j]? = some s := (idxOf?_eq_some_iff_of_nodup hnodup).mp hj
    obtain ⟨hj', -⟩ := List.getElem?_eq_some_iff.mp hname
    rw [← hcalled.length_eq] at hj'
    have hf : es[j]? = some es[j] := List.getElem?_eq_getElem hj'
    exact ⟨e, es[j], s, he, hf, (writtenSuperclass_eq_some_iff.mp hs).1,
      (isCalled_of_getElem? hcalled hf hname).written⟩
  · rintro ⟨e, f, s, he, hf, hs, hname⟩
    obtain ⟨hi, -⟩ := List.getElem?_eq_some_iff.mp he
    obtain ⟨hj, -⟩ := List.getElem?_eq_some_iff.mp hf
    rw [hcalled.length_eq] at hi hj
    have hni : names[i]? = some names[i] := List.getElem?_eq_getElem hi
    have hnj : names[j]? = some names[j] := List.getElem?_eq_getElem hj
    have hcf := isCalled_of_getElem? hcalled hf hnj
    have hsj : names[j] = s := Option.some.inj (hcf.written.symm.trans hname)
    have hext : writtenSuperclass e = some s :=
      writtenSuperclass_eq_some_iff.mpr ⟨hs, hsj ▸ hcf.nonempty⟩
    refine ⟨classFor names names[i] e, resolve names s, ?_, ?_, ?_⟩
    · exact getElem?_tableFor.mpr ⟨_, e, hni, he, rfl⟩
    · exact congrArg (Option.map (resolve names)) hext
    · exact (idxOf?_eq_some_iff_of_nodup hnodup).mpr (hnj.trans (congrArg some hsj))

/-- In a table made from entries, a class is the superclass of another as its entry is extended. -/
theorem isSuperclassOf_tableFor {names : List String} {es : List Value}
    (hcalled : List.Forall₂ IsCalled es names) (hnodup : names.Nodup) :
    IsSuperclassOf (tableFor names es) = Extends es := by
  funext i j
  exact propext (isSuperclassOf_iff_extends hcalled hnodup i j)

end DocletPreflight.Listing
