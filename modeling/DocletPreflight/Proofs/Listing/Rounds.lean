import DocletPreflight.Classes.Listing
import DocletPreflight.Proofs.Listing.Written
import DocletPreflight.Proofs.Lists
import Mathlib.Data.List.Nodup

/-!
# The rounds of reading a listing

`Listing.ofValue` works on a table of classes that it registers, links in place and checks. This file
says what each round amounts to in terms of the entries alone.

* The first round answers the names of the entries (`forall₂_of_namesFrom`), or the fault of the first
  entry that has no name of its own (`namesFrom_nameless`, `namesFrom_duplicate`).
* The second round finds each class again under its entry's name and leaves the table that every entry
  describes by itself (`linkAll_eq`): the class of an entry is `classFor` of it, in the order of the
  entries.
* The third round looks for an entry whose superclasses come back.

`ofValue_eq_of_called` puts the rounds together, and `shape_of_ofValue` reads them back from a listing
that was accepted.
-/

set_option autoImplicit false

namespace DocletPreflight.Listing

open Yaml (Value)

/-! ## What an entry says -/

/-- An entry is called by the text of its name, which must not be empty. -/
structure IsCalled (entry : Value) (name : String) : Prop where
  mapping : ∃ fields, entry = .map fields
  written : (entry.field "name").written? = some name
  nonempty : name ≠ ""

/-- What a listing takes from an entry can be read, as no number in it is too long to be written. -/
structure Legible (entry : Value) : Prop where
  name : (entry.field "name").text? = .ok (entry.field "name").written?
  superclass : (entry.field "extends").text? = .ok (entry.field "extends").written?
  interfaces : (entry.field "implements").texts = .ok (entry.field "implements").writtenTexts
  annotations : (entry.field "annotations").texts = .ok (entry.field "annotations").writtenTexts

/-- The superclass that an entry writes, if it writes one that is not empty. -/
def writtenSuperclass (entry : Value) : Option String :=
  (entry.field "extends").written?.filter (· ≠ "")

/-- The links that an entry describes when the classes with these names are listed. -/
def linksFor (names : List String) (entry : Value) : Links :=
  ⟨(writtenSuperclass entry).map (resolve names),
    (entry.field "implements").writtenTexts.map (resolve names),
    (entry.field "annotations").writtenTexts.map (resolve names)⟩

/-- The class that an entry describes. -/
def classFor (names : List String) (name : String) (entry : Value) : ListedClass :=
  (ListedClass.unlinked name).link (linksFor names entry)

/-- The classes that entries with these names describe. -/
def tableFor (names : List String) (entries : List Value) : List ListedClass :=
  List.zipWith (classFor names) names entries

/-- An entry has only one name. -/
theorem IsCalled.unique {entry : Value} {a b : String} (ha : IsCalled entry a)
    (hb : IsCalled entry b) : a = b :=
  Option.some.inj (ha.written.symm.trans hb.written)

/-- What an entry writes as its name is its name unless it is empty. -/
theorem isCalled_of_written {entry : Value} {name : String}
    (h : (entry.field "name").written? = some name) (hne : name ≠ "") : IsCalled entry name := by
  have hnull : entry.field "name" ≠ .null := by
    intro h0
    rw [h0] at h
    cases h
  obtain ⟨fields, hfields, -⟩ := Value.mem_of_field rfl hnull
  exact ⟨⟨fields, hfields⟩, h, hne⟩

/-- The entries of a value with writable numbers are legible. -/
theorem legible_of_mem_entries {v entry : Value} (hv : v.NumbersWritable)
    (h : entry ∈ entries v) : Legible entry := by
  have hentry := (hv.field "classes").items h
  exact ⟨Value.text?_eq (hentry.field "name"), Value.text?_eq (hentry.field "extends"),
    Value.texts_eq (hentry.field "implements"), Value.texts_eq (hentry.field "annotations")⟩

/-- What is read is what was written. -/
theorem orTooLong_eq_ok {α : Type} {x : Except Yaml.NumberTooLong α} {a : α}
    (h : orTooLong x = .ok a) : x = .ok a := by
  cases x with
  | error e => cases h
  | ok b => cases h; rfl

/-! ## The first round -/

/-- The name that an entry is registered under is the one it is called by. -/
theorem isCalled_of_entryName {file name : String} {entry : Value}
    (h : entryName file entry = .ok name) : IsCalled entry name := by
  obtain ⟨t, ht, hname⟩ := bind_eq_ok h
  have hw := Value.written?_of_text? (orTooLong_eq_ok ht)
  match t, hname with
  | none, hname => cases hname
  | some s, hname =>
    by_cases hs : s = ""
    · subst hs
      cases hname
    · have hok : (.ok s : Except ListingFailure String) = .ok name := by
        simpa [hs] using hname
      cases hok
      exact isCalled_of_written hw hs

/-- A legible entry is read under its name. -/
theorem entryName_of_isCalled (file : String) {name : String} {entry : Value}
    (hv : Legible entry) (h : IsCalled entry name) : entryName file entry = .ok name := by
  have hne := h.nonempty
  simp [entryName, hv.name, h.written, orTooLong, bind, Except.bind]

/-- A legible entry without a name is rejected as nameless. -/
theorem entryName_of_not_isCalled {file : String} {entry : Value} (hv : Legible entry)
    (h : ¬∃ name, IsCalled entry name) :
    entryName file entry = .error (.rejected (.nameless file)) := by
  cases hw : (entry.field "name").written? with
  | none => simp [entryName, hv.name, hw, orTooLong, bind, Except.bind]
  | some s =>
    have hs : s = "" := by
      by_contra hne
      exact h ⟨s, isCalled_of_written hw hne⟩
    simp [entryName, hv.name, hw, orTooLong, bind, Except.bind, hs]

/-- Names are read from the first entry on, each of them kept apart from those before it. -/
theorem namesFrom_cons (file : String) (seen : List String) (entry : Value) (rest : List Value) :
    namesFrom file seen (entry :: rest) =
      entryName file entry >>= fun name =>
        if seen.contains name then .error (.rejected (.duplicate file name))
        else namesFrom file (name :: seen) rest >>= fun names => .ok (name :: names) := rfl

/-- The first round answers the names of the entries, all different and none of them seen before. -/
theorem forall₂_of_namesFrom {file : String} {seen names : List String} {es : List Value}
    (h : namesFrom file seen es = .ok names) :
    List.Forall₂ (fun entry name => entryName file entry = .ok name) es names ∧ names.Nodup ∧
      ∀ name ∈ names, name ∉ seen := by
  induction es generalizing seen names with
  | nil =>
    cases h
    exact ⟨.nil, .nil, by simp⟩
  | cons entry rest ih =>
    rw [namesFrom_cons] at h
    obtain ⟨name, hname, h⟩ := bind_eq_ok h
    by_cases hseen : name ∈ seen
    · simp [hseen] at h
    · simp only [List.contains_eq_mem, hseen, decide_false, Bool.false_eq_true, if_false] at h
      obtain ⟨later, hlater, h⟩ := bind_eq_ok h
      cases h
      obtain ⟨hnamed, hnodup, hfresh⟩ := ih hlater
      refine ⟨.cons hname hnamed, List.nodup_cons.mpr ⟨?_, hnodup⟩, ?_⟩
      · intro hmem
        exact hfresh name hmem (by simp)
      · intro n hn
        rcases List.mem_cons.mp hn with rfl | hn
        · exact hseen
        · exact fun hs => hfresh n hn (by simp [hs])

/-- Legible entries are named as they are called. -/
theorem forall₂_entryName (file : String) {names : List String} {es : List Value}
    (hv : ∀ entry ∈ es, Legible entry) (hcalled : List.Forall₂ IsCalled es names) :
    List.Forall₂ (fun entry name => entryName file entry = .ok name) es names :=
  List.forall₂_iff_get.mpr ⟨hcalled.length_eq, fun _ hi hi' =>
    entryName_of_isCalled file (hv _ (List.get_mem _ _)) (hcalled.get hi hi')⟩

/-- The first round goes past entries with names of their own. -/
theorem namesFrom_append {file : String} {seen names : List String} {es : List Value}
    (rest : List Value)
    (hnamed : List.Forall₂ (fun entry name => entryName file entry = .ok name) es names)
    (hnodup : names.Nodup) (hfresh : ∀ name ∈ names, name ∉ seen) :
    namesFrom file seen (es ++ rest) =
      namesFrom file (names.reverse ++ seen) rest >>= fun later => .ok (names ++ later) := by
  induction hnamed generalizing seen with
  | nil => cases h : namesFrom file seen rest <;> simp [h, bind, Except.bind]
  | @cons entry name es names hname _ ih =>
    have hseen : name ∉ seen := hfresh name (by simp)
    obtain ⟨hnot, hnodup⟩ := List.nodup_cons.mp hnodup
    have hrest : ∀ n ∈ names, n ∉ name :: seen := by
      intro n hn hmem
      rcases List.mem_cons.mp hmem with rfl | hmem
      · exact hnot hn
      · exact hfresh n (by simp [hn]) hmem
    rw [List.cons_append, namesFrom_cons, hname]
    simp only [bind, Except.bind, List.contains_eq_mem, hseen, decide_false, Bool.false_eq_true,
      if_false]
    rw [ih hnodup hrest]
    simp only [List.reverse_cons, List.append_assoc, List.singleton_append]
    cases namesFrom file (names.reverse ++ name :: seen) rest <;> rfl

/-- Entries with names of their own pass the first round. -/
theorem namesFrom_of_called (file : String) {names : List String} {es : List Value}
    (hv : ∀ entry ∈ es, Legible entry) (hcalled : List.Forall₂ IsCalled es names)
    (hnodup : names.Nodup) : namesFrom file [] es = .ok names := by
  have hfresh : ∀ name ∈ names, name ∉ ([] : List String) := by simp
  have h := namesFrom_append [] (forall₂_entryName file hv hcalled) hnodup hfresh
  simpa [namesFrom, bind, Except.bind] using h

/-- The first entry without a name ends the first round. -/
theorem namesFrom_nameless {file : String} {names : List String} {es rest : List Value}
    {entry : Value} (hv : ∀ e ∈ es ++ entry :: rest, Legible e)
    (hcalled : List.Forall₂ IsCalled es names) (hnodup : names.Nodup)
    (h : ¬∃ name, IsCalled entry name) :
    namesFrom file [] (es ++ entry :: rest) = .error (.rejected (.nameless file)) := by
  have hnamed := forall₂_entryName file (fun e he => hv e (by simp [he])) hcalled
  rw [namesFrom_append _ hnamed hnodup (by simp), namesFrom_cons,
    entryName_of_not_isCalled (hv entry (by simp)) h]
  rfl

/-- The first entry with the name of an earlier one ends the first round. -/
theorem namesFrom_duplicate {file name : String} {names : List String} {es rest : List Value}
    {entry : Value} (hv : ∀ e ∈ es ++ entry :: rest, Legible e)
    (hcalled : List.Forall₂ IsCalled es names) (hnodup : names.Nodup) (h : IsCalled entry name)
    (hmem : name ∈ names) :
    namesFrom file [] (es ++ entry :: rest) = .error (.rejected (.duplicate file name)) := by
  have hnamed := forall₂_entryName file (fun e he => hv e (by simp [he])) hcalled
  rw [namesFrom_append _ hnamed hnodup (by simp), namesFrom_cons,
    entryName_of_isCalled file (hv entry (by simp)) h]
  simp [bind, Except.bind, hmem]

/-! ## The second round -/

/-- A legible entry is read with the superclass that it writes. -/
theorem superclassName_eq {entry : Value} (hv : Legible entry) :
    superclassName entry = .ok (writtenSuperclass entry) := by
  cases hw : (entry.field "extends").written? with
  | none =>
    simp [superclassName, writtenSuperclass, hv.superclass, hw, orTooLong, bind, Except.bind]
  | some s =>
    by_cases hs : s = "" <;>
      simp [superclassName, writtenSuperclass, hv.superclass, hw, orTooLong, bind, Except.bind, hs,
        Option.filter_some]

/-- A superclass that is read is the one that is written. -/
theorem writtenSuperclass_of_superclassName {entry : Value} {s : Option String}
    (h : superclassName entry = .ok s) : writtenSuperclass entry = s := by
  obtain ⟨t, ht, hs⟩ := bind_eq_ok h
  have hw := Value.written?_of_text? (orTooLong_eq_ok ht)
  match t, hs with
  | none, hs => cases hs; simp [writtenSuperclass, hw]
  | some u, hs =>
    by_cases hu : u = ""
    · subst hu
      cases hs
      simp [writtenSuperclass, hw]
    · have hok : (.ok (some u) : Except ListingFailure (Option String)) = .ok s := by
        simpa [hu] using hs
      cases hok
      simp [writtenSuperclass, hw, hu]

/-- A legible entry is read with the references that it writes. -/
theorem linksOf_eq (names : List String) {entry : Value} (hv : Legible entry) :
    linksOf names entry = .ok (linksFor names entry) := by
  simp [linksOf, linksFor, superclassName_eq hv, hv.interfaces, hv.annotations, orTooLong, bind,
    Except.bind]

/-- References that are read are those that are written. -/
theorem linksFor_of_linksOf {names : List String} {entry : Value} {links : Links}
    (h : linksOf names entry = .ok links) : linksFor names entry = links := by
  obtain ⟨superclass, hsuper, h⟩ := bind_eq_ok h
  obtain ⟨interfaces, hinter, h⟩ := bind_eq_ok h
  obtain ⟨annotations, hann, h⟩ := bind_eq_ok h
  cases h
  rw [linksFor, writtenSuperclass_of_superclassName hsuper,
    Value.writtenTexts_of_texts (orTooLong_eq_ok hinter),
    Value.writtenTexts_of_texts (orTooLong_eq_ok hann)]

/-- An entry finds the class again that was registered for it. -/
theorem placeOf_eq {file name : String} {before rest : List String} {entry : Value}
    (h : entryName file entry = .ok name) (hnot : name ∉ before) :
    placeOf (before ++ name :: rest) entry = .ok before.length := by
  obtain ⟨t, ht, hname⟩ := bind_eq_ok h
  have hcalled := isCalled_of_entryName h
  have htext : t = some name := by
    rw [← Value.written?_of_text? (orTooLong_eq_ok ht)]
    exact hcalled.written
  have hidx : (before ++ name :: rest).idxOf? name = some before.length := by
    rw [List.idxOf?_eq_some_iff]
    refine ⟨by simp, by simp, ?_⟩
    intro j hj hj'
    rw [List.getElem_append_left hj] at hj'
    exact hnot (hj' ▸ List.getElem_mem hj)
  rw [htext] at ht
  simp [placeOf, ht, hidx, bind, Except.bind]

/-- Linking goes through the entries one by one. What stands before the class of an entry is linked
already, and what stands behind it is not. -/
theorem linkAll_eq {file : String} {names : List String} (hnodup : names.Nodup)
    (before : List String) (done : List ListedClass) {rest : List String} {es : List Value}
    (hnames : names = before ++ rest) (hdone : done.length = before.length)
    (hnamed : List.Forall₂ (fun entry name => entryName file entry = .ok name) es rest) :
    linkAll names es (done ++ rest.map .unlinked) =
      es.mapM (linksOf names) >>= fun links =>
        .ok (done ++ List.zipWith (fun name l => (ListedClass.unlinked name).link l) rest links) := by
  induction hnamed generalizing before done with
  | nil => simp [linkAll, bind, Except.bind, pure, Except.pure]
  | @cons entry name es rest hname hrest ih =>
    have hnot : name ∉ before := by
      rw [hnames] at hnodup
      exact fun hmem => (List.nodup_append.mp hnodup).2.2 name hmem name (by simp) rfl
    have hplace : placeOf names entry = .ok done.length := by
      rw [hnames, placeOf_eq hname hnot, hdone]
    simp only [linkAll, hplace, List.mapM_cons, bind, Except.bind, List.map_cons]
    cases hlinks : linksOf names entry with
    | error e => rfl
    | ok l =>
      -- the class of this entry moves from those that wait to those that are done
      have hmodify : (done ++ ListedClass.unlinked name :: rest.map .unlinked).modify done.length
          (.link l) = (done ++ [(ListedClass.unlinked name).link l]) ++ rest.map .unlinked := by
        rw [modify_append_length]
        simp
      have hnext := ih (before ++ [name]) (done ++ [(ListedClass.unlinked name).link l])
        (by simp [hnames]) (by simp [hdone])
      simp only [hmodify, hnext, bind, Except.bind]
      cases es.mapM (linksOf names) <;> simp [pure, Except.pure]

/-- Legible entries are read with the references that they write. -/
theorem mapM_linksOf {names : List String} {es : List Value}
    (hv : ∀ entry ∈ es, Legible entry) :
    es.mapM (linksOf names) = .ok (es.map (linksFor names)) := by
  induction es with
  | nil => rfl
  | cons entry rest ih =>
    rw [List.mapM_cons, linksOf_eq names (hv entry (by simp)), ih fun e he => hv e (by simp [he])]
    rfl

/-- References that are read of all entries are those that are written. -/
theorem map_linksFor_of_mapM {names : List String} {es : List Value} {links : List Links}
    (h : es.mapM (linksOf names) = .ok links) : es.map (linksFor names) = links := by
  induction es generalizing links with
  | nil => cases h; rfl
  | cons entry rest ih =>
    rw [List.mapM_cons] at h
    obtain ⟨l, hl, h⟩ := bind_eq_ok h
    obtain ⟨ls, hls, h⟩ := bind_eq_ok h
    cases h
    rw [List.map_cons, linksFor_of_linksOf hl, ih hls]

/-- The table of the second round, written as the classes that the entries describe. -/
theorem tableFor_eq (names : List String) (es : List Value) :
    tableFor names es =
      List.zipWith (fun name l => (ListedClass.unlinked name).link l) names
        (es.map (linksFor names)) := by
  rw [List.zipWith_map_right]
  rfl

/-! ## All rounds -/

/-- What keeps a listing from being accepted, once its entries have names of their own, is a class
whose superclasses come back. -/
theorem ofValue_eq_of_called {file : String} {v : Value} {names : List String}
    (hv : ∀ entry ∈ entries v, Legible entry) (hcalled : List.Forall₂ IsCalled (entries v) names)
    (hnodup : names.Nodup) :
    ofValue file v =
      match (tableFor names (entries v)).find? (isCyclic (tableFor names (entries v))) with
      | some c => .error (.rejected (.cyclic c.name))
      | none => .ok ⟨tableFor names (entries v)⟩ := by
  have hnamed := forall₂_entryName file hv hcalled
  have hfirst := namesFrom_of_called file hv hcalled hnodup
  have hsecond := linkAll_eq hnodup [] [] rfl rfl hnamed
  rw [mapM_linksOf hv] at hsecond
  simp only [List.nil_append, bind, Except.bind, ← tableFor_eq] at hsecond
  cases hfind : (tableFor names (entries v)).find? (isCyclic (tableFor names (entries v))) with
  | none => simp only [ofValue, hfirst, hsecond, hfind, bind, Except.bind]
  | some c => simp only [ofValue, hfirst, hsecond, hfind, bind, Except.bind]

/-- After the first two rounds every entry has been read, under names that are all different, and what the
entries describe is in the table. -/
theorem rounds_of_linkAll {file : String} {names : List String} {es : List Value}
    {classes : List ListedClass} (hfirst : namesFrom file [] es = .ok names)
    (hsecond : linkAll names es (names.map .unlinked) = .ok classes) :
    List.Forall₂ (fun entry name => entryName file entry = .ok name) es names ∧ names.Nodup ∧
      (∃ links, es.mapM (linksOf names) = .ok links) ∧ classes = tableFor names es := by
  obtain ⟨hnamed, hnodup, -⟩ := forall₂_of_namesFrom hfirst
  have hlink := linkAll_eq hnodup [] [] rfl rfl hnamed
  simp only [List.nil_append] at hlink
  rw [hlink] at hsecond
  obtain ⟨links, hlinks, hclasses⟩ := bind_eq_ok hsecond
  cases hclasses
  exact ⟨hnamed, hnodup, ⟨links, hlinks⟩, by rw [tableFor_eq, map_linksFor_of_mapM hlinks]⟩

/-- The rounds of a listing that was accepted. -/
theorem rounds_of_ofValue {file : String} {v : Value} {l : Listing} (h : ofValue file v = .ok l) :
    ∃ names links,
      List.Forall₂ (fun entry name => entryName file entry = .ok name) (entries v) names ∧
      names.Nodup ∧ (entries v).mapM (linksOf names) = .ok links ∧
      l.classes = tableFor names (entries v) ∧ ∀ c ∈ l.classes, isCyclic l.classes c = false := by
  obtain ⟨names, hfirst, h⟩ := bind_eq_ok h
  obtain ⟨classes, hsecond, h⟩ := bind_eq_ok h
  obtain ⟨hnamed, hnodup, ⟨links, hlinks⟩, rfl⟩ := rounds_of_linkAll hfirst hsecond
  cases hfind : (tableFor names (entries v)).find? (isCyclic (tableFor names (entries v))) with
  | some c => rw [hfind] at h; cases h
  | none =>
    rw [hfind] at h
    cases h
    refine ⟨names, links, hnamed, hnodup, hlinks, rfl, ?_⟩
    intro c hc
    simpa using List.find?_eq_none.mp hfind c hc

/-- A listing that was accepted holds the classes that its entries describe, whose names are all
different, and the superclasses of none of them come back. -/
theorem shape_of_ofValue {file : String} {v : Value} {l : Listing} (h : ofValue file v = .ok l) :
    ∃ names, List.Forall₂ IsCalled (entries v) names ∧ names.Nodup ∧
      l.classes = tableFor names (entries v) ∧ ∀ c ∈ l.classes, isCyclic l.classes c = false := by
  obtain ⟨names, links, hnamed, hnodup, -, hclasses, hcyclic⟩ := rounds_of_ofValue h
  exact ⟨names, hnamed.imp fun _ _ => isCalled_of_entryName, hnodup, hclasses, hcyclic⟩

/-- An entry whose name and references are read is legible. -/
theorem legible_of_reads {file name : String} {names : List String} {links : Links} {entry : Value}
    (hname : entryName file entry = .ok name) (hlinks : linksOf names entry = .ok links) :
    Legible entry := by
  obtain ⟨text, htext, -⟩ := bind_eq_ok hname
  obtain ⟨superclass, hsuper, hlinks⟩ := bind_eq_ok hlinks
  obtain ⟨interfaces, hinter, hlinks⟩ := bind_eq_ok hlinks
  obtain ⟨annotations, hann, -⟩ := bind_eq_ok hlinks
  obtain ⟨supertext, hsupertext, -⟩ := bind_eq_ok hsuper
  have htext := orTooLong_eq_ok htext
  have hsupertext := orTooLong_eq_ok hsupertext
  have hinter := orTooLong_eq_ok hinter
  have hann := orTooLong_eq_ok hann
  constructor
  · rw [htext, Value.written?_of_text? htext]
  · rw [hsupertext, Value.written?_of_text? hsupertext]
  · rw [hinter, Value.writtenTexts_of_texts hinter]
  · rw [hann, Value.writtenTexts_of_texts hann]

/-- Where all entries are read, each of them is. -/
theorem exists_links_of_mapM {names : List String} {es : List Value} {links : List Links}
    (h : es.mapM (linksOf names) = .ok links) : ∀ entry ∈ es, ∃ l, linksOf names entry = .ok l := by
  induction es generalizing links with
  | nil => simp
  | cons entry rest ih =>
    rw [List.mapM_cons] at h
    obtain ⟨l, hl, h⟩ := bind_eq_ok h
    obtain ⟨ls, hls, -⟩ := bind_eq_ok h
    intro e he
    rcases List.mem_cons.mp he with rfl | he
    · exact ⟨l, hl⟩
    · exact ih hls e he

/-- Entries that passed the first two rounds are legible. -/
theorem legible_of_rounds {file : String} {names : List String} {es : List Value} {links : List Links}
    (hnamed : List.Forall₂ (fun entry name => entryName file entry = .ok name) es names)
    (hlinks : es.mapM (linksOf names) = .ok links) : ∀ entry ∈ es, Legible entry := by
  intro entry hentry
  obtain ⟨name, -, hname⟩ := exists_right_of_mem hnamed hentry
  obtain ⟨entryLinks, hentryLinks⟩ := exists_links_of_mapM hlinks entry hentry
  exact legible_of_reads hname hentryLinks

/-- The entries of a value that is read are legible. -/
theorem legible_of_ofValue {file : String} {v : Value} {l : Listing} (h : ofValue file v = .ok l) :
    ∀ entry ∈ entries v, Legible entry := by
  obtain ⟨names, links, hnamed, -, hlinks, -, -⟩ := rounds_of_ofValue h
  exact legible_of_rounds hnamed hlinks

end DocletPreflight.Listing
