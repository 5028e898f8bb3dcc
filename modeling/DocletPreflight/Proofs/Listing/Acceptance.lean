import DocletPreflight.Proofs.Listing.Superclass

/-!
# Which listings are accepted

A value is accepted as a listing just when its entries are well-formed: each is a mapping with a name
that is not empty, no two have one name, and following what they extend never comes back
(`Listing.WellFormed`). Every other value is rejected in the words of a `ListingError`, and nothing but
such a rejection can come out as long as no number is too long to be written. A missing or repeated name
is that of the first entry that has the fault, and it is noticed before any cycle
(`accepts_iff_wellFormed`).
-/

set_option autoImplicit false

namespace DocletPreflight.Listing

open Yaml (Value)
open Relation (TransGen)

/-- No two of some entries are called by one name. -/
def CalledApart (es : List Value) : Prop :=
  es.Pairwise fun e f => ∀ name, IsCalled e name → ¬IsCalled f name

/-- Following what entries extend never comes back to where it began. -/
def Acyclic (es : List Value) : Prop := ∀ i, ¬TransGen (Extends es) i i

/-- Entries that make a listing. -/
structure WellFormed (es : List Value) : Prop where
  called : ∀ e ∈ es, ∃ name, IsCalled e name
  apart : CalledApart es
  acyclic : Acyclic es

/-- Entries that each have a name have a list of names. -/
theorem exists_names {es : List Value} (h : ∀ e ∈ es, ∃ name, IsCalled e name) :
    ∃ names, List.Forall₂ IsCalled es names := by
  induction es with
  | nil => exact ⟨[], .nil⟩
  | cons e rest ih =>
    obtain ⟨name, hname⟩ := h e (by simp)
    obtain ⟨names, hnames⟩ := ih fun f hf => h f (by simp [hf])
    exact ⟨name :: names, .cons hname hnames⟩

/-- Entries with a list of names each have one. -/
theorem forall_called {es : List Value} {names : List String}
    (h : List.Forall₂ IsCalled es names) : ∀ e ∈ es, ∃ name, IsCalled e name := by
  intro e he
  obtain ⟨name, -, hname⟩ := exists_right_of_mem h he
  exact ⟨name, hname⟩

/-- The names in the list are just those that some entry has. -/
theorem mem_names_iff {es : List Value} {names : List String} (h : List.Forall₂ IsCalled es names)
    {name : String} : name ∈ names ↔ ∃ e ∈ es, IsCalled e name := by
  induction h with
  | nil => simp
  | @cons e n es names he _ ih =>
    have hn : name = n ↔ IsCalled e name :=
      ⟨fun heq => heq ▸ he, fun hcalled => hcalled.unique he⟩
    simp [ih, hn]

/-- Entries are called apart just when no name stands twice in the list. -/
theorem calledApart_iff_nodup {es : List Value} {names : List String}
    (h : List.Forall₂ IsCalled es names) : CalledApart es ↔ names.Nodup := by
  induction h with
  | nil => simp [CalledApart]
  | @cons e name es names he hrest ih =>
    rw [CalledApart, List.pairwise_cons, List.nodup_cons, ← ih, mem_names_iff hrest]
    refine and_congr_left' ⟨?_, ?_⟩
    · rintro hapart ⟨f, hf, hname⟩
      exact hapart f hf name he hname
    · rintro hnot f hf n hn hfn
      exact hnot ⟨f, hf, hn.unique he ▸ hfn⟩

/-- The last round finds nothing among the classes that entries describe just when the entries are
acyclic. -/
theorem forall_not_isCyclic_iff_acyclic {es : List Value} {names : List String}
    (hcalled : List.Forall₂ IsCalled es names) (hnodup : names.Nodup) :
    (∀ c ∈ tableFor names es, isCyclic (tableFor names es) c = false) ↔ Acyclic es := by
  rw [forall_not_isCyclic_iff (coherent_tableFor hcalled hnodup),
    isSuperclassOf_tableFor hcalled hnodup, Acyclic]

/-- Of legible entries, the first round answers names or rejects the listing. -/
theorem namesFrom_rejected {file : String} {seen : List String} {es : List Value}
    (hv : ∀ e ∈ es, Legible e) :
    (∃ names, namesFrom file seen es = .ok names) ∨
      ∃ e, namesFrom file seen es = .error (.rejected e) := by
  induction es generalizing seen with
  | nil => exact .inl ⟨[], rfl⟩
  | cons entry rest ih =>
    rw [namesFrom_cons]
    by_cases hcalled : ∃ name, IsCalled entry name
    · obtain ⟨name, hname⟩ := hcalled
      rw [entryName_of_isCalled file (hv entry (by simp)) hname]
      simp only [bind, Except.bind]
      split
      · exact .inr ⟨_, rfl⟩
      · obtain ⟨names, hok⟩ | ⟨e, herror⟩ := @ih (name :: seen) fun f hf => hv f (by simp [hf])
        · exact .inl ⟨name :: names, by rw [hok]⟩
        · exact .inr ⟨e, by rw [herror]⟩
    · rw [entryName_of_not_isCalled (hv entry (by simp)) hcalled]
      exact .inr ⟨_, rfl⟩

/-- A fault of the first round is the fault of the whole. -/
theorem ofValue_of_namesFrom {file : String} {v : Value} {e : ListingFailure}
    (h : namesFrom file [] (entries v) = .error e) : ofValue file v = .error e := by
  rw [ofValue, h]
  rfl

/-- Legible entries that are called apart are accepted if they are acyclic, and otherwise
rejected in the name of one of them. -/
theorem ofValue_of_calledApart {file : String} {v : Value} (hv : ∀ e ∈ entries v, Legible e)
    (hcalled : ∀ e ∈ entries v, ∃ name, IsCalled e name) (hapart : CalledApart (entries v)) :
    (Acyclic (entries v) → ∃ l, ofValue file v = .ok l) ∧
      (¬Acyclic (entries v) → ∃ e ∈ entries v, ∃ name, IsCalled e name ∧
        ofValue file v = .error (.rejected (.cyclic name))) := by
  obtain ⟨names, hnames⟩ := exists_names hcalled
  have hnodup := (calledApart_iff_nodup hnames).mp hapart
  have hiff := forall_not_isCyclic_iff_acyclic hnames hnodup
  rw [ofValue_eq_of_called hv hnames hnodup]
  cases hfind : (tableFor names (entries v)).find? (isCyclic (tableFor names (entries v))) with
  | none =>
    have hnone : Acyclic (entries v) :=
      hiff.mp fun c hc => by simpa using List.find?_eq_none.mp hfind c hc
    exact ⟨fun _ => ⟨_, rfl⟩, fun hnot => absurd hnone hnot⟩
  | some c =>
    have hc := List.mem_of_find?_eq_some hfind
    have hcyclic := List.find?_some hfind
    refine ⟨fun hacyclic => ?_, fun _ => ?_⟩
    · rw [hiff.mpr hacyclic c hc] at hcyclic
      cases hcyclic
    · obtain ⟨i, hi⟩ := List.mem_iff_getElem?.mp hc
      obtain ⟨name, e, hname, he, rfl⟩ := getElem?_tableFor.mp hi
      exact ⟨e, List.mem_of_getElem? he, name, isCalled_of_getElem? hnames he hname, rfl⟩

/-- The entries of a value that is read are well-formed. -/
theorem wellFormed_of_ofValue {file : String} {v : Value} {l : Listing}
    (h : ofValue file v = .ok l) : WellFormed (entries v) := by
  obtain ⟨names, hnames, hnodup, hclasses, hcyclic⟩ := shape_of_ofValue h
  rw [hclasses] at hcyclic
  exact ⟨forall_called hnames, (calledApart_iff_nodup hnames).mpr hnodup,
    (forall_not_isCyclic_iff_acyclic hnames hnodup).mp hcyclic⟩

/-- A value is accepted just when its entries can be read and are well-formed. -/
theorem accepted_iff (file : String) (v : Value) :
    (∃ l, ofValue file v = .ok l) ↔ (∀ e ∈ entries v, Legible e) ∧ WellFormed (entries v) := by
  constructor
  · rintro ⟨l, hl⟩
    exact ⟨legible_of_ofValue hl, wellFormed_of_ofValue hl⟩
  · rintro ⟨hlegible, h⟩
    exact (ofValue_of_calledApart hlegible h.called h.apart).1 h.acyclic

/-- A value whose entries are legible is read or rejected, and nothing escapes. -/
theorem accepted_or_rejected (file : String) {v : Value} (hv : ∀ e ∈ entries v, Legible e) :
    (∃ l, ofValue file v = .ok l) ∨ ∃ e, ofValue file v = .error (.rejected e) := by
  obtain ⟨names, hok⟩ | ⟨e, herror⟩ := @namesFrom_rejected file [] _ hv
  · obtain ⟨hnamed, hnodup, -⟩ := forall₂_of_namesFrom hok
    have hnames := hnamed.imp fun _ _ => isCalled_of_entryName
    obtain ⟨haccepts, hrejects⟩ := @ofValue_of_calledApart file v hv (forall_called hnames)
      ((calledApart_iff_nodup hnames).mpr hnodup)
    by_cases hacyclic : Acyclic (entries v)
    · exact .inl (haccepts hacyclic)
    · obtain ⟨-, -, name, -, hrejected⟩ := hrejects hacyclic
      exact .inr ⟨_, hrejected⟩
  · exact .inr ⟨e, ofValue_of_namesFrom herror⟩

/-- A value whose numbers can be written is accepted just when its entries are well-formed, and is
rejected otherwise. The first entry without a name, or with the name of an earlier one, decides what is
said, whatever the entries extend; and entries with names of their own are rejected for a cycle. -/
theorem accepts_iff_wellFormed (file : String) {v : Value} (hv : v.NumbersWritable) :
    ((∃ l, ofValue file v = .ok l) ↔ WellFormed (entries v)) ∧
    ((∃ l, ofValue file v = .ok l) ∨ ∃ e, ofValue file v = .error (.rejected e)) ∧
    (∀ before entry after, entries v = before ++ entry :: after →
      (∀ e ∈ before, ∃ name, IsCalled e name) → CalledApart before →
      ((¬∃ name, IsCalled entry name) → ofValue file v = .error (.rejected (.nameless file))) ∧
      ∀ name, IsCalled entry name → (∃ e ∈ before, IsCalled e name) →
        ofValue file v = .error (.rejected (.duplicate file name))) ∧
    ((∀ e ∈ entries v, ∃ name, IsCalled e name) → CalledApart (entries v) →
      ¬Acyclic (entries v) → ∃ e ∈ entries v, ∃ name, IsCalled e name ∧
        ofValue file v = .error (.rejected (.cyclic name))) := by
  have hlegible : ∀ e ∈ entries v, Legible e := fun e he => legible_of_mem_entries hv he
  refine ⟨⟨?_, ?_⟩, ?_, ?_, ?_⟩
  · rintro ⟨l, hl⟩
    exact wellFormed_of_ofValue hl
  · intro h
    exact (ofValue_of_calledApart hlegible h.called h.apart).1 h.acyclic
  · exact accepted_or_rejected file hlegible
  · intro before entry after hsplit hcalled hapart
    obtain ⟨names, hnames⟩ := exists_names hcalled
    have hnodup := (calledApart_iff_nodup hnames).mp hapart
    rw [hsplit] at hlegible
    refine ⟨fun hnot => ?_, fun name hname hbefore => ?_⟩
    · apply ofValue_of_namesFrom
      rw [hsplit]
      exact namesFrom_nameless hlegible hnames hnodup hnot
    · apply ofValue_of_namesFrom
      rw [hsplit]
      exact namesFrom_duplicate hlegible hnames hnodup hname ((mem_names_iff hnames).mpr hbefore)
  · intro hcalled hapart hcyclic
    exact (ofValue_of_calledApart hlegible hcalled hapart).2 hcyclic

/-- Two entries of which one has a number as its name, and the other the text of that number. -/
def oneAndItsText : Value :=
  .map [("classes", .list [.map [("name", .int 1), ("extends", .int 1)], .map [("name", .str "1")]])]

/-- The second entry is rejected for its name, although the first one extends itself. -/
theorem oneAndItsText_rejected :
    oneAndItsText.NumbersWritable ∧
      ofValue "classes.yml" oneAndItsText = .error (.rejected (.duplicate "classes.yml" "1")) := by
  have hv : oneAndItsText.NumbersWritable := by
    simp [oneAndItsText, Value.isWritable_of_natAbs_lt]
  have hfirst : IsCalled (.map [("name", .int 1), ("extends", .int 1)]) "1" :=
    isCalled_of_written rfl (by decide)
  have hsecond : IsCalled (.map [("name", .str "1")]) "1" := isCalled_of_written rfl (by decide)
  have hduplicate := ((accepts_iff_wellFormed "classes.yml" hv).2.2.1 [_] _ [] rfl
    (by simpa using ⟨_, hfirst⟩) (List.pairwise_singleton _ _)).2
  exact ⟨hv, hduplicate "1" hsecond ⟨_, by simp, hfirst⟩⟩

end DocletPreflight.Listing
