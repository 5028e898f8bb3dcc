import DocletPreflight.Classes.Filter
import DocletPreflight.Proofs.Listing.Acceptance
import DocletPreflight.Proofs.Listing.Graph
import Mathlib.Data.List.Pairwise
import Mathlib.Data.List.Perm.Basic

/-!
# The order of entries

Listings with the same entries in another order are accepted alike: being legible and being well-formed are
properties of the entries as a whole (`WellFormed.of_perm`). What is seen of a class from outside, its
`ClassView`, tells where nothing stands; it is what its entry and the other ones say (`Listing.Depicts`),
so it is the same wherever the entries stand, and filters select the same names (`ofValue_of_perm`).

A listing with a number that is too long to be written is accepted in no order, but it need not be rejected
in all of them: in one order the number is met first, and in another an entry that has no name
(`longNumber_not_rejected`).
-/

set_option autoImplicit false

namespace DocletPreflight

/-- What is seen of a class that is referred to: its name, and whether it is listed. -/
structure Mention where
  name : String
  listed : Bool
  deriving DecidableEq, Repr

/-- What is seen of a class from outside. -/
structure ClassView where
  name : String
  superclass : Option Mention
  above : List Mention
  interfaces : List Mention
  annotations : List Mention
  deriving DecidableEq, Repr

/-- The facets of what is seen of a class. -/
def ClassView.facets (w : ClassView) : Facets :=
  ⟨w.superclass.map (·.name), some (w.interfaces.map (·.name)), some (w.annotations.map (·.name))⟩

namespace Listing

open Yaml (Value)
open Relation (TransGen)

/-- What is seen of what a reference leads to. -/
def mention (l : Listing) (r : TypeRef) : Mention :=
  ⟨l.nameOf r, (entryOf l.classes r).isSome⟩

/-- What is seen of a class of a listing. -/
def view (l : Listing) (c : ListedClass) : ClassView :=
  ⟨c.name, c.superclass.map l.mention, (l.chain c).map l.mention, c.interfaces.map l.mention,
    c.annotations.map l.mention⟩

/-- The names of the classes that a filter accepts. -/
def namesAccepted (l : Listing) (f : ClassFilter) : List String :=
  (l.classes.filter fun c => f.accepts (l.facets c)).map (·.name)

instance (e : Value) (name : String) : Decidable (IsCalled e name) :=
  decidable_of_iff ((e.field "name").written? = some name ∧ name ≠ "")
    ⟨fun h => isCalled_of_written h.1 h.2, fun h => ⟨h.written, h.nonempty⟩⟩

/-- What is seen of a name among entries. -/
def mentionAmong (es : List Value) (name : String) : Mention :=
  ⟨name, es.any fun e => IsCalled e name⟩

/-- A view is the one that an entry gives among others: the names are those that it writes and those above
it. -/
inductive Depicts (es : List Value) (e : Value) : ClassView → Prop where
  | intro {name : String} {above : List String} (hname : IsCalled e name)
      (habove : WrittenAbove es e above) :
      Depicts es e
        ⟨name, (writtenSuperclass e).map (mentionAmong es), above.map (mentionAmong es),
          (e.field "implements").writtenTexts.map (mentionAmong es),
          (e.field "annotations").writtenTexts.map (mentionAmong es)⟩

/-- One of some entries extends another, wherever they stand. -/
def ExtendsAmong (es : List Value) (e f : Value) : Prop :=
  e ∈ es ∧ f ∈ es ∧ ∃ name, (e.field "extends").written? = some name ∧
    (f.field "name").written? = some name

variable {es es' : List Value}

/-! ## Well-formed entries in any order -/

/-- A way up among entries is one between their places. -/
theorem transGen_extends_of_among {e f : Value} (h : TransGen (ExtendsAmong es) e f) {i j : Nat}
    (hi : es[i]? = some e) (hj : es[j]? = some f) : TransGen (Extends es) i j := by
  induction h generalizing j with
  | single h =>
    obtain ⟨-, -, name, hextends, hname⟩ := h
    exact .single ⟨e, _, name, hi, hj, hextends, hname⟩
  | tail _ h ih =>
    obtain ⟨hb, -, name, hextends, hname⟩ := h
    obtain ⟨k, hk⟩ := List.mem_iff_getElem?.mp hb
    exact .tail (ih hk) ⟨_, _, name, hk, hj, hextends, hname⟩

/-- A way up between places is one among the entries there. -/
theorem transGen_among_of_extends {i j : Nat} (h : TransGen (Extends es) i j) :
    ∃ e f, es[i]? = some e ∧ es[j]? = some f ∧ TransGen (ExtendsAmong es) e f := by
  induction h with
  | single h =>
    obtain ⟨e, f, name, he, hf, hextends, hname⟩ := h
    exact ⟨e, f, he, hf, .single ⟨List.mem_of_getElem? he, List.mem_of_getElem? hf, name, hextends,
      hname⟩⟩
  | tail _ h ih =>
    obtain ⟨e, b, he, hb, hpath⟩ := ih
    obtain ⟨b', f, name, hb', hf, hextends, hname⟩ := h
    obtain rfl := Option.some.inj (hb.symm.trans hb')
    exact ⟨e, f, he, hf, .tail hpath ⟨List.mem_of_getElem? hb, List.mem_of_getElem? hf, name,
      hextends, hname⟩⟩

/-- Whether following what entries extend comes back does not depend on their places. -/
theorem acyclic_iff_among : Acyclic es ↔ ∀ e, ¬TransGen (ExtendsAmong es) e e := by
  constructor
  · intro h e he
    have hmem : e ∈ es := by
      obtain ⟨f, ⟨hmem, -⟩, -⟩ := TransGen.head'_iff.mp he
      exact hmem
    obtain ⟨i, hi⟩ := List.mem_iff_getElem?.mp hmem
    exact h i (transGen_extends_of_among he hi hi)
  · intro h i hi
    obtain ⟨e, f, he, hf, hpath⟩ := transGen_among_of_extends hi
    obtain rfl := Option.some.inj (he.symm.trans hf)
    exact h e hpath

/-- Entries are called apart in any order. -/
theorem CalledApart.of_perm (h : es.Perm es') (hapart : CalledApart es) : CalledApart es' := by
  refine (h.pairwise_iff ?_).mp hapart
  intro e f hef name hf he
  exact hef name he hf

/-- Entries are well-formed in any order. -/
theorem WellFormed.of_perm (h : es.Perm es') (hes : WellFormed es) : WellFormed es' where
  called := fun e he => hes.called e (h.mem_iff.mpr he)
  apart := hes.apart.of_perm h
  acyclic := by
    have hamong : ExtendsAmong es' = ExtendsAmong es := by
      funext e f
      simp only [ExtendsAmong, h.mem_iff]
    rw [acyclic_iff_among, hamong]
    exact acyclic_iff_among.mp hes.acyclic

/-! ## Views in any order -/

/-- Of entries that are called apart, only one has a name. -/
theorem eq_of_isCalled (hapart : CalledApart es) {e f : Value} (he : e ∈ es) (hf : f ∈ es)
    {name : String} (hename : IsCalled e name) (hfname : IsCalled f name) : e = f := by
  have hsymm : Std.Symm fun e f => ∀ name, IsCalled e name → ¬IsCalled f name :=
    ⟨fun e f h name hf he => h name he hf⟩
  by_contra hne
  exact hapart.forall he hf hne name hename hfname

/-- The names above an entry are determined. -/
theorem WrittenAbove.unique (hapart : CalledApart es) {e : Value} {above above' : List String}
    (h : WrittenAbove es e above) (h' : WrittenAbove es e above') : above = above' := by
  induction h generalizing above' with
  | top hextends =>
    cases h' with
    | top => rfl
    | outside hextends' => rw [hextends] at hextends'; cases hextends'
    | up hextends' => rw [hextends] at hextends'; cases hextends'
  | outside hextends hnone =>
    cases h' with
    | top hextends' => rw [hextends] at hextends'; cases hextends'
    | outside hextends' => rw [Option.some.inj (hextends.symm.trans hextends')]
    | up hextends' hf hname =>
      rw [← Option.some.inj (hextends.symm.trans hextends')] at hname
      exact absurd hname (hnone _ hf)
  | up hextends hf hname _ ih =>
    cases h' with
    | top hextends' => rw [hextends] at hextends'; cases hextends'
    | outside hextends' hnone =>
      rw [Option.some.inj (hextends.symm.trans hextends')] at hname
      exact absurd hname (hnone _ hf)
    | up hextends' hf' hname' habove' =>
      obtain rfl := Option.some.inj (hextends.symm.trans hextends')
      obtain rfl := eq_of_isCalled hapart hf hf' hname hname'
      rw [ih habove']

/-- The names above an entry do not depend on the order of the entries. -/
theorem WrittenAbove.of_perm (h : es.Perm es') {e : Value} {above : List String}
    (habove : WrittenAbove es e above) : WrittenAbove es' e above := by
  induction habove with
  | top hextends => exact .top hextends
  | outside hextends hnone => exact .outside hextends fun f hf => hnone f (h.mem_iff.mpr hf)
  | up hextends hf hname _ ih => exact .up hextends (h.mem_iff.mp hf) hname ih

/-- What is seen of a name does not depend on the order of the entries. -/
theorem mentionAmong_of_perm (h : es.Perm es') : mentionAmong es = mentionAmong es' := by
  funext name
  rw [mentionAmong, mentionAmong, h.any_eq]

/-- The view that an entry gives does not depend on the order of the entries. -/
theorem Depicts.of_perm (h : es.Perm es') {e : Value} {w : ClassView} (hw : Depicts es e w) :
    Depicts es' e w := by
  cases hw with
  | intro hname habove =>
    rw [mentionAmong_of_perm h]
    exact .intro hname (habove.of_perm h)

/-- A view has the name of its entry. -/
theorem Depicts.isCalled {e : Value} {w : ClassView} (h : Depicts es e w) : IsCalled e w.name := by
  cases h with
  | intro hname habove => exact hname

/-- An entry gives one view. -/
theorem Depicts.unique (hapart : CalledApart es) {e : Value} {w w' : ClassView}
    (h : Depicts es e w) (h' : Depicts es e w') : w = w' := by
  cases h with
  | intro hname habove =>
    cases h' with
    | intro hname' habove' => rw [hname.unique hname', habove.unique hapart habove']

/-! ## The views of a listing -/

section

variable {l : Listing} (hdescribes : List.Forall₂ l.Describes es l.classes)
include hdescribes

/-- A name is that of an entry just when it is that of a class of the listing. -/
theorem exists_entry_called_iff {name : String} :
    (∃ e ∈ es, IsCalled e name) ↔ ∃ c ∈ l.classes, c.name = name := by
  constructor
  · rintro ⟨e, he, hname⟩
    obtain ⟨c, hc, hec⟩ := exists_right_of_mem hdescribes he
    exact ⟨c, hc, hec.name.unique hname⟩
  · rintro ⟨c, hc, rfl⟩
    obtain ⟨e, he, hec⟩ := exists_left_of_mem hdescribes hc
    exact ⟨e, he, hec.name⟩

/-- What is seen of a reference is what is seen of its name among the entries. -/
theorem mention_eq {r : TypeRef} {d : ListedClass} (h : l.RefersTo r d) :
    l.mention r = mentionAmong es r.name := by
  have hiff : (∃ e ∈ es, IsCalled e r.name) ↔ ∃ c ∈ l.classes, c.name = r.name :=
    exists_entry_called_iff hdescribes
  rw [mention, mentionAmong, h.nameOf_eq]
  cases h with
  | @listed j d hposition hd hname =>
    have hlisted : (es.any fun e => IsCalled e r.name) = true := by
      simpa using hiff.mpr ⟨d, List.mem_of_getElem? hd, hname⟩
    simp [entryOf, hposition, hd, hlisted]
  | bare hposition hnone =>
    have hlisted : (es.any fun e => IsCalled e r.name) = false := by
      rw [Bool.eq_false_iff]
      intro hany
      obtain ⟨d, hd, hname⟩ := hiff.mp (by simpa using hany)
      exact hnone d hd hname
    simp [entryOf, hposition, hlisted]

/-- What is seen of references is what is seen of their names among the entries. -/
theorem map_mention_eq {rs : List TypeRef} (h : ∀ r ∈ rs, ∃ d, l.RefersTo r d) :
    rs.map l.mention = (rs.map (·.name)).map (mentionAmong es) := by
  rw [List.map_map]
  refine List.map_congr_left fun r hr => ?_
  obtain ⟨d, hd⟩ := h r hr
  exact mention_eq hdescribes hd

/-- What is seen of a class is the view that its entry gives. -/
theorem depicts_view {e : Value} {c : ListedClass} {above : List ListedClass}
    (he : l.Describes e c) (habove : l.HasAbove es e c above) : Depicts es e (l.view c) := by
  have hsuper : c.superclass.map l.mention = (writtenSuperclass e).map (mentionAmong es) := by
    rw [← he.superclass]
    cases hc : c.superclass with
    | none => rfl
    | some r =>
      obtain ⟨d, hd⟩ := he.references r (superclass_of_mem_references hc)
      rw [Option.map_some, mention_eq hdescribes hd]
      rfl
  have hinterfaces : c.interfaces.map l.mention =
      (e.field "implements").writtenTexts.map (mentionAmong es) := by
    rw [← he.interfaces]
    refine map_mention_eq hdescribes fun r hr => he.references r ?_
    simp [ListedClass.references, hr]
  have hannotations : c.annotations.map l.mention =
      (e.field "annotations").writtenTexts.map (mentionAmong es) := by
    rw [← he.annotations]
    refine map_mention_eq hdescribes fun r hr => he.references r ?_
    simp [ListedClass.references, hr]
  have hchain : (l.chain c).map l.mention =
      (above.map (·.name)).map (mentionAmong es) := by
    obtain ⟨refs, hclimbs, hrefs⟩ := habove.climbs
    rw [chain, hclimbs, Option.getD_some, ← map_name_of_refersTo hrefs]
    exact map_mention_eq hdescribes fun r hr => exists_of_refersTo hrefs hr
  rw [view, hsuper, hinterfaces, hannotations, hchain]
  exact .intro he.name habove.written

end

/-- The views of a listing are those that its entries give, one by one. -/
theorem forall₂_depicts {file : String} {v : Value} {l : Listing} (h : ofValue file v = .ok l) :
    List.Forall₂ (Depicts (entries v)) (entries v) (l.classes.map l.view) := by
  have hdescribes := forall₂_describes h
  rw [List.forall₂_map_right_iff]
  refine List.forall₂_iff_get.mpr ⟨hdescribes.length_eq, ?_⟩
  intro i hi hi'
  obtain ⟨above, habove⟩ := exists_hasAbove h hi hi'
  exact depicts_view hdescribes (hdescribes.get hi hi') habove

/-- The view of a class shows its facets. -/
theorem facets_view (l : Listing) (c : ListedClass) : (l.view c).facets = l.facets c := by
  simp [ClassView.facets, view, facets, mention, Function.comp_def]

/-- A filter accepts classes by their views alone. -/
theorem namesAccepted_eq (l : Listing) (f : ClassFilter) :
    l.namesAccepted f = ((l.classes.map l.view).filter fun w => f.accepts w.facets).map (·.name) := by
  rw [List.filter_map, List.map_map, namesAccepted]
  simp only [Function.comp_def, facets_view]
  rfl

/-! ## The order of entries -/

/-- Two listings of some entries look alike: what is seen of classes is the same for equal entries at
whatever places, and for equal names, and the listings are of the same classes as far as can be seen. So
filters accept the same names. -/
structure LooksLike (es es' : List Value) (l l' : Listing) : Prop where
  places : ∀ i j : Nat, es[i]? = es'[j]? → l.classes[i]?.map l.view = l'.classes[j]?.map l'.view
  names : ∀ c ∈ l.classes, ∀ c' ∈ l'.classes, c.name = c'.name → l.view c = l'.view c'
  views : (l.classes.map l.view).Perm (l'.classes.map l'.view)
  filters : ∀ f, (l.namesAccepted f).Perm (l'.namesAccepted f)

/-- Values with the same entries in another order are read as listings that look alike. -/
theorem looksLike_of_perm {v v' : Value} (h : (entries v).Perm (entries v')) {file file' : String}
    {l l' : Listing} (hl : ofValue file v = .ok l) (hl' : ofValue file' v' = .ok l') :
    LooksLike (entries v) (entries v') l l' := by
  have hapart := (wellFormed_of_ofValue hl).apart
  have hviews := forall₂_depicts hl
  have hviews' : List.Forall₂ (Depicts (entries v)) (entries v') (l'.classes.map l'.view) :=
    (forall₂_depicts hl').imp fun _ _ hw => hw.of_perm h.symm
  have hperm : (l.classes.map l.view).Perm (l'.classes.map l'.view) := by
    obtain ⟨ws, hws, hwsperm⟩ := List.perm_comp_forall₂ h hviews'
    have hunique : Relator.RightUnique (Depicts (entries v)) :=
      fun _ _ _ hw hw' => hw.unique hapart hw'
    obtain rfl := hunique.forall₂ hws hviews
    exact hwsperm
  refine ⟨?_, ?_, hperm, ?_⟩
  · intro i j hij
    rw [← List.getElem?_map, ← List.getElem?_map]
    cases hi : (entries v)[i]? with
    | none =>
      have hi' := hviews.length_eq ▸ List.getElem?_eq_none_iff.mp hi
      have hj' := hviews'.length_eq ▸ List.getElem?_eq_none_iff.mp (hij.symm.trans hi)
      rw [List.getElem?_eq_none hi', List.getElem?_eq_none hj']
    | some e =>
      obtain ⟨w, hw, hdepicts⟩ := exists_getElem?_of_forall₂ hviews hi
      obtain ⟨w', hw', hdepicts'⟩ := exists_getElem?_of_forall₂ hviews' (hij.symm.trans hi)
      rw [hw, hw', hdepicts.unique hapart hdepicts']
  · intro c hc c' hc' hname
    obtain ⟨e, he, hdepicts⟩ := exists_left_of_mem hviews (List.mem_map_of_mem hc)
    obtain ⟨e', he', hdepicts'⟩ := exists_left_of_mem hviews' (List.mem_map_of_mem hc')
    have hcalled : IsCalled e' c.name := hname ▸ hdepicts'.isCalled
    obtain rfl := eq_of_isCalled hapart he (h.mem_iff.mpr he') hdepicts.isCalled hcalled
    exact hdepicts.unique hapart hdepicts'
  · intro f
    rw [namesAccepted_eq, namesAccepted_eq]
    exact (hperm.filter _).map _

/-- Listings of the same entries in another order are both accepted, or neither is. If the entries are
legible, they are both rejected otherwise. Listings that are both accepted look alike. -/
theorem ofValue_of_perm {v v' : Value} (h : (entries v).Perm (entries v')) (file file' : String) :
    ((∃ l, ofValue file v = .ok l) ↔ ∃ l, ofValue file' v' = .ok l) ∧
    ((∀ e ∈ entries v, Legible e) →
      ((∃ l, ofValue file v = .ok l) ∧ ∃ l, ofValue file' v' = .ok l) ∨
      ((∃ e, ofValue file v = .error (.rejected e)) ∧
        ∃ e, ofValue file' v' = .error (.rejected e))) ∧
    ∀ l l', ofValue file v = .ok l → ofValue file' v' = .ok l' →
      LooksLike (entries v) (entries v') l l' := by
  have hlegible : (∀ e ∈ entries v, Legible e) ↔ ∀ e ∈ entries v', Legible e :=
    forall_congr' fun e => imp_congr_left h.mem_iff
  have hwell : WellFormed (entries v) ↔ WellFormed (entries v') :=
    ⟨WellFormed.of_perm h, WellFormed.of_perm h.symm⟩
  have haccepted : (∃ l, ofValue file v = .ok l) ↔ ∃ l, ofValue file' v' = .ok l := by
    rw [accepted_iff, accepted_iff, hlegible, hwell]
  refine ⟨haccepted, ?_, fun l l' hl hl' => looksLike_of_perm h hl hl'⟩
  intro hall
  rcases accepted_or_rejected file hall with hok | ⟨e, he⟩
  · exact .inl ⟨hok, haccepted.mp hok⟩
  · rcases accepted_or_rejected file' (hlegible.mp hall) with hok' | hrejected'
    · obtain ⟨l, hl⟩ := haccepted.mpr hok'
      cases he.symm.trans hl
    · exact .inr ⟨⟨e, he⟩, hrejected'⟩

/-- A value that lists some entries. -/
def listing (es : List Value) : Value := .map [("classes", .list es)]

/-- A class and the one that it extends, which is an entry too. -/
def childEntry : Value := .map [("name", .str "A"), ("extends", .str "B")]

/-- An entry without a superclass, with two interfaces. -/
def baseEntry : Value := .map [("name", .str "B"), ("implements", .list [.str "A", .str "I"])]

/-- The two entries are accepted in both orders, and look alike. -/
theorem childAndBase_lookLike :
    ∃ l l', ofValue "classes.yml" (listing [childEntry, baseEntry]) = .ok l ∧
      ofValue "classes.yml" (listing [baseEntry, childEntry]) = .ok l' ∧
      LooksLike [childEntry, baseEntry] [baseEntry, childEntry] l l' := by
  have hperm : (entries (listing [childEntry, baseEntry])).Perm
      (entries (listing [baseEntry, childEntry])) := List.Perm.swap baseEntry childEntry []
  have hl : ofValue "classes.yml" (listing [childEntry, baseEntry]) =
      .ok ⟨[⟨⟨some ⟨"B", some 1⟩, [], []⟩, "A"⟩,
        ⟨⟨none, [⟨"A", some 0⟩, ⟨"I", none⟩], []⟩, "B"⟩]⟩ := by decide +kernel
  obtain ⟨haccepted, -, hlooks⟩ := ofValue_of_perm hperm "classes.yml" "classes.yml"
  obtain ⟨l', hl'⟩ := haccepted.mp ⟨_, hl⟩
  exact ⟨_, l', hl, hl', hlooks _ l' hl hl'⟩

/-- An entry of which the name is a number that is too long to be written. -/
def longNumberEntry : Value := .map [("name", .int (Nat.pow 10 Yaml.digitLimit))]

/-- The order of entries decides whether a listing with such a number is rejected. -/
theorem longNumber_not_rejected :
    ¬∀ (file : String) (v v' : Value), (entries v).Perm (entries v') →
      ((∃ l, ofValue file v = .ok l) ∧ ∃ l, ofValue file v' = .ok l) ∨
      ((∃ e, ofValue file v = .error (.rejected e)) ∧
        ∃ e, ofValue file v' = .error (.rejected e)) := by
  intro h
  have hfault : ofValue "classes.yml" (listing [longNumberEntry, .map []]) =
      .error (.fault .numberTooLong) := by decide +kernel
  rcases h "classes.yml" (listing [longNumberEntry, .map []]) (listing [.map [], longNumberEntry])
    (List.Perm.swap _ _ []) with ⟨⟨l, hl⟩, -⟩ | ⟨⟨e, he⟩, -⟩
  · cases hfault.symm.trans hl
  · cases hfault.symm.trans he

end Listing

end DocletPreflight
