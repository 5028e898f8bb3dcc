import DocletPreflight.Proofs.Listing.Graph
import DocletPreflight.Proofs.Listing.Reading

/-!
# How references are written

The fields `implements` and `annotations` of an entry list types, and a single type may stand there by itself,
without a list around it. In a list, numbers and truth values are names just as texts are. By itself only a
text is: a number or a truth value that stands there by itself is no reference at all
(`ofValue_respell_scalar`), although it would be one in a list, or as the superclass. So the reference to
a class with such a name is lost by the way it is written (`bareNumber_not_listed`).

Whatever is written in such a field of an entry, the rest of the listing stays as it is
(`ofValue_respell`).
-/

set_option autoImplicit false

namespace DocletPreflight

namespace Yaml.Value

/-! ## Fields that are written anew -/

/-- A mapping with a field written anew; what is no mapping has no other fields. -/
def withField (v : Value) (name : String) (x : Value) : Value :=
  match v with
  | map fields => map (fields.filter (·.1 ≠ name) ++ [(name, x)])
  | _ => map [(name, x)]

/-- A field that is written is read back. -/
@[simp] theorem field_withField_self (name : String) (x v : Value) :
    (v.withField name x).field name = x := by
  cases v <;> simp [withField, field]

/-- Writing a field leaves the others. -/
theorem field_withField_of_ne {name other : String} (h : other ≠ name) (x v : Value) :
    (v.withField name x).field other = v.field other := by
  have hother : (other == name) = false := by simpa using h
  cases v with
  | map fields =>
    simp only [withField, field, List.reverse_append, List.reverse_singleton, List.singleton_append,
      List.lookup_cons, hother, ← List.filter_reverse, lookup_filter_ne h]
  | _ => simp [withField, field, List.lookup_cons, hother]

end Yaml.Value

namespace Listing

open Yaml (Value)

/-- The fields of an entry that list types. -/
inductive ListField where
  | implements
  | annotations
  deriving DecidableEq, Repr

/-- The name of a field that lists types. -/
def ListField.name : ListField → String
  | implements => "implements"
  | annotations => "annotations"

/-- The class with other references by way of a field. -/
def ListField.put (refs : List TypeRef) : ListField → ListedClass → ListedClass
  | implements, c => { c with interfaces := refs }
  | annotations, c => { c with annotations := refs }

/-- The reference to what has a name, be it listed or not. -/
def referenceTo (l : Listing) (name : String) : TypeRef := resolve (l.classes.map (·.name)) name

/-- The listing in which the class at a place refers to other types by way of a field. -/
def refer (l : Listing) (i : Nat) (field : ListField) (types : List String) : Listing :=
  ⟨l.classes.modify i (field.put (types.map l.referenceTo))⟩

/-- The value with a field of the entry at a place written anew. -/
def respell (v : Value) (i : Nat) (field : ListField) (x : Value) : Value :=
  v.withField "classes" (.list ((entries v).modify i (·.withField field.name x)))

variable {file : String} {v x : Value} {l : Listing} {i : Nat} {field : ListField}

/-- Spelling a field anew changes one entry and leaves the others. -/
theorem entries_respell :
    entries (respell v i field x) = (entries v).modify i (·.withField field.name x) := by
  simp [entries, respell, Value.items]

/-! ## What the field leaves as it is -/

section

variable (field : ListField) (x : Value)

/-- The fields that list types are not the name. -/
@[simp] theorem field_name_withField (e : Value) :
    (e.withField field.name x).field "name" = e.field "name" :=
  Value.field_withField_of_ne (by cases field <;> decide) x e

/-- The fields that list types are not the superclass. -/
@[simp] theorem field_extends_withField (e : Value) :
    (e.withField field.name x).field "extends" = e.field "extends" :=
  Value.field_withField_of_ne (by cases field <;> decide) x e

/-- An entry keeps its name when a field that lists types is spelled anew. -/
theorem isCalled_withField (e : Value) (name : String) (h : IsCalled e name) :
    IsCalled (e.withField field.name x) name :=
  isCalled_of_written ((field_name_withField field x e).symm ▸ h.written) h.nonempty

/-- An entry stays legible when what is written in it can be read. -/
theorem legible_withField_iff {e : Value} (h : Legible e) :
    Legible (e.withField field.name x) ↔ x.texts = .ok x.writtenTexts := by
  constructor
  · intro hnew
    cases field with
    | implements => simpa [ListField.name] using hnew.interfaces
    | annotations => simpa [ListField.name] using hnew.annotations
  · intro hx
    refine ⟨by simp [h.name], by simp [h.superclass], ?_, ?_⟩
    all_goals
      cases field <;>
        simp [ListField.name, Value.field_withField_of_ne, hx, h.interfaces, h.annotations]

/-- Only by way of the field does the class refer to other types. -/
theorem classFor_withField (names : List String) (name : String) (e : Value) :
    classFor names name (e.withField field.name x) =
      field.put (x.writtenTexts.map (resolve names)) (classFor names name e) := by
  have hextends : writtenSuperclass (e.withField field.name x) = writtenSuperclass e := by
    simp [writtenSuperclass]
  simp only [classFor, linksFor, hextends]
  cases field <;>
    simp [ListField.name, ListField.put, ListedClass.link, Value.field_withField_of_ne]

end

/-- What entries extend is decided by two of their fields. -/
theorem extends_iff_getElem?_map {es : List Value} {j k : Nat} :
    Extends es j k ↔ ∃ u w name, (es.map (·.field "extends"))[j]? = some u ∧
      (es.map (·.field "name"))[k]? = some w ∧ u.written? = some name ∧ w.written? = some name := by
  simp only [List.getElem?_map, Option.map_eq_some_iff]
  constructor
  · rintro ⟨e, f, name, he, hf, hextends, hname⟩
    exact ⟨_, _, name, ⟨e, he, rfl⟩, ⟨f, hf, rfl⟩, hextends, hname⟩
  · rintro ⟨_, _, name, ⟨e, he, rfl⟩, ⟨f, hf, rfl⟩, hextends, hname⟩
    exact ⟨e, f, name, he, hf, hextends, hname⟩

/-- Spelling a field that lists types anew brings in no cycle. -/
theorem acyclic_respell (h : Acyclic (entries v)) : Acyclic (entries (respell v i field x)) := by
  have hextends : Extends (entries (respell v i field x)) = Extends (entries v) := by
    funext j k
    rw [extends_iff_getElem?_map, extends_iff_getElem?_map, entries_respell,
      map_modify_of_eq (field_extends_withField field x), map_modify_of_eq (field_name_withField field x)]
  intro j
  rw [hextends]
  exact h j

/-- The names of the classes of a listing are those of its entries. -/
theorem map_name_of_shape {names : List String} (hcalled : List.Forall₂ IsCalled (entries v) names)
    (hclasses : l.classes = tableFor names (entries v)) : l.classes.map (·.name) = names := by
  rw [hclasses, map_name_tableFor hcalled.length_eq]

/-- With other types in a field of an entry that can be read, a listing is accepted as before, and nothing
but the references by way of the field is different. -/
theorem ofValue_respell (hl : ofValue file v = .ok l) {types : List String} (hx : x.texts = .ok types)
    (i : Nat) (field : ListField) :
    ofValue file (respell v i field x) = .ok (l.refer i field types) := by
  obtain ⟨names, hcalled, hnodup, hclasses, -⟩ := shape_of_ofValue hl
  have hwritten := Value.writtenTexts_of_texts hx
  have hlegible : ∀ e ∈ entries (respell v i field x), Legible e := by
    have hold := legible_of_ofValue hl
    rw [entries_respell]
    refine forall_mem_modify hold (fun e he => ?_) i
    exact (legible_withField_iff field x (hold e he)).mpr (hwritten ▸ hx)
  have hcalled' : List.Forall₂ IsCalled (entries (respell v i field x)) names := by
    rw [entries_respell]
    exact forall₂_modify_left (isCalled_withField field x) hcalled i
  have hacyclic : Acyclic (entries (respell v i field x)) :=
    acyclic_respell (wellFormed_of_ofValue hl).acyclic
  have hreference : resolve names = l.referenceTo := by
    funext name
    rw [referenceTo, map_name_of_shape hcalled hclasses]
  have htable : tableFor names (entries (respell v i field x)) = (l.refer i field types).classes := by
    rw [entries_respell, tableFor, zipWith_modify_right (classFor_withField field x names), refer,
      hclasses, hwritten, hreference]
    rfl
  rw [ofValue_eq_of_called hlegible hcalled' hnodup, List.find?_eq_none.mpr, htable]
  intro c hc
  rw [Bool.not_eq_true]
  exact (forall_not_isCyclic_iff_acyclic hcalled' hnodup).mpr hacyclic c hc

/-- Names are read alike when an entry changes but for its name. -/
theorem namesFrom_modify {f : Value → Value} (h : ∀ e, entryName file (f e) = entryName file e)
    (seen : List String) (es : List Value) (i : Nat) :
    namesFrom file seen (es.modify i f) = namesFrom file seen es := by
  induction es generalizing seen i with
  | nil => cases i <;> rfl
  | cons e rest ih =>
    cases i with
    | zero => rw [List.modify_zero_cons, namesFrom_cons, namesFrom_cons, h]
    | succ i => simp only [List.modify_succ_cons, namesFrom_cons, ih]

/-- With a number in it that is too long to be written, the field cannot be read. -/
theorem ofValue_respell_tooLong (hl : ofValue file v = .ok l) (hx : x.texts ≠ .ok x.writtenTexts)
    (hi : i < (entries v).length) (field : ListField) :
    ofValue file (respell v i field x) = .error (.fault .numberTooLong) := by
  have hold := legible_of_ofValue hl
  obtain ⟨names, hnames, -⟩ := bind_eq_ok hl
  have hfirst : namesFrom file [] (entries (respell v i field x)) = .ok names := by
    rw [entries_respell, namesFrom_modify (fun e => ?_), hnames]
    simp only [entryName, field_name_withField]
  have hnew : (entries v)[i].withField field.name x ∈ entries (respell v i field x) := by
    refine List.mem_of_getElem? (i := i) ?_
    simp [entries_respell, hi]
  cases hsecond : linkAll names (entries (respell v i field x)) (names.map .unlinked) with
  | error e =>
    obtain rfl := failsOnly_linkAll hfirst e hsecond
    rw [ofValue, hfirst]
    simp only [hsecond, bind, Except.bind]
  | ok classes =>
    -- had the second round come to its end, all entries could be read
    obtain ⟨hnamed, -, ⟨links, hlinks⟩, -⟩ := rounds_of_linkAll hfirst hsecond
    have hlegible := legible_of_rounds hnamed hlinks _ hnew
    exact absurd ((legible_withField_iff field x (hold _ (List.getElem_mem hi))).mp hlegible) hx

/-! ## References in different spellings -/

/-- The classes of a listing keep their names when one of them refers to other types. -/
theorem map_name_refer (l : Listing) (i : Nat) (field : ListField) (types : List String) :
    (l.refer i field types).classes.map (·.name) = l.classes.map (·.name) :=
  map_modify_of_eq (fun c => by cases field <;> rfl) _ i

/-- Names resolve alike when a class refers to other types. -/
theorem referenceTo_refer (l : Listing) (i : Nat) (field : ListField) (types : List String) :
    (l.refer i field types).referenceTo = l.referenceTo := by
  funext name
  rw [referenceTo, referenceTo, map_name_refer]

/-- The reference to the name of a class refers to that class. -/
theorem refersTo_referenceTo (hnodup : (l.classes.map (·.name)).Nodup) {d : ListedClass}
    (hd : d ∈ l.classes) : l.RefersTo (l.referenceTo d.name) d := by
  obtain ⟨j, hj⟩ := List.mem_iff_getElem?.mp hd
  have hname : (l.classes.map (·.name))[j]? = some d.name := by simp [hj]
  exact .listed ((idxOf?_eq_some_iff_of_nodup hnodup).mpr hname) hj rfl

/-- No two classes of a listing have one name. -/
theorem nodup_of_ofValue (hl : ofValue file v = .ok l) : (l.classes.map (·.name)).Nodup := by
  obtain ⟨names, hcalled, hnodup, hclasses, -⟩ := shape_of_ofValue hl
  rw [map_name_of_shape hcalled hclasses]
  exact hnodup

/-- The superclass of a class is a reference to what its entry extends. -/
theorem superclass_of_extends (hl : ofValue file v = .ok l) {e : Value} (he : (entries v)[i]? = some e)
    {t : String} (ht : (e.field "extends").written? = some t) (hne : t ≠ "") :
    ∃ c, l.classes[i]? = some c ∧ c.superclass = some (l.referenceTo t) := by
  obtain ⟨names, hcalled, -, hclasses, -⟩ := shape_of_ofValue hl
  obtain ⟨name, hname, -⟩ := exists_getElem?_of_forall₂ hcalled he
  refine ⟨classFor names name e, ?_, ?_⟩
  · rw [hclasses]
    exact getElem?_tableFor.mpr ⟨name, e, hname, he, rfl⟩
  · show (writtenSuperclass e).map (resolve names) = _
    rw [writtenSuperclass_eq_some_iff.mpr ⟨ht, hne⟩, Option.map_some, referenceTo,
      map_name_of_shape hcalled hclasses]

/-- What becomes of a name `t` that is written as `x` in a field of an entry, by itself or in a list, and
what becomes of it as the superclass. -/
structure ReadAsWritten (file : String) (v : Value) (l : Listing) (i : Nat) (field : ListField) (x : Value)
    (t : String) : Prop where
  bareText : x = .str t → ofValue file (respell v i field x) = .ok (l.refer i field [t])
  bareOther : x ≠ .str t → ofValue file (respell v i field x) = .ok (l.refer i field [])
  inList : x.text? = .ok (some t) →
    ofValue file (respell v i field (.list [x])) = .ok (l.refer i field [t])
  inListTooLong : ∀ e, x.text? = .error e → i < (entries v).length →
    ofValue file (respell v i field (.list [x])) = .error (.fault .numberTooLong)
  refersTo : ∀ d ∈ (l.refer i field [t]).classes, d.name = t →
    (l.refer i field [t]).RefersTo (l.referenceTo t) d
  superclass : ∀ e, (entries v)[i]? = some e → e.field "extends" = x → t ≠ "" →
    (∃ c, l.classes[i]? = some c ∧ c.superclass = some (l.referenceTo t)) ∧
      ∀ d ∈ l.classes, d.name = t → l.RefersTo (l.referenceTo t) d

/-- In a list, whatever can be written is a reference to the class of its name, as it is for a superclass. By
itself it is the same reference if it is a text, and none if it is a number or a truth value. -/
theorem ofValue_respell_scalar (hl : ofValue file v = .ok l) {x : Value} {t : String}
    (hx : x.written? = some t) (i : Nat) (field : ListField) :
    ReadAsWritten file v l i field x t where
  bareText := by
    rintro rfl
    exact ofValue_respell hl rfl i field
  bareOther := fun hne => ofValue_respell hl (Value.texts_of_not_text hx hne) i field
  inList := by
    intro htext
    refine ofValue_respell hl ?_ i field
    rw [Value.texts_singleton, htext]
    rfl
  inListTooLong := by
    intro e he hi
    refine ofValue_respell_tooLong hl ?_ hi field
    rw [Value.texts_singleton, he]
    exact nofun
  refersTo := by
    rintro d hd rfl
    have hnodup := map_name_refer l i field [d.name] ▸ nodup_of_ofValue hl
    rw [← referenceTo_refer l i field [d.name]]
    exact refersTo_referenceTo hnodup hd
  superclass := by
    rintro e he rfl hne
    refine ⟨superclass_of_extends hl he hx hne, ?_⟩
    rintro d hd rfl
    exact refersTo_referenceTo (nodup_of_ofValue hl) hd

/-- A class with a number for its name, and another class. -/
def numberAndOther : Value := .map [("classes", .list [.map [("name", .int 5)], .map [("name", .str "A")]])]

/-- Written in the second entry, the number is a reference to the first class in a list, and by itself it
is no reference. -/
theorem numberAndOther_read :
    ofValue "classes.yml" numberAndOther = .ok ⟨[.unlinked "5", .unlinked "A"]⟩ ∧
    ofValue "classes.yml" (respell numberAndOther 1 .implements (.int 5)) =
      .ok ⟨[.unlinked "5", .unlinked "A"]⟩ ∧
    ofValue "classes.yml" (respell numberAndOther 1 .implements (.list [.int 5])) =
      .ok ⟨[.unlinked "5", ⟨⟨none, [⟨"5", some 0⟩], []⟩, "A"⟩]⟩ := by
  have hl : ofValue "classes.yml" numberAndOther = .ok ⟨[.unlinked "5", .unlinked "A"]⟩ := by
    decide +kernel
  have hx : (Value.int 5).written? = some "5" := by decide
  have hread := ofValue_respell_scalar hl hx 1 .implements
  exact ⟨hl, hread.bareOther nofun, hread.inList (by decide +kernel)⟩

/-- So a reference may be lost by the way it is written. -/
theorem bareNumber_not_listed :
    ¬∀ (file : String) (v x : Value) (l : Listing) (i : Nat) (field : ListField),
      ofValue file v = .ok l → x.written? ≠ none →
      ofValue file (respell v i field x) = ofValue file (respell v i field (.list [x])) := by
  intro h
  have hl : ofValue "classes.yml" numberAndOther = .ok ⟨[.unlinked "5", .unlinked "A"]⟩ := by
    decide +kernel
  have hsame := h "classes.yml" numberAndOther (.int 5) _ 1 .implements hl (by decide)
  revert hsame
  decide +kernel

end Listing

end DocletPreflight
