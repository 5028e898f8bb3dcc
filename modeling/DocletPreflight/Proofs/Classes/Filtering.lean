import DocletPreflight.Command.Run
import Mathlib.Tactic.Common

/-!
# What a filter sees of a class

The classes of a documentation model lead to one another in any way that the host tool likes, in circles too,
and need not have lists of interfaces or annotations at all (`DocModel`). Descriptors that were given on their
own are such classes, and so are the entries of a listing (`facets_descriptors`, `facets_listed`). A filter
accepts a class just when the class has what each set dimension asks for, by the names that stand next to it
(`accepts_iff_passes`). So it tells two classes apart only by their direct superclass and by the sets of their
direct interfaces and annotation types, and these it does tell apart (`looksLike_iff`). A filter is the
conjunction of its dimensions, and one that has none accepts everything. `accepts_by_direct_facets` puts these
together.
-/

set_option autoImplicit false

namespace DocletPreflight

/-- A documentation model as far as a filter may ask: what leads from a class to others and to annotations,
and the names of these. A tool that has no list to offer gives none. -/
structure DocModel (Class Annotation : Type) where
  name : Class → String
  superclass : Class → Option Class
  interfaces : Class → Option (List Class)
  annotations : Class → Option (List Annotation)
  typeName : Annotation → String

namespace DocModel

variable {Class Annotation Class' Annotation' : Type}

/-- The facets of a class of a model. -/
def facets (M : DocModel Class Annotation) (c : Class) : Facets :=
  ⟨(M.superclass c).map M.name, (M.interfaces c).map (·.map M.name),
    (M.annotations c).map (·.map M.typeName)⟩

/-- The classes that are described on their own. -/
def descriptors : DocModel Descriptor Descriptor where
  name := Descriptor.name
  superclass
    | .mk _ superclass _ _ => superclass
  interfaces
    | .mk _ _ interfaces _ => interfaces
  annotations
    | .mk _ _ _ annotations => annotations
  typeName := Descriptor.name

/-- The entries of a listing, with the classes that they refer to. A reference that leads to no entry leads to
a class of which nothing but its name is known. -/
def ofListing (l : Listing) : DocModel ListedClass ListedClass where
  name := (·.name)
  superclass c := c.superclass.map fun r => (Listing.entryOf l.classes r).getD (.unlinked r.name)
  interfaces c :=
    some (c.interfaces.map fun r => (Listing.entryOf l.classes r).getD (.unlinked r.name))
  annotations c :=
    some (c.annotations.map fun r => (Listing.entryOf l.classes r).getD (.unlinked r.name))
  typeName := (·.name)

/-- A descriptor that stands for itself has the facets it carries. -/
theorem facets_descriptors (d : Descriptor) : descriptors.facets d = d.facets := by
  cases d
  rfl

/-- A class of a listing has the facets that the listing gives it. -/
theorem facets_listed (l : Listing) (c : ListedClass) : (ofListing l).facets c = l.facets c := by
  have hname : (fun r => ((Listing.entryOf l.classes r).getD (.unlinked r.name)).name) = l.nameOf := by
    funext r
    unfold Listing.nameOf
    cases Listing.entryOf l.classes r <;> rfl
  simp only [facets, ofListing, Listing.facets, Option.map_map, Option.map_some, List.map_map,
    Function.comp_def, hname]

/-! ## Direct facets -/

variable (M : DocModel Class Annotation) (c : Class)

/-- The class has a direct superclass of the name. -/
def HasSuperclass (type : String) : Prop := ∃ s, M.superclass c = some s ∧ M.name s = type

/-- The class has a list of direct interfaces, and one of them has the name. -/
def HasInterface (type : String) : Prop :=
  ∃ is, M.interfaces c = some is ∧ ∃ i ∈ is, M.name i = type

/-- The class has a list of annotations, and one of them is of the type. -/
def HasAnnotation (type : String) : Prop :=
  ∃ as, M.annotations c = some as ∧ ∃ a ∈ as, M.typeName a = type

/-- The class has all that a filter asks for. -/
structure Passes (f : ClassFilter) : Prop where
  superclass : ∀ type, f.superclass = some type → M.HasSuperclass c type
  interface : ∀ type, f.interface = some type → M.HasInterface c type
  annotation : ∀ type, f.annotationType = some type → M.HasAnnotation c type

/-- Two classes, maybe of different models, have direct superclasses of the same name or none, the same names
among their direct interfaces, and the same types among their annotations. -/
structure LooksLike (M' : DocModel Class' Annotation') (c' : Class') : Prop where
  superclass : ∀ type, M.HasSuperclass c type ↔ M'.HasSuperclass c' type
  interface : ∀ type, M.HasInterface c type ↔ M'.HasInterface c' type
  annotation : ∀ type, M.HasAnnotation c type ↔ M'.HasAnnotation c' type

end DocModel

namespace ClassFilter

/-- The filters of one dimension each. -/
def onlySuperclass (f : ClassFilter) : ClassFilter := ⟨f.superclass, .none, .none⟩

/-- The filter by the interface alone. -/
def onlyInterface (f : ClassFilter) : ClassFilter := ⟨.none, f.interface, .none⟩

/-- The filter by the annotation type alone. -/
def onlyAnnotationType (f : ClassFilter) : ClassFilter := ⟨.none, .none, f.annotationType⟩

/-- The second filter asks for all that the first one asks for, and maybe for more. -/
structure AsksNoMoreThan (f g : ClassFilter) : Prop where
  superclass : ∀ type, f.superclass = some type → g.superclass = some type
  interface : ∀ type, f.interface = some type → g.interface = some type
  annotation : ∀ type, f.annotationType = some type → g.annotationType = some type

variable {Class Annotation Class' Annotation' : Type} {M : DocModel Class Annotation} {c : Class}

/-- The check on superclasses reads off the facets what the model of the classes says. -/
theorem extendsType_facets_iff {type : String} :
    extendsType (M.facets c) type = true ↔ M.HasSuperclass c type := by
  simp [extendsType, DocModel.facets, DocModel.HasSuperclass]

/-- The check on interfaces reads off the facets what the model of the classes says. -/
theorem implementsType_facets_iff {type : String} :
    implementsType (M.facets c) type = true ↔ M.HasInterface c type := by
  unfold implementsType Facets.interfaceNames DocModel.facets DocModel.HasInterface
  cases M.interfaces c <;> simp

/-- The check on annotations reads off the facets what the model of the classes says. -/
theorem carriesType_facets_iff {type : String} :
    carriesType (M.facets c) type = true ↔ M.HasAnnotation c type := by
  unfold carriesType Facets.annotationNames DocModel.facets DocModel.HasAnnotation
  cases M.annotations c <;> simp

/-- A filter accepts a class just when the class has all that it asks for. -/
theorem accepts_iff_passes {f : ClassFilter} : f.accepts (M.facets c) = true ↔ M.Passes c f := by
  simp only [accepts, Bool.and_eq_true, Option.all_eq_true, extendsType_facets_iff,
    implementsType_facets_iff, carriesType_facets_iff]
  constructor
  · rintro ⟨⟨hs, hi⟩, ha⟩
    exact ⟨hs, hi, ha⟩
  · rintro ⟨hs, hi, ha⟩
    exact ⟨⟨hs, hi⟩, ha⟩

/-- Filters of one dimension ask for one thing. -/
theorem accepts_onlySuperclass_iff {type : String} :
    accepts ⟨some type, .none, .none⟩ (M.facets c) = true ↔ M.HasSuperclass c type := by
  simp [accepts, extendsType_facets_iff]

/-- A filter by an interface alone accepts just the classes that have it. -/
theorem accepts_onlyInterface_iff {type : String} :
    accepts ⟨.none, some type, .none⟩ (M.facets c) = true ↔ M.HasInterface c type := by
  simp [accepts, implementsType_facets_iff]

/-- A filter by an annotation type alone accepts just the classes that carry it. -/
theorem accepts_onlyAnnotationType_iff {type : String} :
    accepts ⟨.none, .none, some type⟩ (M.facets c) = true ↔ M.HasAnnotation c type := by
  simp [accepts, carriesType_facets_iff]

/-- Classes look alike just when no filter tells them apart. -/
theorem looksLike_iff {M' : DocModel Class' Annotation'} {c' : Class'} :
    M.LooksLike c M' c' ↔ ∀ g : ClassFilter, g.accepts (M.facets c) = g.accepts (M'.facets c') := by
  constructor
  · intro h g
    rw [Bool.eq_iff_iff, accepts_iff_passes, accepts_iff_passes]
    constructor
    · rintro ⟨hs, hi, ha⟩
      exact ⟨fun type hg => (h.superclass type).mp (hs type hg),
        fun type hg => (h.interface type).mp (hi type hg),
        fun type hg => (h.annotation type).mp (ha type hg)⟩
    · rintro ⟨hs, hi, ha⟩
      exact ⟨fun type hg => (h.superclass type).mpr (hs type hg),
        fun type hg => (h.interface type).mpr (hi type hg),
        fun type hg => (h.annotation type).mpr (ha type hg)⟩
  · intro h
    refine ⟨fun type => ?_, fun type => ?_, fun type => ?_⟩
    · rw [← accepts_onlySuperclass_iff, ← accepts_onlySuperclass_iff, h]
    · rw [← accepts_onlyInterface_iff, ← accepts_onlyInterface_iff, h]
    · rw [← accepts_onlyAnnotationType_iff, ← accepts_onlyAnnotationType_iff, h]

/-- A filter is the conjunction of the filters by each of its parts alone. -/
theorem accepts_eq_and (f : ClassFilter) (facets : Facets) :
    f.accepts facets = (f.onlySuperclass.accepts facets && f.onlyInterface.accepts facets &&
      f.onlyAnnotationType.accepts facets) := by
  simp [accepts, onlySuperclass, onlyInterface, onlyAnnotationType]

/-- A filter that asks for more accepts no more. -/
theorem AsksNoMoreThan.accepts {f g : ClassFilter} (h : f.AsksNoMoreThan g)
    (haccepts : g.accepts (M.facets c) = true) : f.accepts (M.facets c) = true := by
  rw [accepts_iff_passes] at haccepts ⊢
  exact ⟨fun type hf => haccepts.superclass type (h.superclass type hf),
    fun type hf => haccepts.interface type (h.interface type hf),
    fun type hf => haccepts.annotation type (h.annotation type hf)⟩

/-- A class of which nothing is known but its name is accepted by no filter that asks for anything. -/
theorem not_isActive_of_accepts_bare {f : ClassFilter} {name : String}
    (h : f.accepts (Descriptor.bare name).facets = true) : f.isActive = false := by
  rw [← DocModel.facets_descriptors, accepts_iff_passes] at h
  refine isActive_eq_false_iff.mpr ⟨?_, ?_, ?_⟩
  · refine Option.eq_none_iff_forall_ne_some.mpr fun type hf => ?_
    obtain ⟨s, hs, -⟩ := h.superclass type hf
    cases hs
  · refine Option.eq_none_iff_forall_ne_some.mpr fun type hf => ?_
    obtain ⟨is, his, i, hi, -⟩ := h.interface type hf
    cases his
    exact List.not_mem_nil hi
  · refine Option.eq_none_iff_forall_ne_some.mpr fun type hf => ?_
    obtain ⟨as, has, a, ha, -⟩ := h.annotation type hf
    cases has
    exact List.not_mem_nil ha

end ClassFilter

/-- That a filter which asks for nothing is not asked at all makes no difference. -/
theorem Configuration.acceptedNames_eq (c : Configuration) (l : Listing) :
    c.acceptedNames l =
      (l.classes.filter fun listed =>
        c.classFilter.accepts ((DocModel.ofListing l).facets listed)).map (·.name) := by
  unfold Configuration.acceptedNames Configuration.accepts
  refine congrArg (List.map ListedClass.name) (List.filter_congr fun listed _ => ?_)
  rw [DocModel.facets_listed]
  cases hactive : c.classFilter.isActive with
  | false => simp [ClassFilter.accepts_of_not_isActive hactive]
  | true => simp

/-- A filter accepts a class of a documentation model just when the class has what the filter asks for among
its direct superclass, its direct interfaces and the types of its annotations. It accepts what each of its
dimensions accepts, and one that asks for more accepts no more. Two classes that look alike in the direct
facets are accepted by the same filters, and only such classes are. A filter is inactive just when it accepts
every class of every model, and just when it accepts every class that is described on its own; so the names
that a configuration lets through are those that its filter accepts, whether it asks for anything or not. -/
theorem accepts_by_direct_facets (f : ClassFilter) :
    (∀ {Class Annotation : Type} (M : DocModel Class Annotation) (c : Class),
      (f.accepts (M.facets c) = true ↔ M.Passes c f) ∧
      f.accepts (M.facets c) = (f.onlySuperclass.accepts (M.facets c) &&
        f.onlyInterface.accepts (M.facets c) && f.onlyAnnotationType.accepts (M.facets c)) ∧
      (∀ g : ClassFilter, f.AsksNoMoreThan g → f.accepts (M.facets c) = false →
        g.accepts (M.facets c) = false) ∧
      ∀ {Class' Annotation' : Type} (M' : DocModel Class' Annotation') (c' : Class'),
        M.LooksLike c M' c' ↔
          ∀ g : ClassFilter, g.accepts (M.facets c) = g.accepts (M'.facets c')) ∧
    (f.isActive = false ↔
      ∀ {Class Annotation : Type} (M : DocModel Class Annotation) (c : Class),
        f.accepts (M.facets c) = true) ∧
    (f.isActive = false ↔ ∀ d : Descriptor, f.accepts d.facets = true) ∧
    ∀ (configuration : Configuration) (l : Listing), configuration.classFilter = f →
      configuration.acceptedNames l =
        (l.classes.filter fun c => f.accepts ((DocModel.ofListing l).facets c)).map (·.name) := by
  have hinactive : f.isActive = false → ∀ facets, f.accepts facets = true :=
    ClassFilter.accepts_of_not_isActive
  refine ⟨fun M c => ⟨ClassFilter.accepts_iff_passes, f.accepts_eq_and _, ?_, ?_⟩, ?_, ?_, ?_⟩
  · intro g hmore hrejects
    by_contra haccepts
    rw [Bool.not_eq_false] at haccepts
    exact Bool.false_ne_true (hrejects.symm.trans (hmore.accepts haccepts))
  · intro Class' Annotation' M' c'
    exact ClassFilter.looksLike_iff
  · refine ⟨fun h Class Annotation M c => hinactive h _, fun hall => ?_⟩
    have hbare := hall DocModel.descriptors (.bare "")
    rw [DocModel.facets_descriptors] at hbare
    exact ClassFilter.not_isActive_of_accepts_bare hbare
  · exact ⟨fun h d => hinactive h _, fun hall =>
      ClassFilter.not_isActive_of_accepts_bare (hall (.bare ""))⟩
  · rintro configuration l rfl
    exact configuration.acceptedNames_eq l

/-- A class with a superclass that has a superclass again, and with two interfaces that extend each other, one
of them listed twice. Nothing in the model has a list of annotations. -/
def circleModel : DocModel Nat String where
  name
    | 0 => "Node"
    | 1 => "Link"
    | 2 => "Ring"
    | 3 => "Base"
    | _ => "Root"
  superclass
    | 0 => some 3
    | 3 => some 4
    | _ => none
  interfaces
    | 0 => some [1, 2, 1]
    | 1 => some [2]
    | 2 => some [1]
    | _ => none
  annotations _ := none
  typeName := id

/-- A model in which classes are given by their names alone, and all of them have the same facets. -/
def plainModel : DocModel String String where
  name := id
  superclass _ := some "Base"
  interfaces _ := some ["Ring", "Link"]
  annotations _ := some []
  typeName := id

/-- The class of the one model looks like any of the other. It is not accepted for what stands above its
superclass, nor is it when the filter asks for one of its interfaces as well. -/
theorem circleNode_accepted_alike :
    (∀ g : ClassFilter, g.accepts (circleModel.facets 0) = g.accepts (plainModel.facets "Other")) ∧
      circleModel.Passes 0 ⟨some "Base", some "Ring", none⟩ ∧
      ClassFilter.accepts ⟨some "Root", some "Ring", none⟩ (circleModel.facets 0) = false := by
  obtain ⟨hdirect, -, -, -⟩ := accepts_by_direct_facets ⟨some "Root", none, none⟩
  obtain ⟨-, -, hmore, halike⟩ := hdirect circleModel 0
  have hlooks : circleModel.LooksLike 0 plainModel "Other" := by
    refine ⟨fun type => ?_, fun type => ?_, fun type => ?_⟩
    · simp [DocModel.HasSuperclass, circleModel, plainModel]
    · simp only [DocModel.HasInterface, circleModel, plainModel, Option.some.injEq,
        exists_eq_left', List.mem_cons, List.not_mem_nil, or_false, exists_eq_or_imp, exists_eq_left,
        id]
      tauto
    · simp [DocModel.HasAnnotation, circleModel, plainModel]
  have hasks : ClassFilter.AsksNoMoreThan ⟨some "Root", none, none⟩ ⟨some "Root", some "Ring", none⟩ :=
    ⟨fun _ h => h, nofun, nofun⟩
  refine ⟨(halike plainModel "Other").mp hlooks, ?_, hmore _ hasks (by decide)⟩
  obtain ⟨hboth, -, -, -⟩ := accepts_by_direct_facets ⟨some "Base", some "Ring", none⟩
  exact (hboth circleModel 0).1.mp (by decide)

end DocletPreflight
