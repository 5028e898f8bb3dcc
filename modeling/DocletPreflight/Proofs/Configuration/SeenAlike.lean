import DocletPreflight.Proofs.Configuration.Shape
import Mathlib.Logic.Relation

/-!
# What a check sees of its options

Of an option that counts once a check sees whether it is there and what the value of its first row is, and
of the tags it sees the values, in order. Two matrices in which all of this is the same are
`OptionMatrix.SeenAlike`, and every step of the check does the same on both (`build_of_seenAlike`).
Matrices are seen alike, for one, when they come from each other by any number of changes such as these
(`OptionMatrix.Change`): rows of different names change places; a row without a known name comes in or
goes; so do tokens after the value of a row; and so do rows of an option that has a row already.
`build_of_alike` puts these together.
-/

set_option autoImplicit false

namespace DocletPreflight

namespace OptionMatrix

/-- What a check sees of two matrices is the same. -/
structure SeenAlike (m m' : OptionMatrix) : Prop where
  has : ∀ flag : Flag, flag ≠ .tag → m.has flag.text = m'.has flag.text
  first? : ∀ flag : Flag, flag ≠ .tag → m.first? flag.text = m'.first? flag.text
  tags : m.values Flag.tag.text = m'.values Flag.tag.text

variable {m m' m'' : OptionMatrix}

/-- A matrix is seen as itself. -/
theorem SeenAlike.refl (m : OptionMatrix) : SeenAlike m m :=
  ⟨fun _ _ => rfl, fun _ _ => rfl, rfl⟩

/-- Being seen alike goes both ways. -/
theorem SeenAlike.symm (h : SeenAlike m m') : SeenAlike m' m :=
  ⟨fun flag hflag => (h.has flag hflag).symm, fun flag hflag => (h.first? flag hflag).symm,
    h.tags.symm⟩

/-- Being seen alike goes through a third matrix. -/
theorem SeenAlike.trans (h : SeenAlike m m') (h' : SeenAlike m' m'') : SeenAlike m m'' :=
  ⟨fun flag hflag => (h.has flag hflag).trans (h'.has flag hflag),
    fun flag hflag => (h.first? flag hflag).trans (h'.first? flag hflag), h.tags.trans h'.tags⟩

/-! ## Changes that a check does not see -/

/-- A change of the rows of a matrix that a check does not see. -/
inductive Change : OptionMatrix → OptionMatrix → Prop where
  /-- The rows stand in another order, but those of one name in the same. -/
  | reorder {m m' : OptionMatrix} (hperm : m.Perm m')
      (horder : ∀ name, m.filter (named name) = m'.filter (named name)) : Change m m'
  /-- A row comes in that is empty, or whose name is not known. -/
  | insert (before after : OptionMatrix) {row : List String}
      (hrow : ∀ flag : Flag, row.head? ≠ some flag.text) :
      Change (before ++ after) (before ++ row :: after)
  /-- Tokens come in after the second one of a row. -/
  | lengthen (before after : OptionMatrix) (name value : String) (extra : List String) :
      Change (before ++ [name, value] :: after) (before ++ (name :: value :: extra) :: after)
  /-- A row of an option that counts once comes in after another row of it. -/
  | again (before after : OptionMatrix) {flag : Flag} (hflag : flag ≠ .tag) {row : List String}
      (hrow : row.head? = some flag.text) (hbefore : ∃ other ∈ before, other.head? = some flag.text) :
      Change (before ++ after) (before ++ row :: after)

/-- Neighbouring rows of different names change places. -/
theorem Change.swap (before after : OptionMatrix) {row row' : List String}
    (h : row.head? ≠ row'.head?) :
    Change (before ++ row :: row' :: after) (before ++ row' :: row :: after) := by
  refine .reorder ((List.Perm.swap row' row after).append_left before) fun name => ?_
  rw [List.filter_append, List.filter_append]
  -- at most one of the two rows has the name, and the filter drops the other in either place
  by_cases hname : row.head? = some name
  · have hrow' : ¬named name row' = true := not_named fun hname' => h (hname.trans hname'.symm)
    rw [List.filter_cons, List.filter_cons_of_neg hrow', List.filter_cons_of_neg hrow',
      List.filter_cons]
  · have hrow : ¬named name row = true := not_named hname
    rw [List.filter_cons_of_neg hrow, List.filter_cons, List.filter_cons,
      List.filter_cons_of_neg hrow]

/-- Whether an option is there depends on its first row only. -/
theorem has_eq (m : OptionMatrix) (name : String) :
    m.has name = ((m.find? (named name)).map rowValue?).isSome := by
  rw [Option.isSome_map, Bool.eq_iff_iff, has_iff, Option.isSome_iff_exists]
  simp only [isFirst_iff]

/-- The value of an option depends on its first row only. -/
theorem first?_eq (m : OptionMatrix) (name : String) :
    m.first? name = ((m.find? (named name)).map rowValue?).join := by
  unfold first?
  cases m.find? (named name) <;> rfl

/-- Matrices are seen alike when the first rows of each option hold the same, as do the tags. -/
theorem SeenAlike.of_find
    (hfirst : ∀ flag : Flag, flag ≠ .tag →
      (m.find? (named flag.text)).map rowValue? = (m'.find? (named flag.text)).map rowValue?)
    (htags : m.values Flag.tag.text = m'.values Flag.tag.text) : SeenAlike m m' where
  has flag hflag := by rw [has_eq, has_eq, hfirst flag hflag]
  first? flag hflag := by rw [first?_eq, first?_eq, hfirst flag hflag]
  tags := htags

/-- Matrices are seen alike when they have the same rows of each option. -/
theorem SeenAlike.of_filter
    (h : ∀ flag : Flag, m.filter (named flag.text) = m'.filter (named flag.text)) :
    SeenAlike m m' := by
  refine .of_find (fun flag _ => ?_) ?_
  · rw [← List.head?_filter, ← List.head?_filter, h flag]
  · rw [values, values, h .tag]

/-- A row that comes behind another of its name is never the first. -/
theorem find?_append_cons_of_mem {before after : OptionMatrix} {name : String} {row : List String}
    (h : ∃ other ∈ before, other.head? = some name) :
    (before ++ row :: after).find? (named name) = (before ++ after).find? (named name) := by
  obtain ⟨other, hother, hname⟩ := h
  have hfound : (before.find? (named name)).isSome = true := by
    rw [List.find?_isSome]
    exact ⟨other, hother, named_iff.mpr hname⟩
  obtain ⟨found, hfound⟩ := Option.isSome_iff_exists.mp hfound
  rw [List.find?_append, List.find?_append, hfound, Option.some_or, Option.some_or]

/-- Of a row, only its name and its value are looked at. -/
theorem seenAlike_of_row (before after : OptionMatrix) {row row' : List String}
    (hname : row.head? = row'.head?) (hvalue : rowValue? row = rowValue? row') :
    SeenAlike (before ++ row :: after) (before ++ row' :: after) := by
  have hnamed : ∀ name, named name row = named name row' := by
    intro name
    rw [named, named, hname]
  refine .of_find (fun flag _ => ?_) ?_
  · rw [List.find?_append, List.find?_append, List.find?_cons, List.find?_cons, hnamed]
    cases before.find? (named flag.text) with
    | some other => rfl
    | none => cases named flag.text row' <;> simp [hvalue]
  · rw [values, values, List.filter_append, List.filter_append, List.filterMap_append,
      List.filterMap_append, List.filter_cons, List.filter_cons, hnamed]
    cases named Flag.tag.text row' <;> simp [List.filterMap_cons, hvalue]

/-- A single change is not seen. -/
theorem Change.seenAlike (h : Change m m') : SeenAlike m m' := by
  cases h with
  | reorder hperm horder => exact .of_filter fun flag => horder flag.text
  | insert before after hrow =>
    refine .of_filter fun flag => ?_
    rw [List.filter_append, List.filter_append, List.filter_cons_of_neg (not_named (hrow flag))]
  | lengthen before after name value extra => exact seenAlike_of_row before after rfl rfl
  | @again before after flag hflag row hrow hbefore =>
    have hother : ∀ other : Flag, other ≠ flag → row.head? ≠ some other.text := by
      intro other hne hhead
      have htext : flag.text = other.text := Option.some.inj (hrow.symm.trans hhead)
      exact hne (Flag.text_injective htext).symm
    refine .of_find (fun other _ => ?_) ?_
    -- of its own option the row is not the first, and no other option looks at it
    · by_cases heq : other = flag
      · subst heq
        rw [find?_append_cons_of_mem hbefore]
      · rw [List.find?_append, List.find?_append,
          List.find?_cons_of_neg (not_named (hother other heq))]
    · rw [values, values, List.filter_append, List.filter_append,
        List.filter_cons_of_neg (not_named (hother .tag hflag.symm))]

/-- Changes one after another, in either direction, are not seen. -/
theorem seenAlike_of_changes (h : Relation.EqvGen Change m m') : SeenAlike m m' := by
  induction h with
  | rel _ _ hchange => exact hchange.seenAlike
  | refl _ => exact .refl _
  | symm _ _ _ ih => exact ih.symm
  | trans _ _ _ _ _ ih ih' => exact ih.trans ih'

end OptionMatrix

/-! ## The steps of a check -/

open OptionMatrix (SeenAlike Change)

namespace Build

variable {m m' : OptionMatrix}

/-- The output directory is checked alike for matrices that are seen alike. -/
theorem directory_of_seenAlike (h : SeenAlike m m') : directory m = directory m' := by
  unfold directory
  rw [h.has .directory (by decide), h.first? .directory (by decide)]

/-- The encoding is checked alike for matrices that are seen alike. -/
theorem encoding_of_seenAlike (h : SeenAlike m m') (lookup : Encoding.Lookup) :
    encoding lookup m = encoding lookup m' := by
  unfold encoding
  rw [h.has .encoding (by decide), h.first? .encoding (by decide)]

/-- The name of the output file is checked alike for matrices that are seen alike. -/
theorem fileName_of_seenAlike (h : SeenAlike m m') : fileName m = fileName m' := by
  unfold fileName
  rw [h.has .fileName (by decide), h.first? .fileName (by decide), h.has .multiple (by decide)]

/-- A type to filter by is checked alike for matrices that are seen alike. -/
theorem filterType_of_seenAlike (h : SeenAlike m m') {flag : Flag} (hflag : flag ≠ .tag)
    (verb what : String) : filterType m flag verb what = filterType m' flag verb what := by
  unfold filterType
  rw [h.has flag hflag, h.first? flag hflag]

/-- Matrices that are seen alike define the same tags. -/
theorem definitions_of_seenAlike (h : SeenAlike m m') : definitions m = definitions m' := by
  unfold definitions
  rw [h.tags]

/-- Matrices that are seen alike name the same taglet classes, which are loaded alike. -/
theorem taglets_of_seenAlike (h : SeenAlike m m') (env : Environment) :
    taglets env m = taglets env m' := by
  funext r
  unfold taglets
  rw [h.has .taglet (by decide), h.first? .taglet (by decide)]

end Build

/-- Matrices that are seen alike are built into the same configuration with the same trace. -/
theorem build_of_seenAlike {m m' : OptionMatrix} (h : SeenAlike m m') (env : Environment)
    (lookup : Encoding.Lookup) : build env lookup m = build env lookup m' := by
  have hsuperclass : Build.superclass m = Build.superclass m' :=
    Build.filterType_of_seenAlike h (by decide) _ _
  have hannotation : Build.annotationType m = Build.annotationType m' :=
    Build.filterType_of_seenAlike h (by decide) _ _
  have hinterface : Build.interface m = Build.interface m' :=
    Build.filterType_of_seenAlike h (by decide) _ _
  unfold build
  rw [Build.directory_of_seenAlike h, Build.encoding_of_seenAlike h, Build.fileName_of_seenAlike h,
    hsuperclass, hannotation, hinterface, Build.definitions_of_seenAlike h,
    Build.taglets_of_seenAlike h, h.has .multiple (by decide), h.has .subfolders (by decide)]

/-- A check makes the same configuration of two matrices, with the same registry in the same order, or
fails on both in the same way, and reports the same, when the first rows of each option that counts once
are there alike and hold the same value, and the tags have the same values in order. So it does when the
matrices come from each other by any number of changes that it does not see. -/
theorem build_of_alike (env : Environment) (lookup : Encoding.Lookup) (m m' : OptionMatrix) :
    (SeenAlike m m' → build env lookup m = build env lookup m') ∧
    (Relation.EqvGen Change m m' → build env lookup m = build env lookup m') := by
  constructor
  · intro h
    exact build_of_seenAlike h env lookup
  · intro h
    exact build_of_seenAlike (OptionMatrix.seenAlike_of_changes h) env lookup

/-- A few options. -/
def plainOptions : OptionMatrix := [["-extends"], ["-tag", "todo"], ["-d", "out"], ["-tag", "see"]]

/-- The same options to a check: in another order, with a longer row, with an empty row and one of no
known name, and with an option that comes again. -/
def crowdedOptions : OptionMatrix :=
  [["-tag", "todo"], ["-d", "out", "in"], [], ["-extends"], ["-quiet", "-d"], ["-tag", "see"],
    ["-extends", "Base"]]

/-- The one comes from the other by changes, both are seen alike, and a check does the same on both. -/
theorem crowdedOptions_alike :
    Relation.EqvGen Change plainOptions crowdedOptions ∧ SeenAlike plainOptions crowdedOptions ∧
      build .bare Encoding.lookup plainOptions = build .bare Encoding.lookup crowdedOptions ∧
      (build .bare Encoding.lookup crowdedOptions).trace.diagnostics =
        (build .bare Encoding.lookup plainOptions).trace.diagnostics := by
  have hunknown : ∀ flag : Flag, ["-quiet", "-d"].head? ≠ some flag.text := by
    intro flag
    cases flag <;> decide
  have hfirst : Change plainOptions
      [["-tag", "todo"], ["-extends"], ["-d", "out"], ["-tag", "see"]] :=
    .swap [] _ (by decide)
  have hsecond : Change [["-tag", "todo"], ["-extends"], ["-d", "out"], ["-tag", "see"]]
      [["-tag", "todo"], ["-d", "out"], ["-extends"], ["-tag", "see"]] :=
    .swap [["-tag", "todo"]] _ (by decide)
  have hthird : Change [["-tag", "todo"], ["-d", "out"], ["-extends"], ["-tag", "see"]]
      [["-tag", "todo"], ["-d", "out", "in"], ["-extends"], ["-tag", "see"]] :=
    .lengthen [["-tag", "todo"]] _ "-d" "out" ["in"]
  have hfourth : Change [["-tag", "todo"], ["-d", "out", "in"], ["-extends"], ["-tag", "see"]]
      [["-tag", "todo"], ["-d", "out", "in"], [], ["-extends"], ["-tag", "see"]] :=
    .insert [["-tag", "todo"], ["-d", "out", "in"]] _ (by simp)
  have hfifth : Change [["-tag", "todo"], ["-d", "out", "in"], [], ["-extends"], ["-tag", "see"]]
      [["-tag", "todo"], ["-d", "out", "in"], [], ["-extends"], ["-quiet", "-d"], ["-tag", "see"]] :=
    .insert [["-tag", "todo"], ["-d", "out", "in"], [], ["-extends"]] _ hunknown
  have hsixth : Change
      [["-tag", "todo"], ["-d", "out", "in"], [], ["-extends"], ["-quiet", "-d"], ["-tag", "see"]]
      crowdedOptions :=
    @Change.again [["-tag", "todo"], ["-d", "out", "in"], [], ["-extends"], ["-quiet", "-d"],
      ["-tag", "see"]] [] .extends (by decide) ["-extends", "Base"] rfl
      ⟨["-extends"], by simp, rfl⟩
  have hchanges : Relation.EqvGen Change plainOptions crowdedOptions :=
    .trans _ _ _ (.rel _ _ hfirst) (.trans _ _ _ (.rel _ _ hsecond) (.trans _ _ _ (.rel _ _ hthird)
      (.trans _ _ _ (.rel _ _ hfourth) (.trans _ _ _ (.rel _ _ hfifth) (.rel _ _ hsixth)))))
  have hseen := OptionMatrix.seenAlike_of_changes hchanges
  obtain ⟨halike, hchanged⟩ := build_of_alike .bare Encoding.lookup plainOptions crowdedOptions
  exact ⟨hchanges, hseen, hchanged hchanges, by rw [halike hseen]⟩

end DocletPreflight
