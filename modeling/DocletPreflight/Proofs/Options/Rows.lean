import DocletPreflight.Options
import Mathlib.Tactic.Common

/-!
# The first row of a name

All that a matrix says of an option that counts once is in the first row of its name: whether there is
one (`has_iff`), and what its value is (`first?_eq_some_iff`, `first?_eq_none_iff`).
-/

set_option autoImplicit false

namespace DocletPreflight

/-- Different flags are written differently. -/
theorem Flag.text_injective : Function.Injective Flag.text := by
  intro f g h
  have hf := Flag.ofText?_text f
  rw [h, Flag.ofText?_text] at hf
  exact (Option.some.inj hf).symm

namespace OptionMatrix

/-- A row is the first of a name: it has that name, and no row before it does. -/
def IsFirst (m : OptionMatrix) (name : String) (row : List String) : Prop :=
  ∃ before after, m = before ++ row :: after ∧ row.head? = some name ∧
    ∀ other ∈ before, other.head? ≠ some name

variable {m : OptionMatrix} {name value : String} {row : List String}

/-- A row is named by the token in front. -/
@[simp]
theorem named_iff : named name row = true ↔ row.head? = some name := by
  simp [named]

/-- A row with another token in front is not of that name. -/
theorem not_named (h : row.head? ≠ some name) : ¬named name row = true :=
  mt named_iff.mp h

/-- The first row of a name is the one that is found. -/
theorem isFirst_iff : m.IsFirst name row ↔ m.find? (named name) = some row := by
  rw [List.find?_eq_some_iff_append, IsFirst]
  constructor
  · rintro ⟨before, after, hm, hrow, hbefore⟩
    refine ⟨named_iff.mpr hrow, before, after, hm, ?_⟩
    intro other hother
    have hname := hbefore other hother
    simpa [named] using hname
  · rintro ⟨hrow, before, after, hm, hbefore⟩
    refine ⟨before, after, hm, named_iff.mp hrow, ?_⟩
    intro other hother
    have hname := hbefore other hother
    simpa [named] using hname

/-- There is a first row of a name, or no row has it. -/
theorem exists_isFirst_or (m : OptionMatrix) (name : String) :
    (∃ row, m.IsFirst name row) ∨ ∀ row ∈ m, row.head? ≠ some name := by
  cases hfind : m.find? (named name) with
  | some row => exact .inl ⟨row, isFirst_iff.mpr hfind⟩
  | none =>
    rw [List.find?_eq_none] at hfind
    exact .inr fun row hrow hname => hfind row hrow (named_iff.mpr hname)

/-- A name is there just when there is a first row of it. -/
theorem has_iff : m.has name = true ↔ ∃ row, m.IsFirst name row := by
  rw [has, List.any_eq_true]
  constructor
  · rintro ⟨row, hrow, hname⟩
    rcases exists_isFirst_or m name with hfirst | hnone
    · exact hfirst
    · exact absurd (named_iff.mp hname) (hnone row hrow)
  · rintro ⟨row, before, after, rfl, hname, -⟩
    exact ⟨row, by simp, named_iff.mpr hname⟩

/-- A name is not there just when no row begins with it. -/
theorem has_eq_false_iff : m.has name = false ↔ ∀ row ∈ m, row.head? ≠ some name := by
  simp [has, named]

/-- The value of a name is that of its first row. -/
theorem IsFirst.first?_eq (h : m.IsFirst name row) : m.first? name = rowValue? row := by
  rw [first?, isFirst_iff.mp h, Option.bind_some]

/-- A name that is not there has no value. -/
theorem first?_of_not_has (h : m.has name = false) : m.first? name = none := by
  have hfind : m.find? (named name) = none := by
    rw [List.find?_eq_none]
    intro row hrow hname
    exact has_eq_false_iff.mp h row hrow (named_iff.mp hname)
  rw [first?, hfind, Option.bind_none]

/-- A name has a value just when its first row has it. -/
theorem first?_eq_some_iff :
    m.first? name = some value ↔ ∃ row, m.IsFirst name row ∧ rowValue? row = some value := by
  constructor
  · intro h
    rcases exists_isFirst_or m name with ⟨row, hrow⟩ | hnone
    · exact ⟨row, hrow, hrow.first?_eq ▸ h⟩
    · rw [first?_of_not_has (has_eq_false_iff.mpr hnone)] at h
      cases h
  · rintro ⟨row, hrow, hvalue⟩
    rw [hrow.first?_eq, hvalue]

/-- A name has no value if no row begins with it or its first row ends with it. -/
theorem first?_eq_none_iff :
    m.first? name = none ↔
      (∀ row ∈ m, row.head? ≠ some name) ∨ ∃ row, m.IsFirst name row ∧ rowValue? row = none := by
  constructor
  · intro h
    rcases exists_isFirst_or m name with ⟨row, hrow⟩ | hnone
    · exact .inr ⟨row, hrow, hrow.first?_eq ▸ h⟩
    · exact .inl hnone
  · rintro (hnone | ⟨row, hrow, hvalue⟩)
    · exact first?_of_not_has (has_eq_false_iff.mpr hnone)
    · rw [hrow.first?_eq, hvalue]

/-- A value is one of the tokens. -/
theorem mem_flatten_of_first? (h : m.first? name = some value) : value ∈ m.flatten := by
  obtain ⟨row, ⟨before, after, rfl, -, -⟩, hvalue⟩ := first?_eq_some_iff.mp h
  exact List.mem_flatten.mpr ⟨row, by simp, List.mem_of_getElem? hvalue⟩

/-- A name with a value is there. -/
theorem has_of_first? (h : m.first? name = some value) : m.has name = true := by
  obtain ⟨row, hrow, -⟩ := first?_eq_some_iff.mp h
  exact has_iff.mpr ⟨row, hrow⟩

/-- The value of a name is missing, with its row or by itself, or it is empty. -/
def Lacks (m : OptionMatrix) (name : String) : Prop := m.first? name = none ∨ m.first? name = some ""

/-- A value that is not missing is not empty. -/
theorem exists_of_not_lacks (h : ¬m.Lacks name) : ∃ value, m.first? name = some value ∧ value ≠ "" := by
  obtain ⟨hnone, hempty⟩ := not_or.mp h
  obtain ⟨value, hvalue⟩ := Option.ne_none_iff_exists'.mp hnone
  refine ⟨value, hvalue, ?_⟩
  rintro rfl
  exact hempty hvalue

end OptionMatrix

end DocletPreflight
