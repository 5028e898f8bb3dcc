import DocletPreflight.Configuration.Build
import DocletPreflight.Proofs.Options.Rows
import Mathlib.Tactic.Common

/-!
# The shape of a configuration

A check goes through its steps in a fixed order. `configuration_of_build` says that whatever it makes of
an option matrix, when it makes a configuration at all, is made of what the steps answer one by one. The
class filter among them is read off the matrix alone (`classFilter_of_build`): each of its dimensions is
the value of the first row of its option, `OptionMatrix.wantedFilter`.
-/

set_option autoImplicit false

namespace DocletPreflight

/-- The class filter that an option matrix asks for. -/
def OptionMatrix.wantedFilter (m : OptionMatrix) : ClassFilter :=
  ⟨m.first? Flag.extends.text, m.first? Flag.implements.text, m.first? Flag.annotated.text⟩

namespace Build

/-- One dimension of the class filter is the value of its option. -/
theorem filterType_fst (m : OptionMatrix) (flag : Flag) (verb what : String) :
    (filterType m flag verb what).1 = m.first? flag.text := by
  unfold filterType
  cases hhas : m.has flag.text with
  | false => exact (OptionMatrix.first?_of_not_has hhas).symm
  | true => cases hfirst : m.first? flag.text <;> rfl

/-- The class filter that a check makes is the one that the options ask for. -/
theorem wantedFilter_eq (m : OptionMatrix) :
    m.wantedFilter = ⟨(superclass m).1, (interface m).1, (annotationType m).1⟩ := by
  rw [superclass, interface, annotationType, filterType_fst, filterType_fst, filterType_fst]
  rfl

/-- The registry of a configuration before it is frozen, unless an error escapes while it is filled. -/
def registry (env : Environment) (m : OptionMatrix) : Except ForeignError Registry :=
  (taglets env m (withTags (definitions m) Registry.standard)).1

end Build

/-- A configuration that a check makes is made of what its steps answer. -/
theorem configuration_of_build {env : Environment} {lookup : Encoding.Lookup} {m : OptionMatrix}
    {c : Configuration} (h : (build env lookup m).configuration = .ok (some c)) :
    ∃ directory encoding registry, (Build.directory m).1 = some directory ∧
      (Build.encoding lookup m).1 = .ok (some encoding) ∧ Build.registry env m = .ok registry ∧
      c = Configuration.make directory (m.has Flag.multiple.text) (m.has Flag.subfolders.text)
        encoding (Build.fileName m).1 m.wantedFilter registry := by
  unfold build at h
  split at h
  · cases h
  next directory directoryTrace hdirectory =>
    split at h
    · cases h
    · cases h
    next encoding encodingTrace hencoding =>
      cases hregistry : Build.registry env m with
      | error e =>
        unfold Build.registry at hregistry
        simp only [hregistry] at h
        cases h
      | ok registry =>
        refine ⟨directory, encoding, registry, by rw [hdirectory], by rw [hencoding], rfl, ?_⟩
        unfold Build.registry at hregistry
        simp only [hregistry] at h
        rw [← Option.some.inj (Except.ok.inj h), Build.wantedFilter_eq]

/-- The class filter of a configuration is the one that its options ask for. -/
theorem classFilter_of_build {env : Environment} {lookup : Encoding.Lookup} {m : OptionMatrix}
    {c : Configuration} (h : (build env lookup m).configuration = .ok (some c)) :
    c.classFilter = m.wantedFilter := by
  obtain ⟨directory, encoding, registry, -, -, -, rfl⟩ := configuration_of_build h
  rfl

end DocletPreflight
