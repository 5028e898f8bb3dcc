import DocletPreflight.Classes.Facets

/-!
# Class filters

A filter may ask for a superclass, for an interface and for an annotation; a class passes when it
has all that is asked for. Names are compared as they are, and ancestors are not followed.
-/

set_option autoImplicit false

namespace DocletPreflight

/-- What a class must extend, implement and carry, as far as anything is asked for. -/
structure ClassFilter where
  superclass : Option String
  interface : Option String
  annotationType : Option String
  deriving DecidableEq, Repr

namespace ClassFilter

/-- The filter that asks for nothing. -/
def none : ClassFilter := ⟨.none, .none, .none⟩

/-- Whether anything is asked for. -/
def isActive (f : ClassFilter) : Bool :=
  f.superclass.isSome || f.interface.isSome || f.annotationType.isSome

def extendsType (c : Facets) (type : String) : Bool := c.superclass = some type

def implementsType (c : Facets) (type : String) : Bool := c.interfaceNames.contains type

def carriesType (c : Facets) (type : String) : Bool := c.annotationNames.contains type

def accepts (f : ClassFilter) (c : Facets) : Bool :=
  f.superclass.all (extendsType c) && f.interface.all (implementsType c) &&
    f.annotationType.all (carriesType c)

/-- A filter is inactive just when none of its three parts is set. -/
theorem isActive_eq_false_iff {f : ClassFilter} :
    f.isActive = false ↔ f.superclass = .none ∧ f.interface = .none ∧ f.annotationType = .none := by
  simp [isActive, and_assoc]

/-- A filter without parts accepts every class. -/
theorem accepts_of_not_isActive {f : ClassFilter} (h : f.isActive = false) (c : Facets) :
    f.accepts c = true := by
  obtain ⟨hs, hi, ha⟩ := isActive_eq_false_iff.mp h
  simp [accepts, hs, hi, ha]

end ClassFilter

end DocletPreflight
