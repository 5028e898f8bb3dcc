/-!
# Documented classes as filters see them

A filter asks a class for three things only: the name of its superclass, the names of the interfaces
that it implements itself, and the types of its annotations. These are its `Facets`. A `Descriptor`
is a class that was described on its own; its facets forget its own name and everything further up.
-/

set_option autoImplicit false

namespace DocletPreflight

/-- What a filter may ask of a class. A tool that has no list of interfaces or annotations to offer
gives none. -/
structure Facets where
  superclass : Option String
  interfaces : Option (List String)
  annotations : Option (List String)
  deriving DecidableEq, Repr

/-- The names of the direct interfaces; a missing list is an empty one. -/
def Facets.interfaceNames (f : Facets) : List String := f.interfaces.getD []

/-- The names of the annotation types; a missing list is an empty one. -/
def Facets.annotationNames (f : Facets) : List String := f.annotations.getD []

/-- A class with its superclass, its interfaces and the types of its annotations, which are classes
again. -/
inductive Descriptor where
  | mk (name : String) (superclass : Option Descriptor) (interfaces : Option (List Descriptor))
      (annotations : Option (List Descriptor))

namespace Descriptor

/-- The qualified name of a class. -/
def name : Descriptor → String
  | mk name .. => name

def bare (name : String) : Descriptor := mk name none (some []) (some [])

def facets : Descriptor → Facets
  | mk _ superclass interfaces annotations =>
    ⟨superclass.map name, interfaces.map (·.map name), annotations.map (·.map name)⟩

end Descriptor

end DocletPreflight
