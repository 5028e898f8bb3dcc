import DocletPreflight.Classes.Facets
import DocletPreflight.Files
import DocletPreflight.Text.Utf8
import DocletPreflight.Yaml.Load

/-!
# Class listings

A class listing is a YAML file that describes classes by name:

    classes:
      - name: com.example.Widget
        extends: com.example.Base
        implements: [java.io.Serializable]
        annotations: [javax.annotation.Generated]

A type name that an entry of the listing has refers to that entry, wherever it stands; any other name
is that of a class of which nothing else is known. `Listing.ofValue` makes the listing of a value in
three rounds: it registers every entry under its name, which must be its own; then it links the
registered classes as their entries say; and at last it checks that following superclasses comes to an
end. `Listing.read` reads the file first.
-/

set_option autoImplicit false

namespace DocletPreflight

/-- A type by name, with its place in the listing when it is an entry. -/
structure TypeRef where
  name : String
  position : Option Nat
  deriving DecidableEq, Repr

/-- The types that a class refers to. -/
structure Links where
  superclass : Option TypeRef
  interfaces : List TypeRef
  annotations : List TypeRef
  deriving DecidableEq, Repr

/-- No types. -/
def Links.none : Links := ⟨.none, [], []⟩

structure ListedClass extends Links where
  name : String
  deriving DecidableEq, Repr

/-- The facets of an entry, by the names in its references. -/
def ListedClass.facets (c : ListedClass) : Facets :=
  ⟨c.superclass.map (·.name), some (c.interfaces.map (·.name)), some (c.annotations.map (·.name))⟩

def ListedClass.unlinked (name : String) : ListedClass := ⟨.none, name⟩

def ListedClass.link (links : Links) (c : ListedClass) : ListedClass := { c with toLinks := links }

/-- Classes that refer to each other. -/
structure Listing where
  classes : List ListedClass
  deriving DecidableEq, Repr

/-- Why a listing is rejected. -/
inductive ListingError where
  /-- The file cannot be opened, or is no YAML. -/
  | unreadable (path text : String)
  | nameless (file : String)
  | duplicate (file name : String)
  | cyclic (name : String)
  deriving DecidableEq, Repr

def ListingError.message : ListingError → String
  | unreadable path text => "Failed to read " ++ path ++ ": " ++ text
  | nameless file => file ++ ": every class entry needs a name"
  | duplicate file name => file ++ ": duplicate class " ++ name
  | cyclic name => "Cyclic inheritance involving " ++ name

/-- What keeps a listing from being read at all: a path that is none, bytes that are not UTF-8, a
scalar that has no value, a number that is too long to be a name, or an entry for which no class was
registered. -/
inductive ReadFault where
  | path (fault : PathFault)
  | notUtf8 (fault : Text.Utf8Fault)
  | scalar (e : Yaml.Error)
  | numberTooLong
  | unregistered
  deriving DecidableEq, Repr

def ReadFault.message : ReadFault → String
  | path fault => fault.message
  | notUtf8 fault => fault.message
  | scalar e => e.message
  | numberTooLong => Yaml.NumberTooLong.message {}
  | unregistered => "no class was registered for an entry"

/-- A listing that was rejected, or that could not be read. -/
inductive ListingFailure where
  | rejected (e : ListingError)
  | fault (f : ReadFault)
  deriving DecidableEq, Repr

def ListingFailure.message : ListingFailure → String
  | rejected e => e.message
  | fault f => f.message

namespace Listing

/-- The entries of a value: the items of its field `classes`. -/
def entries (v : Yaml.Value) : List Yaml.Value := (v.field "classes").items

def orTooLong {α : Type} : Except Yaml.NumberTooLong α → Except ListingFailure α
  | .ok a => .ok a
  | .error _ => .error (.fault .numberTooLong)

def entryName (file : String) (entry : Yaml.Value) : Except ListingFailure String := do
  match ← orTooLong (entry.field "name").text? with
  | none => .error (.rejected (.nameless file))
  | some "" => .error (.rejected (.nameless file))
  | some name => .ok name

/-- The names of entries in order; `seen` are those before. -/
def namesFrom (file : String) (seen : List String) :
    List Yaml.Value → Except ListingFailure (List String)
  | [] => .ok []
  | entry :: rest => do
    let name ← entryName file entry
    if seen.contains name then .error (.rejected (.duplicate file name))
    else
      let names ← namesFrom file (name :: seen) rest
      .ok (name :: names)

def resolve (names : List String) (name : String) : TypeRef := ⟨name, names.idxOf? name⟩

/-- The superclass that an entry names; an empty text names none. -/
def superclassName (entry : Yaml.Value) : Except ListingFailure (Option String) := do
  match ← orTooLong (entry.field "extends").text? with
  | none => .ok none
  | some "" => .ok none
  | some name => .ok (some name)

/-- The types that an entry refers to. -/
def linksOf (names : List String) (entry : Yaml.Value) : Except ListingFailure Links := do
  let superclass ← superclassName entry
  let interfaces ← orTooLong (entry.field "implements").texts
  let annotations ← orTooLong (entry.field "annotations").texts
  .ok ⟨superclass.map (resolve names), interfaces.map (resolve names),
    annotations.map (resolve names)⟩

/-- The place of the class that was registered for an entry: it is found again by the entry's name. -/
def placeOf (names : List String) (entry : Yaml.Value) : Except ListingFailure Nat := do
  match (← orTooLong (entry.field "name").text?).bind names.idxOf? with
  | some n => .ok n
  | none => .error (.fault .unregistered)

/-- Links registered classes as entries say, one entry after another. -/
def linkAll (names : List String) :
    List Yaml.Value → List ListedClass → Except ListingFailure (List ListedClass)
  | [], classes => .ok classes
  | entry :: rest, classes => do
    let n ← placeOf names entry
    let links ← linksOf names entry
    linkAll names rest (classes.modify n (.link links))

/-- The entry that a reference leads to. -/
def entryOf (classes : List ListedClass) (r : TypeRef) : Option ListedClass :=
  r.position.bind (classes[·]?)

/-- Whether the superclasses from a reference on, upwards, come to a name that was seen before. Every
entry that is passed is seen from then on, so there are fewer and fewer to pass. -/
def comesBack (classes : List ListedClass) (seen : List String) : Option TypeRef → Bool
  | none => false
  | some r =>
    match _h : entryOf classes r with
    | none => seen.contains r.name
    | some c =>
      if _hs : c.name ∈ seen then true else comesBack classes (c.name :: seen) c.superclass
termination_by (classes.filter fun c => c.name ∉ seen).length
decreasing_by
  have hmem : c ∈ classes := by
    obtain ⟨n, -, hn⟩ := Option.bind_eq_some_iff.mp _h
    exact List.mem_of_getElem? hn
  have hsplit : (classes.filter fun d => d.name ∉ c.name :: seen) =
      (classes.filter fun d => d.name ∉ seen).filter fun d => d.name ≠ c.name := by
    rw [List.filter_filter]
    congr 1
    funext d
    simp [not_or]
  rw [hsplit]
  exact List.length_filter_lt_length_iff_exists.mpr
    ⟨c, List.mem_filter.mpr ⟨hmem, by simpa using _hs⟩, by simp⟩

/-- Whether following superclasses from an entry never ends. -/
def isCyclic (classes : List ListedClass) (c : ListedClass) : Bool :=
  comesBack classes [c.name] c.superclass

/-- The superclass of what a reference refers to. -/
def superclassOf (classes : List ListedClass) (r : TypeRef) : Option TypeRef :=
  (entryOf classes r).bind (·.superclass)

/-- The superclasses from a reference on, upwards; none if they are more than so many. -/
def climb (classes : List ListedClass) : Nat → Option TypeRef → Option (List TypeRef)
  | _, none => some []
  | 0, some _ => none
  | fuel + 1, some r => (climb classes fuel (superclassOf classes r)).map (r :: ·)

/-- The superclasses of an entry, upwards. Among `n` entries there are no more than `n` of them, unless
there is no end to them. -/
def chain? (classes : List ListedClass) (c : ListedClass) : Option (List TypeRef) :=
  climb classes classes.length c.superclass

/-- The superclasses of an entry of a listing, upwards. -/
def chain (l : Listing) (c : ListedClass) : List TypeRef := (chain? l.classes c).getD []

def nameOf (l : Listing) (r : TypeRef) : String := ((entryOf l.classes r).map (·.name)).getD r.name

/-- The facets of an entry of a listing, by the names of what its references lead to. -/
def facets (l : Listing) (c : ListedClass) : Facets :=
  ⟨c.superclass.map l.nameOf, some (c.interfaces.map l.nameOf), some (c.annotations.map l.nameOf)⟩

def ofValue (file : String) (v : Yaml.Value) : Except ListingFailure Listing := do
  let names ← namesFrom file [] (entries v)
  let classes ← linkAll names (entries v) (names.map .unlinked)
  match classes.find? (isCyclic classes) with
  | some c => .error (.rejected (.cyclic c.name))
  | none => .ok ⟨classes⟩

/-- How deep the value of a listing is looked into: the fields of an entry hold lists at most. -/
def depth : Nat := 5

def valueOf (p : NormalPath) (text : List Char) : Except ListingFailure Yaml.Value :=
  match Yaml.load (Text.unifyLineEnds text) depth with
  | .ok v => .ok v
  | .error .malformed =>
    .error (.rejected (.unreadable p.text Yaml.Error.malformed.message))
  | .error e => .error (.fault (.scalar e))

def readValue (tree : FileTree) (workingDirectory : List String) (p : NormalPath) :
    Except ListingFailure Yaml.Value :=
  match tree.read workingDirectory p with
  | .error (.unusable fault) => .error (.fault (.path fault))
  | .error e => .error (.rejected (.unreadable p.text e.message))
  | .ok bytes =>
    match Text.decodeUtf8 bytes with
    | .error fault => .error (.fault (.notUtf8 fault))
    | .ok text => valueOf p text

def read (tree : FileTree) (workingDirectory : List String) (p : NormalPath) :
    Except ListingFailure Listing := do
  ofValue p.lastName (← readValue tree workingDirectory p)

end Listing

end DocletPreflight
