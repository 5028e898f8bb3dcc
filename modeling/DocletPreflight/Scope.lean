import DocletPreflight.Text.CodePoint

/-!
# Scopes

A documentation tag may be limited to some of the six places where comments stand. A `ScopeSet` is
a set of these places; `ScopeSet.parse` reads it from a scope expression, which is the name of one
scope or a string of letter codes.
-/

set_option autoImplicit false

namespace DocletPreflight

/-- A place where a documentation comment stands. -/
inductive Scope where
  | overview
  | packages
  | types
  | constructors
  | methods
  | fields
  deriving DecidableEq, Repr

namespace Scope

def all : List Scope := [overview, packages, types, constructors, methods, fields]

def name : Scope → String
  | overview => "overview"
  | packages => "packages"
  | types => "types"
  | constructors => "constructors"
  | methods => "methods"
  | fields => "fields"

def code : Scope → Char
  | overview => 'o'
  | packages => 'p'
  | types => 't'
  | constructors => 'c'
  | methods => 'm'
  | fields => 'f'

def ofName? (text : String) : Option Scope := all.find? (·.name = text)

/-- The names of all scopes in the order of their characters. -/
def sorted : List Scope := [constructors, fields, methods, overview, packages, types]

/-- The list of scopes leaves none out. -/
theorem mem_all (s : Scope) : s ∈ all := by cases s <;> decide

/-- A scope is found by its name. -/
theorem ofName?_name (s : Scope) : ofName? s.name = some s := by cases s <;> decide

/-- Only its own name is read as a scope. -/
theorem name_of_ofName? {text : String} {s : Scope} (h : ofName? text = some s) :
    s.name = text := by
  simpa using List.find?_some h

end Scope

structure ScopeSet where
  overview : Bool
  packages : Bool
  types : Bool
  constructors : Bool
  methods : Bool
  fields : Bool
  deriving DecidableEq, Repr

namespace ScopeSet

def contains (set : ScopeSet) : Scope → Bool
  | .overview => set.overview
  | .packages => set.packages
  | .types => set.types
  | .constructors => set.constructors
  | .methods => set.methods
  | .fields => set.fields

def ofPred (p : Scope → Bool) : ScopeSet :=
  ⟨p .overview, p .packages, p .types, p .constructors, p .methods, p .fields⟩

/-- A set made from a predicate contains the scopes that satisfy it. -/
@[simp]
theorem contains_ofPred (p : Scope → Bool) (s : Scope) : (ofPred p).contains s = p s := by
  cases s <;> rfl

/-- Sets that contain the same scopes are equal. -/
@[ext]
theorem ext_contains {a b : ScopeSet} (h : ∀ s, a.contains s = b.contains s) : a = b := by
  cases a; cases b
  simpa [contains] using
    And.intro (h .overview) (And.intro (h .packages) (And.intro (h .types)
      (And.intro (h .constructors) (And.intro (h .methods) (h .fields)))))

def full : ScopeSet := ofPred fun _ => true

def empty : ScopeSet := ofPred fun _ => false

def ofList (scopes : List Scope) : ScopeSet := ofPred (scopes.contains ·)

def union (a b : ScopeSet) : ScopeSet := ofPred fun s => a.contains s || b.contains s

/-- Whether a text is the name of a scope of the set; no other text is in it. -/
def containsName (set : ScopeSet) (text : String) : Bool :=
  (Scope.ofName? text).any set.contains

/-- The names of the scopes of a set, in the order of their characters. -/
def names (set : ScopeSet) : List String := (Scope.sorted.filter set.contains).map Scope.name

/-- The set that a string of letter codes stands for: `X` is none and `a` is every scope, in this
order; otherwise each scope whose code occurs, and other characters mean nothing. -/
def ofCodes (codes : List Char) : ScopeSet :=
  if codes.contains 'X' then empty
  else if codes.contains 'a' then full
  else ofPred fun s => codes.contains s.code

/-- The set that a scope expression stands for. Without an expression, or with an empty one, it is
every scope. -/
def parse : Option String → ScopeSet
  | none => full
  | some text =>
    if text = "" then full
    else
      match Scope.ofName? text with
      | some s => ofList [s]
      | none => ofCodes text.toList

/-- The names among those given that are no scope. -/
structure UnknownScopes where
  names : List String
  deriving DecidableEq, Repr

/-- The unknown names in the order of their characters, each once. -/
def UnknownScopes.message (e : UnknownScopes) : String :=
  "Unknown taglet scopes: " ++
    String.intercalate ", " (e.names.eraseDups.mergeSort Text.precedes)

def ofNames? (names : List String) : Except UnknownScopes ScopeSet :=
  let unknown := names.filter fun name => (Scope.ofName? name).isNone
  if unknown.isEmpty then .ok (ofList (names.filterMap Scope.ofName?)) else .error ⟨unknown⟩

end ScopeSet

end DocletPreflight
