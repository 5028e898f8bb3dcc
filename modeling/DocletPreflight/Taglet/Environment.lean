import DocletPreflight.Taglet.Registrar
import DocletPreflight.Text.Blank
import DocletPreflight.Text.Cut
import DocletPreflight.Text.WordCharacter

/-!
# What can be loaded

Taglet classes are found by name in an `Environment`: the installed entry points, the modules that
can be imported, and the attributes of modules and classes. It is what one call of the loader meets.
Importing a module and taking an attribute run code from elsewhere, which may raise, and so may the question
whether what was found is a taglet class. An entry point refers to its object by a reference such as
`package.module:Outer.Inner [extra]`, which `Reference.parse?` takes apart.
-/

set_option autoImplicit false

namespace DocletPreflight

/-- Something that a module holds. -/
inductive LoadedObject where
  /-- A taglet class. -/
  | tagletClass (c : TagletClass)
  /-- The value that stands for nothing. -/
  | nothing
  /-- Anything else, known by a label. -/
  | other (label : String)
  /-- Something that passes for a class, while the question whether it is a taglet class raises. -/
  | untestable (label : String) (e : ForeignError)

/-- Why a module cannot be imported: there is no such module, or its code failed. -/
inductive ImportFailure where
  | notFound (e : ForeignError)
  | failed (e : ForeignError)
  deriving DecidableEq, Repr

def ImportFailure.raised : ImportFailure → ForeignError
  | notFound e => e
  | failed e => e

/-- Why an attribute cannot be had: there is no such attribute, or asking for it failed. -/
inductive AttributeFailure where
  | missing (e : ForeignError)
  | failed (e : ForeignError)
  deriving DecidableEq, Repr

def AttributeFailure.raised : AttributeFailure → ForeignError
  | missing e => e
  | failed e => e

structure EntryPoint where
  name : String
  value : String
  group : String
  deriving DecidableEq, Repr

/-- What can be loaded: entry points, modules, and the attributes of what was loaded. -/
structure Environment where
  entryPoints : List EntryPoint
  importModule : String → Except ImportFailure LoadedObject
  memberOf : LoadedObject → String → Except AttributeFailure LoadedObject

/-- The environment in which nothing can be loaded. -/
def Environment.bare : Environment where
  entryPoints := []
  importModule := fun name => .error (.notFound (.legible ("No module named " ++ Text.quoted name)))
  memberOf := fun _ name => .error (.missing (.legible ("no attribute " ++ Text.quoted name)))

/-- A reference to an object: its module and the attributes that lead to it. -/
structure Reference where
  moduleName : String
  attributes : List String
  deriving DecidableEq, Repr

namespace Reference

def isNameCharacter (c : Char) : Bool := Text.isWordCharacter c || c = '.'

/-- Whether a text is empty or a bracketed list of extras, blanks aside; the brackets stand on one
line. -/
def isExtras (s : List Char) : Bool :=
  match (s.reverse.dropWhile Text.isBlank).reverse with
  | [] => true
  | '[' :: rest => rest.getLast? = some ']' && !rest.contains '\n'
  | _ => false

/-- The module, the attributes after a colon if there are any, and extras that mean nothing here.
-/
def parse? (value : String) : Option Reference :=
  let (moduleName, rest) := value.toList.span isNameCharacter
  if moduleName.isEmpty then none
  else
    match rest.dropWhile Text.isBlank with
    | ':' :: rest =>
      let (path, extras) := (rest.dropWhile Text.isBlank).span isNameCharacter
      if path.isEmpty || !isExtras (extras.dropWhile Text.isBlank) then none
      else
        some ⟨String.ofList moduleName,
          (Text.pieces '.' path).filterMap fun p => if p.isEmpty then none else String.ofList p⟩
    | rest => if isExtras rest then some ⟨String.ofList moduleName, []⟩ else none

end Reference

namespace Environment

def follow (env : Environment) : LoadedObject → List String → Except ForeignError LoadedObject
  | object, [] => .ok object
  | object, name :: rest =>
    match env.memberOf object name with
    | .ok next => env.follow next rest
    | .error failure => .error failure.raised

/-- Loads what a reference refers to, or raises what keeps it from being loaded. -/
def loadReference (env : Environment) (value : String) : Except ForeignError LoadedObject :=
  match Reference.parse? value with
  | none => .error (.legible "'NoneType' object has no attribute 'group'")
  | some reference =>
    match env.importModule reference.moduleName with
    | .ok object => env.follow object reference.attributes
    | .error failure => .error failure.raised

def tagletGroup : String := "xmldoclet.taglets"

def entryPoint? (env : Environment) (name : String) : Option EntryPoint :=
  env.entryPoints.find? fun e => e.group = tagletGroup && e.name = name

end Environment

end DocletPreflight
