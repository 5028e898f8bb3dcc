import DocletPreflight.Diagnostic
import DocletPreflight.Taglet.Environment

/-!
# Loading taglet classes

The command line names taglet classes, by an entry point or by the dotted path of the class. Each is
found and asked to register itself; a name for which either fails is reported and does not keep the
others from being loaded. What a class did to the registry before it failed stays done.

Most of what code from elsewhere raises is taken up and reported by its text. Where the text does not come
about, or the error comes where none is taken up, the error escapes and ends the loading of all names.
-/

set_option autoImplicit false

namespace DocletPreflight

/-- Why a taglet class cannot be loaded or registered. -/
inductive LoadError where
  | notFound (name : String)
  | importFailed (moduleName text : String)
  | entryPointFailed (name text : String)
  | notTaglet (name : String)
  | noRegister (qualifiedName : String)
  | registerFailed (qualifiedName text : String)
  /-- Code from elsewhere says so. -/
  | foreign (text : String)
  deriving DecidableEq, Repr

def LoadError.message : LoadError → String
  | notFound name => "Class not found: " ++ name
  | importFailed moduleName text => "Failed to import " ++ moduleName ++ ": " ++ text
  | entryPointFailed name text => "Failed to load taglet entry point '" ++ name ++ "': " ++ text
  | notTaglet name => name ++ " is not a Taglet subclass"
  | noRegister qualifiedName => qualifiedName ++ " has no register(registry) method"
  | registerFailed qualifiedName text => qualifiedName ++ ".register failed: " ++ text
  | foreign text => text

/-- What comes of a failed attempt to load: a reason to report, or an error that escapes. -/
inductive LoadFailure where
  | reason (e : LoadError)
  | escape (e : ForeignError)
  deriving DecidableEq, Repr

namespace LoadFailure

/-- What an error amounts to where it is not taken up: it escapes, unless it is of the loader's own kind.
Then it is reported by its text, for which whoever loads names asks at once, and if there is none, what
asking for the text raises escapes. -/
def passing : ForeignError → LoadFailure
  | .own e =>
    match e.text with
    | .ok text => .reason (.foreign text)
    | .error raised => .escape raised
  | e => .escape e

/-- What an error amounts to where it is taken up and reported by its text. -/
def quoting (reason : String → LoadError) (e : ForeignError) : LoadFailure :=
  match e.text with
  | .ok text => .reason (reason text)
  | .error raised => passing raised

end LoadFailure

namespace Environment

/-- The object of a dotted path: the attribute after the last dot of the module before it. -/
def resolveDotted (env : Environment) (name : String) : Except LoadFailure LoadedObject :=
  match Text.cutLast '.' name.toList with
  | none => .error (.reason (.notFound name))
  | some (moduleChars, attributeChars) =>
    if moduleChars.isEmpty || attributeChars.isEmpty then .error (.reason (.notFound name))
    else
      let moduleName := String.ofList moduleChars
      match env.importModule moduleName with
      | .error (.notFound _) => .error (.reason (.notFound name))
      | .error (.failed e) => .error (.quoting (.importFailed moduleName) e)
      | .ok object =>
        match env.memberOf object (String.ofList attributeChars) with
        | .ok object => .ok object
        | .error (.missing _) => .error (.reason (.notFound name))
        | .error (.failed e) => .error (.passing e)

/-- The object of a name. An entry point of that name decides, unless what it refers to is nothing; the
name is a dotted path then, as it is without an entry point. -/
def resolve (env : Environment) (name : String) : Except LoadFailure LoadedObject :=
  match env.entryPoint? name with
  | some entry =>
    match env.loadReference entry.value with
    | .ok .nothing => env.resolveDotted name
    | .ok object => .ok object
    | .error e => .error (.quoting (.entryPointFailed name) e)
  | none => env.resolveDotted name

def resolutionNotes (env : Environment) (name : String) : Trace :=
  match env.entryPoint? name with
  | some entry =>
    [.note .taglets ("Resolving taglet " ++ name ++ " through entry point " ++ entry.value)]
  | none => []

def tagletClass (env : Environment) (name : String) : Except LoadFailure TagletClass :=
  match env.resolve name with
  | .ok (.tagletClass c) => .ok c
  | .ok .nothing => .error (.reason (.notTaglet name))
  | .ok (.other _) => .error (.reason (.notTaglet name))
  | .ok (.untestable _ e) => .error (.passing e)
  | .error failure => .error failure

end Environment

def TagletClass.register (c : TagletClass) (r : Registry) : Except LoadFailure Unit × Registry :=
  match c.method with
  | .missing => (.error (.reason (.noRegister c.qualifiedName)), r)
  | .raises e => (.error (.passing e), r)
  | .found registrar =>
    match registrar.run r with
    | (.ok _, r') => (.ok (), r')
    | (.error e, r') => (.error (.quoting (.registerFailed c.qualifiedName) e), r')

namespace Environment

def loadOne (env : Environment) (name : String) (r : Registry) :
    Except LoadFailure TagletClass × Registry :=
  match env.tagletClass name with
  | .error e => (.error e, r)
  | .ok c =>
    match c.register r with
    | (.ok _, r') => (.ok c, r')
    | (.error e, r') => (.error e, r')

end Environment

/-- The diagnostic for a name that was loaded, or that could not be. -/
def loadDiagnostic : Except LoadError TagletClass → Diagnostic
  | .ok c => .notice ("Using Taglet " ++ c.qualifiedName)
  | .error e => .error ("'-taglet' option reported error - :" ++ e.message)

/-- What loading several names amounts to: the classes that were loaded, unless an error escapes; what was
reported, and the registry that is left. -/
structure Loading where
  loaded : Except ForeignError (List TagletClass)
  trace : Trace
  registry : Registry

namespace Environment

/-- Loads names one after another, until an error escapes. -/
def loadAll (env : Environment) : List String → Registry → Loading
  | [], r => ⟨.ok [], [], r⟩
  | name :: rest, r =>
    let notes := env.resolutionNotes name
    match env.loadOne name r with
    | (.error (.escape e), r') => ⟨.error e, notes, r'⟩
    | (.error (.reason e), r') =>
      let later := env.loadAll rest r'
      { later with trace := notes ++ [.diagnostic (loadDiagnostic (.error e))] ++ later.trace }
    | (.ok c, r') =>
      let later := env.loadAll rest r'
      { later with
        loaded := later.loaded.map (c :: ·)
        trace := notes ++ [.diagnostic (loadDiagnostic (.ok c))] ++ later.trace }

end Environment

end DocletPreflight
