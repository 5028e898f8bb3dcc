import DocletPreflight.Encoding.Table
import DocletPreflight.Text.Utf8

/-!
# Names of encodings

An encoding may be asked for by any of its names, in any case and with any punctuation: `normalize`
brings a name into the form that the table uses, and `lookup` finds the canonical name.
-/

set_option autoImplicit false

namespace DocletPreflight.Encoding

/-- Why a name gives no encoding. -/
inductive Fault where
  | unknown
  | embeddedNul
  | unencodable (u : Text.Unencodable)
  deriving DecidableEq, Repr

/-- The text of the fault that is no ordinary diagnostic. -/
def Fault.message : Fault → String
  | .unknown => "unknown encoding"
  | .embeddedNul => "embedded null character"
  | .unencodable u => u.message

/-- A way to find the canonical name of an encoding. -/
abbrev Lookup := String → Except Fault String

/-- The characters that a normal form keeps. -/
def isKept (c : Char) : Bool := c.isAlphanum || c = '.'

/-- Every run of characters that are not kept becomes one underscore; `pending` says that such a run
precedes and that something was kept before it, `started` that something was kept. -/
def normalizeFrom (started pending : Bool) : List Char → List Char
  | [] => []
  | c :: rest =>
    if isKept c then
      (if pending then ['_', c.toLower] else [c.toLower]) ++ normalizeFrom true false rest
    else normalizeFrom started started rest

/-- The normal form of a name: letters in lower case, digits and points, and one underscore for
each run of anything else that stands between them. -/
def normalize (name : String) : String := String.ofList (normalizeFrom false false name.toList)

def byAlias? (name : String) : Option Entry := table.find? (·.aliases.contains name)

def byModule? (name : String) : Option Entry := table.find? (·.modules.contains name)

/-- The canonical name of an encoding: by an alias, by an alias once points are underscores, or by
the name of a module. Half of a surrogate pair is refused before anything else, and then a null
character. -/
def lookup : Lookup := fun name =>
  match Text.unencodable? (fun _ => false) (Text.codes name), name.toList.contains '\x00' with
  | some u, _ => .error (.unencodable u)
  | none, true => .error .embeddedNul
  | none, false =>
    let key := normalize name
    let plain := String.ofList (key.toList.map fun c => if c = '.' then '_' else c)
    let byName := if key.toList.contains '.' then none else byModule? key
    match (byAlias? key).or ((byAlias? plain).or byName) with
    | some entry => .ok entry.canonical
    | none => .error .unknown

end DocletPreflight.Encoding
