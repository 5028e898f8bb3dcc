import DocletPreflight.Taglet.Registry

/-!
# Taglet classes

A taglet class is code from elsewhere. All that matters of it is what it does to a registry when it
is asked to register: a `Registrar` performs registry operations one after another, may look at each
outcome and at the whole registry before it goes on, and may fail at any point with an error of its own.
It has no other way to touch the registry. The taglets that it offers are made anew whenever it is asked,
so in another call of the loader a class may come with another registrar, whose taglets have other
identities.

An error of code from elsewhere (`ForeignError`) is reported by its text. The text is made by code from
elsewhere too, and may not come about. Code from elsewhere may also raise an error of the kind by which the
loader itself says that a class cannot be loaded.
-/

set_option autoImplicit false

namespace DocletPreflight

/-- What code from elsewhere raises. There is a text for it, or asking for the text raises something else.
-/
inductive ForeignError where
  | legible (text : String)
  | illegible (raised : ForeignError)
  /-- An error of the kind that the loader takes up as its own. -/
  | own (e : ForeignError)
  deriving DecidableEq, Repr

namespace ForeignError

/-- The text of an error, or what asking for it raises. -/
def text : ForeignError → Except ForeignError String
  | legible text => .ok text
  | illegible raised => .error raised
  | own e => e.text

/-- The text of an error, and in place of one that does not come about the words that say so. -/
def message (e : ForeignError) : String :=
  match e.text with
  | .ok text => text
  | .error _ => "<exception str() failed>"

end ForeignError

abbrev Outcome := Except RegistryError Registry.Answer

/-- What a class does to a registry when it is asked to register. -/
inductive Registrar where
  | done
  | fail (e : ForeignError)
  | look (next : Registry → Registrar)
  | perform (op : Registry.Op) (next : Outcome → Registrar)

namespace Registrar

/-- Runs a registrar: success or its failure, and the registry it leaves. -/
def run : Registrar → Registry → Except ForeignError Unit × Registry
  | done, r => (.ok (), r)
  | fail e, r => (.error e, r)
  | look next, r => (next r).run r
  | perform op next, r => (next (Registry.perform op r).1).run (Registry.perform op r).2

/-- The registrar that performs operations in order and fails with the first that fails. -/
def ofOps : List Registry.Op → Registrar
  | [] => done
  | op :: rest =>
    perform op fun
      | .ok _ => ofOps rest
      | .error e => fail (.legible e.message)

end Registrar

/-- The method that a class has to register with. -/
inductive RegisterMethod where
  /-- There is none, or nothing that could be called. -/
  | missing
  | found (registrar : Registrar)
  /-- Asking the class for it raises. -/
  | raises (e : ForeignError)

/-- A taglet class: the texts that say where it is defined and what it is called, and how it registers itself.
-/
structure TagletClass where
  moduleName : String
  name : String
  method : RegisterMethod

def TagletClass.qualifiedName (c : TagletClass) : String := c.moduleName ++ "." ++ c.name

end DocletPreflight
