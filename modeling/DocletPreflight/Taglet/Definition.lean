import DocletPreflight.Taglet
import DocletPreflight.Text.Cut
import DocletPreflight.Text.Quoted

/-!
# Tag definitions

The command line defines a custom tag by `name`, `name:scope` or `name:scope:title`. Only the first
two colons separate, so a title may hold colons. `TagDefinition.render` is the way back: reading
and writing are inverse to each other on the definitions whose name and scope hold no colon.
-/

set_option autoImplicit false

namespace DocletPreflight

/-- The parts of a tag definition. A title stands only after a scope. -/
structure TagDefinition where
  name : String
  scope : Option String
  title : Option String
  deriving DecidableEq, Repr

namespace TagDefinition

def parse (text : String) : TagDefinition :=
  match Text.cutFirst ':' text.toList with
  | (name, none) => ⟨String.ofList name, none, none⟩
  | (name, some rest) =>
    ⟨String.ofList name, some (String.ofList (Text.cutFirst ':' rest).1),
      (Text.cutFirst ':' rest).2.map String.ofList⟩

def render (d : TagDefinition) : String :=
  match d.scope, d.title with
  | none, _ => d.name
  | some scope, none => d.name ++ ":" ++ scope
  | some scope, some title => d.name ++ ":" ++ scope ++ ":" ++ title

/-- The custom tag of a definition, with its scope and title. -/
def toTaglet (d : TagDefinition) (enabled : Bool) : Taglet :=
  .custom d.name enabled d.scope d.title

/-- The custom tag that the command line installs for a definition: only the name counts. -/
def toEnabledTaglet (d : TagDefinition) : Taglet := .custom d.name true none none

def quotedPart : Option String → String
  | none => "None"
  | some text => Text.quoted text

/-- A definition as a message shows it. -/
def quoted (d : TagDefinition) : String :=
  "CustomTagDefinition(name=" ++ Text.quoted d.name ++ ", scope=" ++ quotedPart d.scope ++
    ", title=" ++ quotedPart d.title ++ ")"

end TagDefinition

end DocletPreflight
