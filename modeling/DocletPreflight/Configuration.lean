import DocletPreflight.Classes.Filter
import DocletPreflight.Path
import DocletPreflight.Taglet.Registry

/-!
# Configurations

A configuration is what remains of the options once they have been checked. It is read-only, and so
is its taglet registry: a configuration cannot be made with a registry that is not frozen.
-/

set_option autoImplicit false

namespace DocletPreflight

/-- The checked options of a doclet. -/
structure Configuration where
  directory : NormalPath
  multipleFiles : Bool
  subfolders : Bool
  encoding : String
  fileName : String
  classFilter : ClassFilter
  taglets : Registry
  taglets_frozen : taglets.frozen = true

namespace Configuration

def defaultEncoding : String := "utf-8"

/-- The file name that is used when none is asked for. -/
def defaultFileName : String := "xmldoclet.xml"

def make (directory : NormalPath) (multipleFiles subfolders : Bool) (encoding fileName : String)
    (classFilter : ClassFilter) (taglets : Registry) : Configuration where
  directory := directory
  multipleFiles := multipleFiles
  subfolders := subfolders
  encoding := encoding
  fileName := fileName
  classFilter := classFilter
  taglets := { taglets with frozen := true }
  taglets_frozen := rfl

/-- The line for one dimension of the class filter, when it is set. -/
def filterLine (label : String) : Option String → List String
  | none => []
  | some type => [label ++ " filter: " ++ type]

/-- The line that says where the output goes. -/
def modeLine (c : Configuration) : String :=
  if c.multipleFiles then
    "Output mode: multiple files (" ++ (if c.subfolders then "package subfolders" else "flat") ++ ")"
  else "Output mode: single file " ++ c.fileName

/-- A summary of a configuration, line by line. -/
def describe (c : Configuration) : List String :=
  ["Output directory: " ++ c.directory.text, "Output encoding: " ++ c.encoding, c.modeLine] ++
    filterLine "Extends" c.classFilter.superclass ++
    filterLine "Implements" c.classFilter.interface ++
    filterLine "Annotated" c.classFilter.annotationType ++
    ["Taglets: " ++ toString c.taglets.size]

def accepts (c : Configuration) (facets : Facets) : Bool := c.classFilter.accepts facets

end Configuration

/-- An attempt to change a configuration after it was made. -/
inductive ReadOnlyError where
  | assign (field : String)
  | delete (field : String)
  deriving DecidableEq, Repr

def ReadOnlyError.message : ReadOnlyError → String
  | assign field => "cannot assign to field " ++ Text.quoted field
  | delete field => "cannot delete field " ++ Text.quoted field

end DocletPreflight
