import DocletPreflight.Taglet

/-!
# The standard tags

The block and inline tags that every documentation tool of the family knows, with the places where
the block tags may stand.
-/

set_option autoImplicit false

namespace DocletPreflight.Taglet

def standardBlock : List Taglet :=
  [block "author" (.ofList [.overview, .packages, .types]),
   block "deprecated" (.ofList [.types, .constructors, .methods, .fields]),
   block "exception" (.ofList [.constructors, .methods]),
   block "param" (.ofList [.types, .constructors, .methods]),
   block "return" (.ofList [.methods]),
   block "see" .full,
   block "serial" (.ofList [.packages, .types, .fields]),
   block "serialData" (.ofList [.methods]),
   block "serialField" (.ofList [.fields]),
   block "since" .full,
   block "throws" (.ofList [.constructors, .methods]),
   block "version" (.ofList [.overview, .packages, .types])]

/-- The standard inline tags; they may stand everywhere. -/
def standardInline : List Taglet :=
  [inline "code", inline "docRoot", inline "inheritDoc", inline "link", inline "linkplain",
   inline "literal", inline "value"]

/-- All standard tags, block tags first. -/
def standard : List Taglet := standardBlock ++ standardInline

/-- No two standard taglets have one key. -/
theorem nodup_keys_standard : (standard.map key).Nodup := by decide

end DocletPreflight.Taglet
