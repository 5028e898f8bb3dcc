import DocletPreflight.Scope

/-!
# Taglets

A taglet handles one documentation tag. There are the standard block and inline tags, the custom
tags that the command line defines, and the tags of taglet classes that are loaded by name. Inline
tags are kept apart from block tags of the same name by their key.
-/

set_option autoImplicit false

namespace DocletPreflight

/-- A taglet that a loaded class made; it is allowed everywhere. Classes make their taglets one by one, and
no two of them are the same, be their class and their name the same or not: the identity tells them apart.
A class that has a rule of its own for which of its taglets are equal gives those one identity. -/
structure PluginTaglet where
  className : String
  name : String
  isInline : Bool
  identity : Nat
  deriving DecidableEq, Repr

/-- A tag handler. A custom tag is `enabled` when the command line defined it. -/
inductive Taglet where
  | block (tag : String) (scopes : ScopeSet)
  | inline (tag : String)
  | custom (tag : String) (enabled : Bool) (scope title : Option String)
  | plugin (p : PluginTaglet)
  deriving DecidableEq, Repr

namespace Taglet

/-- The name of the tag, without the at sign. -/
def name : Taglet → String
  | block tag _ => tag
  | inline tag => tag
  | custom tag .. => tag
  | plugin p => p.name

/-- Whether the tag stands inside running text. -/
def isInline : Taglet → Bool
  | inline _ => true
  | plugin p => p.isInline
  | _ => false

/-- The key of a taglet: its name, with an at sign before it for an inline tag. -/
def key (t : Taglet) : String := if t.isInline then "@" ++ t.name else t.name

/-- Whether the tag may stand in a place; a text that names no scope is no place for a standard or
custom tag. -/
def inScope (t : Taglet) (scope : String) : Bool :=
  match t with
  | block _ scopes => scopes.containsName scope
  | inline _ => ScopeSet.full.containsName scope
  | custom _ _ expression _ => (ScopeSet.parse expression).containsName scope
  | plugin _ => true

/-- The scopes that the tag may stand in. -/
def scopes (t : Taglet) : ScopeSet := ScopeSet.ofPred fun s => t.inScope s.name

end Taglet

end DocletPreflight
