import DocletPreflight.Decimal.Shortest
import DocletPreflight.Taglet.Definition

/-!
# What a registry may be offered

Taglet classes hand the registry whatever they like, and only taglets are taken. An `Offer` is a
taglet, a tag definition, a plain value, or something that is no taglet though it has a key as taglets
do; `Offer.quoted` is how a refusal shows it.
-/

set_option autoImplicit false

namespace DocletPreflight

/-- A plain value: nothing, a truth value, a whole number, a fraction, a text, a list or a dictionary. -/
inductive PlainValue where
  | nothing
  | bool (b : Bool)
  | int (n : Int)
  | fraction (x : Decimal.Binary64)
  | text (s : String)
  | list (items : List PlainValue)
  | dict (entries : List (String × PlainValue))
  deriving Repr

namespace PlainValue

def typeName : PlainValue → String
  | nothing => "NoneType"
  | bool _ => "bool"
  | int _ => "int"
  | fraction _ => "float"
  | text _ => "str"
  | list _ => "list"
  | dict _ => "dict"

mutual

/-- A value as a message shows it. -/
def quoted : PlainValue → String
  | nothing => "None"
  | bool b => if b then "True" else "False"
  | int n => toString n
  | fraction x => x.text
  | text s => Text.quoted s
  | list items => "[" ++ String.intercalate ", " (quotedItems items) ++ "]"
  | dict entries => "\x7b" ++ String.intercalate ", " (quotedEntries entries) ++ "\x7d"

def quotedItems : List PlainValue → List String
  | [] => []
  | item :: rest => quoted item :: quotedItems rest

/-- The entries of a dictionary as a message shows them. -/
def quotedEntries : List (String × PlainValue) → List String
  | [] => []
  | (key, value) :: rest => (Text.quoted key ++ ": " ++ quoted value) :: quotedEntries rest

end

mutual

/-- Equality of values. A truth value equals the number 0 or 1, and the order of the entries of a
dictionary does not matter. -/
def same : PlainValue → PlainValue → Bool
  | nothing, other =>
    match other with
    | nothing => true
    | _ => false
  | text s, other =>
    match other with
    | text t => s = t
    | _ => false
  | bool b, other =>
    match other with
    | bool c => b = c
    | int n => n = if b then 1 else 0
    | fraction x => x.equalsInt (if b then 1 else 0)
    | _ => false
  | int n, other =>
    match other with
    | bool c => n = if c then 1 else 0
    | int m => n = m
    | fraction x => x.equalsInt n
    | _ => false
  | fraction x, other =>
    match other with
    | bool c => x.equalsInt (if c then 1 else 0)
    | int n => x.equalsInt n
    | fraction y => x.equals y
    | _ => false
  | list items, other =>
    match other with
    | list others => sameItems items others
    | _ => false
  | dict entries, other =>
    match other with
    | dict others => entries.length = others.length && sameEntries entries others
    | _ => false

def sameItems : List PlainValue → List PlainValue → Bool
  | [], others => others.isEmpty
  | item :: rest, others =>
    match others with
    | [] => false
    | other :: others => same item other && sameItems rest others

/-- Whether every entry is found in the other dictionary. -/
def sameEntries : List (String × PlainValue) → List (String × PlainValue) → Bool
  | [], _ => true
  | (key, value) :: rest, others =>
    match others.lookup key with
    | some other => same value other && sameEntries rest others
    | none => false

end

end PlainValue

inductive Offer where
  | taglet (t : Taglet)
  | definition (d : TagDefinition)
  | plain (v : PlainValue)
  /-- No taglet, but something that has a key; it is shown as a text. -/
  | keyed (typeName key shown : String)
  deriving Repr

namespace Offer

def nothing : Offer := .plain .nothing

def taglet? : Offer → Option Taglet
  | taglet t => some t
  | _ => none

/-- The key that an offer would be registered under. -/
def key? : Offer → Option String
  | taglet t => some t.key
  | keyed _ key _ => some key
  | _ => none

def typeName : Offer → String
  | taglet _ => "Taglet"
  | definition _ => "CustomTagDefinition"
  | plain v => v.typeName
  | keyed typeName _ _ => typeName

/-- An offer as a refusal shows it. A taglet is never refused. -/
def quoted : Offer → String
  | taglet t => t.name
  | definition d => d.quoted
  | plain v => v.quoted
  | keyed _ _ shown => shown

/-- Equality of offers: equal taglets, definitions or values, or whatever has a key if all that is known
of it is the same. -/
def same : Offer → Offer → Bool
  | taglet a, taglet b => a = b
  | definition a, definition b => a = b
  | plain a, plain b => a.same b
  | keyed typeName key shown, keyed typeName' key' shown' =>
    typeName = typeName' && key = key' && shown = shown'
  | _, _ => false

end Offer

end DocletPreflight
