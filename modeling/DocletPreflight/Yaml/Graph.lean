import DocletPreflight.Yaml.Tag
import DocletPreflight.Yaml.Tree

/-!
# The nodes of a document

Aliases make a graph of the tree of a document: a node may be reached in several ways, and may even
contain itself. A `Graph` is the table of its nodes, each with its tag, and a node is known by its
number. An alias must follow its anchor.
-/

set_option autoImplicit false

namespace DocletPreflight.Yaml

/-- The content of a node, in terms of the numbers of other nodes. -/
inductive Content where
  | scalar (text : String)
  | sequence (items : List Nat)
  | mapping (pairs : List (Nat × Nat))
  deriving DecidableEq, Repr

def Content.isMapping : Content → Bool
  | mapping _ => true
  | _ => false

structure Node where
  tag : Tag
  content : Content
  deriving DecidableEq, Repr

/-- The nodes of a document by number. -/
abbrev Graph := Array Node

namespace Graph

/-- The tag of a node that has none of its own, or one written out. -/
def tagOr (tag : Option String) (default : Tag) : Tag :=
  match tag with
  | none => default
  | some "!" => default
  | some text => Tag.ofText text

/-- The tag of a scalar: a plain one without a tag, and any one with the tag `!`, gets it by its
form. -/
def scalarTag (properties : Properties) (text : String) (plain : Bool) : Tag :=
  match properties.tag with
  | none => if plain then Tag.ofPlain text else .str
  | some "!" => Tag.ofPlain text
  | some written => Tag.ofText written

structure Composition where
  nodes : Graph
  anchors : List (String × Nat)

namespace Composition

def add (properties : Properties) (n : Node) (c : Composition) : Nat × Composition :=
  let number := c.nodes.size
  (number, ⟨c.nodes.push n, (properties.anchor.toList.map (·, number)) ++ c.anchors⟩)

def fill (number : Nat) (content : Content) (c : Composition) : Composition :=
  { c with nodes := c.nodes.modify number fun n => { n with content } }

mutual

/-- Adds the nodes of a tree; the answer is the number of its root. A collection has its number
before its items have theirs, so that they may refer to it. -/
def ofTree : Tree → Composition → Except Error (Nat × Composition)
  | .reference name, c =>
    match c.anchors.lookup name with
    | some number => .ok (number, c)
    | none => .error .malformed
  | .scalar properties text plain, c =>
    .ok (c.add properties ⟨scalarTag properties text plain, .scalar text⟩)
  | .sequence properties items, c => do
    let (number, c) := c.add properties ⟨tagOr properties.tag .seq, .sequence []⟩
    let (numbers, c) ← ofTrees items c
    .ok (number, c.fill number (.sequence numbers))
  | .mapping properties pairs, c => do
    let (number, c) := c.add properties ⟨tagOr properties.tag .map, .mapping []⟩
    let (numbers, c) ← ofPairs pairs c
    .ok (number, c.fill number (.mapping numbers))

/-- Adds the nodes of trees in order. -/
def ofTrees : List Tree → Composition → Except Error (List Nat × Composition)
  | [], c => .ok ([], c)
  | tree :: rest, c => do
    let (number, c) ← ofTree tree c
    let (numbers, c) ← ofTrees rest c
    .ok (number :: numbers, c)

/-- Adds the nodes of keys and values in order. -/
def ofPairs : List (Tree × Tree) → Composition → Except Error (List (Nat × Nat) × Composition)
  | [], c => .ok ([], c)
  | (key, value) :: rest, c => do
    let (keyNumber, c) ← ofTree key c
    let (valueNumber, c) ← ofTree value c
    let (numbers, c) ← ofPairs rest c
    .ok ((keyNumber, valueNumber) :: numbers, c)

end

end Composition

/-- The graph of a tree, and the number of its root. -/
def ofTree (tree : Tree) : Except Error (Nat × Graph) := do
  let (root, c) ← Composition.ofTree tree ⟨#[], []⟩
  .ok (root, c.nodes)

end Graph

end DocletPreflight.Yaml
