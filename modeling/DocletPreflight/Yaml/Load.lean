import DocletPreflight.Yaml.Graph
import DocletPreflight.Yaml.Scalar
import DocletPreflight.Yaml.Token.Scan

/-!
# From a YAML text to its value

`load` reads a text as tokens, a tree and a graph, and then gives every node that can be reached its
value. The values of collections are settled one after another, the outermost first; a mapping takes
over the pairs of the mappings that it is to be merged with before its own are looked at, and a key
must not be a collection. The value that is answered is as deep as was asked for: what is nested more
deeply, which may be without an end, is cut off.
-/

set_option autoImplicit false

namespace DocletPreflight.Yaml

/-- What a node stands for, in terms of the numbers of other nodes. -/
inductive Meaning where
  | scalar (v : Value)
  | list (items : List Nat)
  | map (pairs : List (Nat × Nat))
  /-- A collection of no further use: a set. -/
  | set
  /-- A list of pairs. -/
  | pairs (count : Nat)
  deriving Repr

namespace Meaning

/-- A collection cannot be a key. -/
def isCollection : Meaning → Bool
  | scalar _ => false
  | _ => true

end Meaning

/-- The state of settling: the nodes, the meanings that are settled, and the collections whose items
are still to be looked at, in order. -/
structure Settling where
  nodes : Graph
  meanings : Array (Option Meaning)
  waiting : Array Nat

namespace Settling

def node (s : Settling) (number : Nat) : Except Error Node :=
  match s.nodes[number]? with
  | some n => .ok n
  | none => .error .malformed

/-- The meaning of a node, as far as it is settled. -/
def meaning? (s : Settling) (number : Nat) : Option Meaning := (s.meanings[number]?).getD none

def setMeaning (number : Nat) (m : Meaning) (s : Settling) : Settling :=
  { s with meanings := s.meanings.set! number (some m) }

/-- The text of a scalar. A mapping stands for the scalar under its `=` key, and is too deep when that
leads on more often than there are nodes. -/
def scalarText (s : Settling) : Nat → Nat → Except Error String
  | 0, _ => .error .tooDeep
  | fuel + 1, number => do
    let n ← s.node number
    match n.content with
    | .scalar text => .ok text
    | .sequence _ => .error .malformed
    | .mapping pairs =>
      match pairs.find? fun pair => (s.nodes[pair.1]?).any (·.tag = .value) with
      | some pair => s.scalarText fuel pair.2
      | none => .error .malformed

/-- Starts to settle a node: a scalar has its value at once, a collection waits for its items. -/
def visit (number : Nat) (s : Settling) : Except Error Settling :=
  if (s.meaning? number).isSome then .ok s
  else do
    let n ← s.node number
    let later (m : Meaning) : Except Error Settling :=
      .ok { s.setMeaning number m with waiting := s.waiting.push number }
    match n.tag with
    | .seq => later (.list [])
    | .map => later (.map [])
    | .set => later .set
    | .omap => later (.pairs 0)
    | .pairs => later (.pairs 0)
    | .merge => .error .malformed
    | .value => .error .malformed
    | .unknown => .error .malformed
    | tag => do
      let text ← s.scalarText (s.nodes.size + 1) number
      if tag = .timestamp && n.content.isMapping then .error .timeOfMapping
      else
        let v ← Scalar.value tag text
        .ok (s.setMeaning number (.scalar v))

/-- Visits nodes in order. -/
def visitAll : List Nat → Settling → Except Error Settling
  | [], s => .ok s
  | number :: rest, s => do visitAll rest (← s.visit number)

/-- Visits keys and values in order; no key may be a collection, unless `anyKey`. -/
def visitPairs (anyKey : Bool) : List (Nat × Nat) → Settling → Except Error Settling
  | [], s => .ok s
  | (key, value) :: rest, s => do
    let s ← s.visit key
    if !anyKey && (s.meaning? key).any (·.isCollection) then .error .malformed
    else visitPairs anyKey rest (← s.visit value)

def pairsOf (s : Settling) (number : Nat) : Except Error (List (Nat × Nat)) := do
  match (← s.node number).content with
  | .mapping pairs => .ok pairs
  | _ => .error .malformed

def setPairs (number : Nat) (pairs : List (Nat × Nat)) (s : Settling) : Settling :=
  { s with nodes := s.nodes.modify number fun n => { n with content := .mapping pairs } }

/-- Makes the `=` keys among some pairs ordinary texts. -/
def retagKeys (pairs : List (Nat × Nat)) (s : Settling) : Settling :=
  { s with
    nodes := pairs.foldl
      (fun nodes pair =>
        nodes.modify pair.1 fun n => if n.tag = .value then { n with tag := .str } else n)
      s.nodes }

/-- What the first `<<` key among some pairs names, and the pairs without it. -/
def takeMerge? (s : Settling) : List (Nat × Nat) → Option (Nat × List (Nat × Nat))
  | [] => none
  | (key, value) :: rest =>
    if (s.nodes[key]?).any (·.tag = .merge) then some (value, rest)
    else (s.takeMerge? rest).map fun (source, others) => (source, (key, value) :: others)

/-- Merges into a mapping the pairs of the mappings that its `<<` keys name, once these have merged
theirs. `merged` are the pairs taken over so far; they come before the mapping's own in the end. Every
step takes a `<<` key away, and none is ever taken over. -/
def merge (number : Nat) : Nat → List (Nat × Nat) → Settling → Except Error Settling
  | 0, _, _ => .error .malformed
  | fuel + 1, merged, s => do
    let pairs ← s.pairsOf number
    match s.takeMerge? pairs with
    | none =>
      let s := s.retagKeys pairs
      .ok (if merged.isEmpty then s else s.setPairs number (merged ++ pairs))
    | some (source, others) =>
      let s := s.setPairs number others
      match (← s.node source).content with
      | .mapping _ =>
        let s ← merge source fuel [] s
        merge number fuel (merged ++ (← s.pairsOf source)) s
      | .sequence items =>
        let (s, lists) ← items.foldlM
          (fun (s, lists) item => do
            let _ ← s.pairsOf item
            let s ← merge item fuel [] s
            return (s, (← s.pairsOf item) :: lists))
          (s, [])
        merge number fuel (merged ++ lists.flatten) s
      | .scalar _ => .error .malformed

/-- The number of pairs of all mappings. -/
def size (s : Settling) : Nat :=
  s.nodes.foldl
    (fun total n =>
      match n.content with
      | .mapping pairs => total + pairs.length
      | _ => total)
    0

/-- A bound on the steps of a merge: each takes a `<<` key away or completes a mapping that such a key
led to. -/
def mergeFuel (s : Settling) : Nat := 2 * s.size + 2

/-- The single pairs that the items of a list of pairs are made of. -/
def singlePair (s : Settling) (number : Nat) : Except Error (Nat × Nat) := do
  match ← s.pairsOf number with
  | [pair] => .ok pair
  | _ => .error .malformed

/-- Visits the single pairs of items in order. -/
def visitSingles : List Nat → Settling → Except Error Settling
  | [], s => .ok s
  | number :: rest, s => do
    let pair ← s.singlePair number
    visitSingles rest (← s.visitPairs true [pair])

/-- Settles the items of a collection that waits. -/
def settle (number : Nat) (s : Settling) : Except Error Settling := do
  let n ← s.node number
  match s.meaning? number, n.content with
  | some (.list _), .sequence items =>
    let s ← s.visitAll items
    .ok (s.setMeaning number (.list items))
  | some (.map _), .mapping _ =>
    let s ← s.merge number s.mergeFuel []
    let pairs ← s.pairsOf number
    let s ← s.visitPairs false pairs
    .ok (s.setMeaning number (.map pairs))
  | some .set, .mapping _ =>
    let s ← s.merge number s.mergeFuel []
    s.visitPairs false (← s.pairsOf number)
  | some (.pairs _), .sequence items =>
    let s ← s.visitSingles items
    .ok (s.setMeaning number (.pairs items.length))
  | _, _ => .error .malformed

/-- Settles the collections that wait, from the place of one of them on. -/
def run : Nat → Nat → Settling → Except Error Settling
  | 0, _, _ => .error .malformed
  | fuel + 1, place, s =>
    match s.waiting[place]? with
    | none => .ok s
    | some number => do run fuel (place + 1) (← s.settle number)

def fieldName? (s : Settling) (key : Nat) : Option String :=
  match s.meaning? key with
  | some (.scalar (.str name)) => some name
  | _ => none

/-- The value of a node, so many levels deep. -/
def value (s : Settling) : Nat → Nat → Value
  | 0, _ => .other
  | depth + 1, number =>
    match s.meaning? number with
    | some (.scalar v) => v
    | some (.list items) => .list (items.map (s.value depth))
    | some (.map pairs) =>
      .map (pairs.filterMap fun pair =>
        (s.fieldName? pair.1).map fun name => (name, s.value depth pair.2))
    | some (.pairs count) => .list (List.replicate count .other)
    | some .set => .other
    | none => .other

end Settling

/-- The value of a graph from its root, so many levels deep. -/
def Graph.value (nodes : Graph) (root depth : Nat) : Except Error Value := do
  let s : Settling := ⟨nodes, Array.replicate nodes.size none, #[]⟩
  let s ← s.visit root
  let s ← s.run (nodes.size + 1) 0
  .ok (s.value depth root)

/-- The value of a text, so many levels deep. An empty text stands for nothing. -/
def load (text : List Char) (depth : Nat) : Except Error Value := do
  match ← Tree.ofTokens? (Token.scan text) with
  | none => .ok .null
  | some tree =>
    let (root, nodes) ← Graph.ofTree tree
    nodes.value root depth

end DocletPreflight.Yaml
