import DocletPreflight.Yaml.Error

/-!
# Tokens of a YAML text

The marks of the format and its scalars. The starts and ends of block collections are tokens too,
although nothing but indentation shows them in the text. A text may have a fault; the fault is a token
as well, and the last one, so that what stands before it can still be read, and found wrong for a reason
of its own.
-/

set_option autoImplicit false

namespace DocletPreflight.Yaml

inductive Token where
  /-- The version of the format that the text was written for. -/
  | version (major : Nat)
  /-- A short form for the beginning of tags. -/
  | tagHandle (handle expansion : String)
  /-- A directive without a meaning. -/
  | reserved
  | documentStart
  | documentEnd
  | blockSequenceStart
  | blockMappingStart
  | blockEnd
  | flowSequenceStart
  | flowSequenceEnd
  | flowMappingStart
  | flowMappingEnd
  | flowEntry
  | blockEntry
  | key
  | value
  | reference (name : String)
  | anchor (name : String)
  /-- A tag, split into its handle and the rest; a tag that is written out has no handle. -/
  | tag (handle : Option String) (suffix : String)
  /-- A scalar, plain when it stands without quotes or a block header. -/
  | scalar (text : String) (plain : Bool)
  /-- The place from which on nothing can be read. -/
  | fault (e : Error)
  deriving DecidableEq, Repr

namespace Token

/-- The tokens that can be looked at: none from a fault on. -/
def ready : List Token → Except Error (List Token)
  | .fault e :: _ => .error e
  | ts => .ok ts

/-- Tokens of which the next node, perhaps behind its tag, is a fault. -/
def faultyNode : List Token → List Token
  | .tag handle suffix :: .fault e :: _ => [.tag handle suffix, .fault e]
  | .tag handle suffix :: _ => [.tag handle suffix, .fault .malformed]
  | .fault e :: _ => [.fault e]
  | _ => [.fault .malformed]

def opens : Token → Bool
  | blockSequenceStart => true
  | blockMappingStart => true
  | flowSequenceStart => true
  | flowMappingStart => true
  | _ => false

/-- Whether a collection ends with a token. -/
def closes : Token → Bool
  | blockEnd => true
  | flowSequenceEnd => true
  | flowMappingEnd => true
  | _ => false

def nestingLimit : Nat := 488

/-- Makes a fault of a collection inside too many others; it stands inside `depth` of them. -/
def checkNesting (depth : Nat) : List Token → List Token
  | [] => []
  | t :: rest =>
    if t.opens && nestingLimit ≤ depth then [.fault .tooDeep]
    else t :: checkNesting (if t.opens then depth + 1 else if t.closes then depth - 1 else depth) rest

/-- Makes a fault of an alias that follows no anchor of its name, and of the node behind an anchor whose
name is taken. -/
def checkNames (taken : List String) : List Token → List Token
  | [] => []
  | .reference name :: rest =>
    if taken.contains name then .reference name :: checkNames taken rest else [.fault .malformed]
  | .anchor name :: rest =>
    .anchor name ::
      (if taken.contains name then faultyNode rest else checkNames (name :: taken) rest)
  | t :: rest => t :: checkNames taken rest

end Token

end DocletPreflight.Yaml
