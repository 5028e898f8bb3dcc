import DocletPreflight.Yaml.Error
import DocletPreflight.Yaml.Token

/-!
# From tokens to a tree

The tokens of a text form one document at most, and the document is a tree of scalars, sequences and
mappings in which aliases stand for nodes elsewhere. Tags are written out in full here, and a missing
key, value or item is an empty plain scalar. Every reader of this module answers what it read and the
tokens behind it; its fuel bounds how deep and how far it reads and is larger than any text needs.
-/

set_option autoImplicit false

namespace DocletPreflight.Yaml

/-- What may stand before a node: a name for it, and a tag. -/
structure Properties where
  anchor : Option String
  tag : Option String
  deriving DecidableEq, Repr

def Properties.none : Properties := ⟨.none, .none⟩

/-- A node of a document as it is written. -/
inductive Tree where
  | reference (name : String)
  | scalar (properties : Properties) (text : String) (plain : Bool)
  | sequence (properties : Properties) (items : List Tree)
  | mapping (properties : Properties) (pairs : List (Tree × Tree))
  deriving Repr

namespace Tree

/-- A node that is not there. -/
def missing : Tree := scalar .none "" true

abbrev Handles := List (String × String)

/-- The short forms that need no directive. -/
def standardHandles : Handles := [("!", "!"), ("!!", "tag:yaml.org,2002:")]

/-- A tag written out. -/
def expandTag (handles : Handles) : Option String → String → Except Error String
  | none, suffix => .ok suffix
  | some handle, suffix =>
    match handles.lookup handle with
    | some expansion => .ok (expansion ++ suffix)
    | none => .error .malformed

/-- The properties here: an anchor and a tag, in either order. -/
def properties (handles : Handles) (ts : List Token) : Except Error (Properties × List Token) := do
  match ← Token.ready ts with
  | .anchor name :: rest =>
    match ← Token.ready rest with
    | .tag handle suffix :: rest => .ok (⟨name, some (← expandTag handles handle suffix)⟩, rest)
    | rest => .ok (⟨name, none⟩, rest)
  | .tag handle suffix :: rest =>
    match ← Token.ready rest with
    | .anchor name :: rest => .ok (⟨name, some (← expandTag handles handle suffix)⟩, rest)
    | rest => .ok (⟨none, some (← expandTag handles handle suffix)⟩, rest)
  | rest => .ok (.none, rest)

/-- Whether the next token is one of those that end an item or a key without a node. -/
def nextIn (enders : List Token) (ts : List Token) : Except Error Bool := do
  match ← Token.ready ts with
  | t :: _ => .ok (enders.contains t)
  | [] => .ok false

/-- The tokens from the next item inside brackets on, or from the closing bracket on: all items but the
first stand behind a comma, and a comma may precede the closing bracket. -/
def nextItem (first : Bool) (closing : Token) (ts : List Token) : Except Error (List Token) := do
  match ← Token.ready ts with
  | .flowEntry :: rest => if first then .ok (.flowEntry :: rest) else Token.ready rest
  | ts => if first || ts.head? = some closing then .ok ts else .error .malformed

mutual

/-- The node here. Block collections are only allowed outside brackets, and a sequence that is not
indented only as a key or value of a block mapping. -/
def node (handles : Handles) (block indentless : Bool) :
    Nat → List Token → Except Error (Tree × List Token)
  | 0, _ => .error .malformed
  | _ + 1, .reference name :: rest => .ok (reference name, rest)
  | fuel + 1, ts => do
    let (props, rest) ← properties handles ts
    match ← Token.ready rest with
    | .scalar text plain :: rest => .ok (scalar props text plain, rest)
    | .flowSequenceStart :: rest =>
      let (items, rest) ← flowItems handles true fuel rest
      .ok (sequence props items, rest)
    | .flowMappingStart :: rest =>
      let (pairs, rest) ← flowPairs handles true fuel rest
      .ok (mapping props pairs, rest)
    | t :: rest =>
      if t = .blockEntry && indentless then
        let (items, rest) ← indentlessItems handles fuel (t :: rest)
        .ok (sequence props items, rest)
      else if t = .blockSequenceStart && block then
        let (items, rest) ← blockItems handles fuel rest
        .ok (sequence props items, rest)
      else if t = .blockMappingStart && block then
        let (pairs, rest) ← blockPairs handles fuel rest
        .ok (mapping props pairs, rest)
      else if props = .none then .error .malformed
      else .ok (scalar props "" true, t :: rest)
    | [] => if props = .none then .error .malformed else .ok (scalar props "" true, [])

/-- The node here, unless the next token shows that it is missing. -/
def nodeUnless (enders : List Token) (handles : Handles) (block indentless : Bool) :
    Nat → List Token → Except Error (Tree × List Token)
  | 0, _ => .error .malformed
  | fuel + 1, ts => do
    if ← nextIn enders ts then .ok (missing, ts) else node handles block indentless fuel ts

/-- The items of a block sequence, to its end. -/
def blockItems (handles : Handles) : Nat → List Token → Except Error (List Tree × List Token)
  | 0, _ => .error .malformed
  | fuel + 1, ts => do
    match ← Token.ready ts with
    | .blockEntry :: rest =>
      let (item, rest) ← nodeUnless [.blockEntry, .blockEnd] handles true false fuel rest
      let (items, rest) ← blockItems handles fuel rest
      .ok (item :: items, rest)
    | .blockEnd :: rest => .ok ([], rest)
    | _ => .error .malformed

/-- The items of a sequence that is not indented; it ends where no further item starts. -/
def indentlessItems (handles : Handles) : Nat → List Token → Except Error (List Tree × List Token)
  | 0, _ => .error .malformed
  | fuel + 1, ts => do
    match ← Token.ready ts with
    | .blockEntry :: rest =>
      let (item, rest) ←
        nodeUnless [.blockEntry, .key, .value, .blockEnd] handles true false fuel rest
      let (items, rest) ← indentlessItems handles fuel rest
      .ok (item :: items, rest)
    | rest => .ok ([], rest)

/-- The pairs of a block mapping, to its end. -/
def blockPairs (handles : Handles) :
    Nat → List Token → Except Error (List (Tree × Tree) × List Token)
  | 0, _ => .error .malformed
  | fuel + 1, ts => do
    match ← Token.ready ts with
    | .key :: rest =>
      let (key, rest) ← nodeUnless [.key, .value, .blockEnd] handles true true fuel rest
      let (value, rest) ← blockValue handles fuel rest
      let (pairs, rest) ← blockPairs handles fuel rest
      .ok ((key, value) :: pairs, rest)
    | .blockEnd :: rest => .ok ([], rest)
    | _ => .error .malformed

/-- The value behind a key of a block mapping. -/
def blockValue (handles : Handles) : Nat → List Token → Except Error (Tree × List Token)
  | 0, _ => .error .malformed
  | fuel + 1, ts => do
    match ← Token.ready ts with
    | .value :: rest => nodeUnless [.key, .value, .blockEnd] handles true true fuel rest
    | rest => .ok (missing, rest)

/-- The items of a sequence in brackets, to the closing one. A single pair may stand as an item
without braces. -/
def flowItems (handles : Handles) (first : Bool) :
    Nat → List Token → Except Error (List Tree × List Token)
  | 0, _ => .error .malformed
  | fuel + 1, ts => do
    match ← nextItem first .flowSequenceEnd ts with
    | .flowSequenceEnd :: rest => .ok ([], rest)
    | .key :: rest =>
      let (key, rest) ←
        nodeUnless [.value, .flowEntry, .flowSequenceEnd] handles false false fuel rest
      let (value, rest) ← flowValue handles .flowSequenceEnd fuel rest
      let (items, rest) ← flowItems handles false fuel rest
      .ok (mapping .none [(key, value)] :: items, rest)
    | rest =>
      let (item, rest) ← node handles false false fuel rest
      let (items, rest) ← flowItems handles false fuel rest
      .ok (item :: items, rest)

/-- The pairs of a mapping in braces, to the closing one. A key may stand without a value. -/
def flowPairs (handles : Handles) (first : Bool) :
    Nat → List Token → Except Error (List (Tree × Tree) × List Token)
  | 0, _ => .error .malformed
  | fuel + 1, ts => do
    match ← nextItem first .flowMappingEnd ts with
    | .flowMappingEnd :: rest => .ok ([], rest)
    | .key :: rest =>
      let (key, rest) ←
        nodeUnless [.value, .flowEntry, .flowMappingEnd] handles false false fuel rest
      let (value, rest) ← flowValue handles .flowMappingEnd fuel rest
      let (pairs, rest) ← flowPairs handles false fuel rest
      .ok ((key, value) :: pairs, rest)
    | rest =>
      let (key, rest) ← node handles false false fuel rest
      let (pairs, rest) ← flowPairs handles false fuel rest
      .ok ((key, missing) :: pairs, rest)

/-- The value behind a key inside brackets. -/
def flowValue (handles : Handles) (closing : Token) :
    Nat → List Token → Except Error (Tree × List Token)
  | 0, _ => .error .malformed
  | fuel + 1, ts => do
    match ← Token.ready ts with
    | .value :: rest => nodeUnless [.flowEntry, closing] handles false false fuel rest
    | rest => .ok (missing, rest)

end

/-- The directives here: at most one version, which must be a version 1, and each handle once. The
standard handles are added unless a directive gives them another meaning. -/
def directives (versioned : Bool) (handles : Handles) :
    List Token → Except Error (Handles × List Token)
  | .version major :: rest =>
    if versioned || major ≠ 1 then .error .malformed else directives true handles rest
  | .tagHandle handle expansion :: rest =>
    if (handles.lookup handle).isSome then .error .malformed
    else directives versioned ((handle, expansion) :: handles) rest
  | .reserved :: rest => directives versioned handles rest
  | .fault e :: _ => .error e
  | rest => .ok (handles ++ standardHandles, rest)

def isDirective : Token → Bool
  | .version _ => true
  | .tagHandle .. => true
  | .reserved => true
  | _ => false

/-- The content of a document behind its start mark; it may be missing. -/
def content (handles : Handles) (fuel : Nat) (ts : List Token) :
    Except Error (Tree × List Token) := do
  match ← Token.ready ts with
  | [] => .ok (missing, [])
  | t :: rest =>
    if isDirective t || t = .documentStart || t = .documentEnd then .ok (missing, t :: rest)
    else node handles true false fuel (t :: rest)

def skipEnds : List Token → List Token
  | .documentEnd :: rest => skipEnds rest
  | rest => rest

/-- The handles of a document with a start mark and the tokens behind that mark, or nothing at the end
of the text. -/
def documentStart? (ts : List Token) : Except Error (Option (Handles × List Token)) := do
  match ← Token.ready (skipEnds ts) with
  | [] => .ok none
  | ts =>
    match ← directives false [] ts with
    | (handles, .documentStart :: rest) => .ok (some (handles, rest))
    | _ => .error .malformed

/-- The first document; only this one may go without a start mark. -/
def firstDocument? (fuel : Nat) (ts : List Token) : Except Error (Option (Tree × List Token)) := do
  match ← Token.ready ts with
  | [] => .ok none
  | t :: rest =>
    if isDirective t || t = .documentStart then
      match ← documentStart? (t :: rest) with
      | some (handles, rest) => (content handles fuel rest).map some
      | none => .ok none
    else (node standardHandles true false fuel (t :: rest)).map some

/-- The document of a text; an empty text has none. -/
def ofTokens? (ts : List Token) : Except Error (Option Tree) := do
  match ← firstDocument? (8 * ts.length + 16) (Token.checkNesting 0 (Token.checkNames [] ts)) with
  | none => .ok none
  | some (tree, rest) =>
    match ← documentStart? rest with
    | none => .ok (some tree)
    | some _ => .error .malformed

end Tree

end DocletPreflight.Yaml
