import DocletPreflight.Text.Utf8
import DocletPreflight.Yaml.Token
import DocletPreflight.Yaml.Token.Scalar

/-!
# From a YAML text to its tokens

`scan` reads one token after another. Two things need more than the text at hand. Block collections
start and end with the indentation, so the indentations of the open ones are kept. And whether a
scalar is a key is only known at the colon behind it, so the place of a possible key is kept for each
level of brackets, and the key token is put there later. A possible key must be followed by its colon
on the same line and within 1024 characters.

Where the text has a fault, the tokens before it are still answered, but only as far as it is known by
then whether they are keys.
-/

set_option autoImplicit false

namespace DocletPreflight.Yaml

/-- A place where a key may turn out to start. It is `required` to be one when nothing else can stand
at its indentation. -/
structure PossibleKey where
  tokenIndex : Nat
  required : Bool
  index : Nat
  line : Nat
  column : Nat
  deriving Repr

/-- The state between two tokens: the cursor, the tokens so far in reverse with their number, the
indentation and those around it, whether a key may start here, the possible key of this level of
brackets, and those of the levels around it. -/
structure Scanner where
  fuel : Nat
  cursor : Cursor
  tokens : List Token
  count : Nat
  indent : Int
  outerIndents : List Int
  keyAllowed : Bool
  possibleKey : Option PossibleKey
  outerKeys : List (Option PossibleKey)
  deriving Repr

namespace Scanner

/-- The state before a text. -/
def start (text : List Char) : Scanner where
  fuel := text.length + 1
  cursor := Cursor.start text
  tokens := []
  count := 0
  indent := -1
  outerIndents := []
  keyAllowed := true
  possibleKey := none
  outerKeys := []

/-- Whether the state is inside brackets. -/
def inFlow (s : Scanner) : Bool := !s.outerKeys.isEmpty

def emit (t : Token) (s : Scanner) : Scanner :=
  { s with tokens := t :: s.tokens, count := s.count + 1 }

/-- Puts a token in front of those from an index on. -/
def insert (index : Nat) (t : Token) (s : Scanner) : Scanner :=
  let behind := s.count - index
  { s with tokens := s.tokens.take behind ++ t :: s.tokens.drop behind, count := s.count + 1 }

def moveTo (c : Cursor) (s : Scanner) : Scanner := { s with cursor := c }

/-- Forgets a possible key whose colon can no longer come; a required one is an error. -/
def dropStale (c : Cursor) : Option PossibleKey → Except Error (Option PossibleKey)
  | none => .ok none
  | some k =>
    if k.line ≠ c.line || 1024 < c.index - k.index then
      if k.required then .error .malformed else .ok none
    else .ok (some k)

def dropStaleKeys (s : Scanner) : Except Error Scanner := do
  let possibleKey ← dropStale s.cursor s.possibleKey
  let outerKeys ← s.outerKeys.mapM (dropStale s.cursor)
  .ok { s with possibleKey, outerKeys }

/-- Forgets the possible key of this level; a required one is an error. -/
def dropKey (s : Scanner) : Except Error Scanner :=
  if s.possibleKey.any (·.required) then .error .malformed else .ok { s with possibleKey := none }

/-- Remembers that a key may start here. -/
def saveKey (s : Scanner) : Except Error Scanner :=
  if s.keyAllowed then do
    let s ← s.dropKey
    let required := !s.inFlow && s.indent = s.cursor.column
    .ok { s with
          possibleKey := some ⟨s.count, required, s.cursor.index, s.cursor.line, s.cursor.column⟩ }
  else .ok s

/-- Ends the block collections that are indented further than a column. -/
def unwindFrom (column : Int) : List Int → Scanner → Scanner
  | [], s => s
  | outer :: rest, s =>
    if column < s.indent then
      unwindFrom column rest ({ s with indent := outer, outerIndents := rest }.emit .blockEnd)
    else s

/-- Ends the block collections that are indented further than a column; inside brackets,
indentation means nothing. -/
def unwind (column : Int) (s : Scanner) : Scanner :=
  if s.inFlow then s else unwindFrom column s.outerIndents s

def opensBlock (column : Nat) (s : Scanner) : Bool := s.indent < column

def openBlock (column : Nat) (s : Scanner) : Scanner :=
  { s with indent := column, outerIndents := s.indent :: s.outerIndents }

/-- The cursor at the next token, and whether a line ended on the way. -/
def skipBlanks : Nat → Bool → Cursor → Bool × Cursor
  | 0, lineEnded, c => (lineEnded, c)
  | fuel + 1, lineEnded, c =>
    let c := c.skipSpaces.skipComment
    match c.lineBreak? with
    | some (_, next) => skipBlanks fuel true next
    | none => (lineEnded, c)

/-- Moves to the next token. A byte order mark at the very start means nothing. A key may start on
a new line outside brackets. -/
def toNextToken (s : Scanner) : Scanner :=
  let c :=
    if s.cursor.index = 0 && s.cursor.peek = some '\uFEFF' then s.cursor.advance else s.cursor
  let (lineEnded, c) := skipBlanks s.fuel false c
  { s with cursor := c, keyAllowed := s.keyAllowed || (lineEnded && !s.inFlow) }

/-! ## Directives -/

/-- The characters of names of directives, tag handles and anchors. -/
def isNameCharacter (c : Char) : Bool := c.isAlphanum || c = '-' || c = '_'

def isTagCharacter (c : Char) : Bool :=
  c.isAlphanum ||
    ['-', ';', '/', '?', ':', '@', '&', '=', '+', '$', ',', '_', '.', '!', '~', '*', '\x27', '(',
      ')', '[', ']'].contains c

/-- The bytes of the escapes ahead, each a percent sign and two hexadecimal digits. -/
def escapedBytes : Nat → Cursor → Except Error (List UInt8 × Cursor)
  | 0, c => .ok ([], c)
  | fuel + 1, c =>
    if c.peek = some '%' then
      match hexAhead? 2 (c.rest.drop 1) with
      | some n =>
        match escapedBytes fuel (c.skip 3) with
        | .ok (more, last) => .ok (UInt8.ofNat n :: more, last)
        | .error e => .error e
      | none => .error .malformed
    else .ok ([], c)

/-- The tag characters ahead; runs of escapes stand for UTF-8. -/
def tagText : Nat → Cursor → Except Error (List Char × Cursor)
  | 0, c => .ok ([], c)
  | fuel + 1, c =>
    let (plain, c) := c.span isTagCharacter
    if c.peek = some '%' then do
      let (bytes, c) ← escapedBytes fuel c
      match Text.decodeUtf8 bytes with
      | .error _ => .error .malformed
      | .ok chars =>
        let (more, c) ← tagText fuel c
        .ok (plain ++ chars ++ more, c)
    else .ok (plain, c)

/-- The tag characters ahead, of which there must be some. -/
def tagSuffix (fuel : Nat) (c : Cursor) : Except Error (String × Cursor) := do
  let (text, next) ← tagText fuel c
  if next.index = c.index then .error .malformed else .ok (Text.ofCharacters text, next)

/-- The tag handle here: one exclamation mark, or two with a name between them. -/
def tagHandle (c : Cursor) : Except Error (String × Cursor) :=
  if c.peek = some '!' then
    let (name, next) := c.advance.span isNameCharacter
    if name.isEmpty && next.peek = some ' ' then .ok ("!", next)
    else if next.peek = some '!' then .ok (String.ofList ('!' :: (name ++ ['!'])), next.advance)
    else .error .malformed
  else .error .malformed

/-- The digits here, of which there must be some and not too many, as a number. -/
def versionNumber (c : Cursor) : Except Error (Nat × Cursor) :=
  let (digits, next) := c.span fun ch => '0' ≤ ch && ch ≤ '9'
  if digits.isEmpty then .error .malformed
  else if digitLimit < digits.length then .error (.tooManyDigits digits.length)
  else .ok (digits.foldl (fun n d => n * 10 + (d.toNat - '0'.toNat)) 0, next)

def versionDirective (c : Cursor) : Except Error (Token × Cursor) := do
  let (major, c) ← versionNumber c.skipSpaces
  if c.peek = some '.' then
    let (_, c) ← versionNumber c.advance
    if endsWord c.peek then .ok (.version major, c) else .error .malformed
  else .error .malformed

def tagDirective (fuel : Nat) (c : Cursor) : Except Error (Token × Cursor) := do
  let (handle, c) ← tagHandle c.skipSpaces
  if c.peek = some ' ' then
    let (expansion, c) ← tagSuffix fuel c.skipSpaces
    if endsWord c.peek then .ok (.tagHandle handle expansion, c) else .error .malformed
  else .error .malformed

/-- The directive here, with the rest of its line. -/
def directive (fuel : Nat) (c : Cursor) : Except Error (Token × Cursor) := do
  let (name, c) := c.advance.span isNameCharacter
  if name.isEmpty || !endsWord c.peek then .error .malformed
  else
    let (token, c) ←
      if name = ['Y', 'A', 'M', 'L'] then versionDirective c
      else if name = ['T', 'A', 'G'] then tagDirective fuel c
      else .ok (.reserved, c.skipWhile fun ch => !isBreak ch)
    let c := c.skipSpaces.skipComment
    if endsLine c.peek then .ok (token, c.skipBreak) else .error .malformed

/-! ## Anchors and tags -/

/-- Whether a character may stand behind the name of an anchor. -/
def endsAnchor (c : Option Char) : Bool :=
  endsIndicator c ||
    c.any fun c => ['?', ':', ',', ']', '\x7d', '%', '@', '\x60'].contains c

/-- The name of an anchor or alias behind its mark. -/
def anchorName (c : Cursor) : Except Error (String × Cursor) :=
  let (name, next) := c.advance.span isNameCharacter
  if name.isEmpty || !endsAnchor next.peek then .error .malformed
  else .ok (String.ofList name, next)

/-- Whether a tag starts with a handle of its own: another exclamation mark follows in the same
word. -/
def hasHandle (s : List Char) : Bool :=
  (s.takeWhile fun c => !(c = ' ' || isBreak c)).contains '!'

def tag (fuel : Nat) (c : Cursor) : Except Error (Token × Cursor) := do
  let (token, c) ←
    if c.peekAt 1 = some '<' then do
      let (suffix, c) ← tagSuffix fuel (c.skip 2)
      if c.peek = some '>' then .ok (Token.tag none suffix, c.advance) else .error .malformed
    else if endsIndicator (c.peekAt 1) then .ok (Token.tag none "!", c.advance)
    else do
      let (handle, c) ← if hasHandle (c.rest.drop 1) then tagHandle c else .ok ("!", c.advance)
      let (suffix, c) ← tagSuffix fuel c
      .ok (Token.tag (some handle) suffix, c)
  if endsWord c.peek then .ok (token, c) else .error .malformed

/-! ## One token -/

/-- Ends all block collections before a mark that stands outside of them. -/
def leaveBlocks (s : Scanner) : Except Error Scanner := do
  let s ← (s.unwind (-1)).dropKey
  .ok { s with keyAllowed := false }

def fetchDirective (s : Scanner) : Except Error Scanner := do
  let s ← s.leaveBlocks
  let (token, c) ← directive s.fuel s.cursor
  .ok ((s.emit token).moveTo c)

def fetchSeparator (token : Token) (s : Scanner) : Except Error Scanner := do
  let s ← s.leaveBlocks
  .ok ((s.emit token).moveTo (s.cursor.skip 3))

def fetchOpening (token : Token) (s : Scanner) : Except Error Scanner := do
  let s ← s.saveKey
  .ok (({ s with
    possibleKey := none
    outerKeys := s.possibleKey :: s.outerKeys
    keyAllowed := true }.emit token).moveTo s.cursor.advance)

def fetchClosing (token : Token) (s : Scanner) : Except Error Scanner := do
  let s ← s.dropKey
  match s.outerKeys with
  | [] => .error .malformed
  | key :: rest =>
    .ok (({ s with
      possibleKey := key
      outerKeys := rest
      keyAllowed := false }.emit token).moveTo s.cursor.advance)

/-- A comma. -/
def fetchFlowEntry (s : Scanner) : Except Error Scanner := do
  let s ← s.dropKey
  .ok (({ s with keyAllowed := true }.emit .flowEntry).moveTo s.cursor.advance)

/-- The dash of a sequence. -/
def fetchBlockEntry (s : Scanner) : Except Error Scanner := do
  let s ←
    if s.inFlow then .ok s
    else if !s.keyAllowed then .error .malformed
    else if s.opensBlock s.cursor.column then
      .ok ((s.openBlock s.cursor.column).emit .blockSequenceStart)
    else .ok s
  let s ← s.dropKey
  .ok (({ s with keyAllowed := true }.emit .blockEntry).moveTo s.cursor.advance)

/-- Opens a mapping at the cursor if its column asks for one. -/
def openMapping (s : Scanner) : Except Error Scanner :=
  if s.inFlow then .ok s
  else if !s.keyAllowed then .error .malformed
  else if s.opensBlock s.cursor.column then
    .ok ((s.openBlock s.cursor.column).emit .blockMappingStart)
  else .ok s

/-- The question mark of a key. -/
def fetchKey (s : Scanner) : Except Error Scanner := do
  let s ← s.openMapping
  let s ← s.dropKey
  .ok (({ s with keyAllowed := !s.inFlow }.emit .key).moveTo s.cursor.advance)

/-- The colon of a value. If a possible key stands before it, it is one, and may be the first of a
mapping. -/
def fetchValue (s : Scanner) : Except Error Scanner := do
  let s ←
    match s.possibleKey with
    | some k =>
      let s := { s with possibleKey := none }.insert k.tokenIndex .key
      let s :=
        if !s.inFlow && s.opensBlock k.column then
          (s.openBlock k.column).insert k.tokenIndex .blockMappingStart
        else s
      .ok { s with keyAllowed := false }
    | none => do
      let s ← s.openMapping
      let s ← s.dropKey
      .ok { s with keyAllowed := !s.inFlow }
  .ok ((s.emit .value).moveTo s.cursor.advance)

/-- Something that may be a key: an anchor, an alias, a tag or a scalar on one line. -/
def fetchNode (read : Cursor → Except Error (Token × Cursor)) (s : Scanner) :
    Except Error Scanner := do
  let s ← s.saveKey
  let (token, c) ← read s.cursor
  .ok (({ s with keyAllowed := false }.emit token).moveTo c)

def fetchBlockScalar (folded : Bool) (s : Scanner) : Except Error Scanner := do
  let s ← s.dropKey
  let (text, c) ← blockScalar s.fuel folded s.indent s.cursor
  .ok (({ s with keyAllowed := true }.emit (.scalar text false)).moveTo c)

/-- A plain scalar. A key may follow it when a line ended behind it. -/
def fetchPlain (s : Scanner) : Except Error Scanner := do
  let s ← s.saveKey
  let (text, c, lineEnded) := plainScalar s.fuel s.inFlow (s.indent + 1) s.cursor
  .ok (({ s with keyAllowed := lineEnded }.emit (.scalar text true)).moveTo c)

/-- The characters that start no plain scalar. -/
def isIndicator (c : Char) : Bool :=
  ['-', '?', ':', ',', '[', ']', '\x7b', '\x7d', '#', '&', '*', '!', '|', '>', '\x27', '\x22', '%',
    '@', '\x60'].contains c

def startsPlain (s : Scanner) : Bool :=
  let c := s.cursor
  match c.peek with
  | none => false
  | some ch =>
    (!endsIndicator (some ch) && !isIndicator ch) ||
      (!endsIndicator (c.peekAt 1) && (ch = '-' || (!s.inFlow && (ch = '?' || ch = ':'))))

/-- The token here. -/
def fetch (s : Scanner) (ch : Char) : Except Error Scanner :=
  let c := s.cursor
  let alone := endsIndicator (c.peekAt 1)
  if ch = '%' && c.column = 0 then s.fetchDirective
  else if c.column = 0 && c.atMarker '-' then s.fetchSeparator .documentStart
  else if c.column = 0 && c.atMarker '.' then s.fetchSeparator .documentEnd
  else if ch = '[' then s.fetchOpening .flowSequenceStart
  else if ch = '\x7b' then s.fetchOpening .flowMappingStart
  else if ch = ']' then s.fetchClosing .flowSequenceEnd
  else if ch = '\x7d' then s.fetchClosing .flowMappingEnd
  else if ch = ',' then s.fetchFlowEntry
  else if ch = '-' && alone then s.fetchBlockEntry
  else if ch = '?' && (s.inFlow || alone) then s.fetchKey
  else if ch = ':' && (s.inFlow || alone) then s.fetchValue
  else if ch = '*' then s.fetchNode fun c => (anchorName c).map fun (n, c) => (.reference n, c)
  else if ch = '&' then s.fetchNode fun c => (anchorName c).map fun (n, c) => (.anchor n, c)
  else if ch = '!' then s.fetchNode (tag s.fuel)
  else if ch = '|' && !s.inFlow then s.fetchBlockScalar false
  else if ch = '>' && !s.inFlow then s.fetchBlockScalar true
  else if ch = '\x27' || ch = '\x22' then
    s.fetchNode fun c => (quotedScalar s.fuel c).map fun (text, c) => (.scalar text false, c)
  else if s.startsPlain then s.fetchPlain
  else .error .malformed

/-- The tokens that are settled: a token that may still turn out to be a key is not, and neither are
those behind it. -/
def settled (s : Scanner) : List Token :=
  let keys := (s.possibleKey :: s.outerKeys).filterMap (·.map (·.tokenIndex))
  s.tokens.reverse.take (keys.foldl min s.count)

/-- Adds the next token and those that come with it, and says whether the text goes on behind it. -/
def step (s : Scanner) : Except Error (Bool × Scanner) := do
  let s ← s.toNextToken.dropStaleKeys
  let s := s.unwind s.cursor.column
  match s.cursor.peek with
  | none => do
    let s ← (s.unwind (-1)).dropKey
    .ok (false, s)
  | some ch => do
    let s ← s.fetch ch
    .ok (true, s)

/-- All tokens, up to the end of the text or the first fault. -/
def run : Nat → Scanner → List Token
  | 0, s => s.tokens.reverse
  | fuel + 1, s =>
    match s.dropStaleKeys with
    | .error e => [.fault e]
    | .ok s =>
      match s.step with
      | .error e => s.settled ++ [.fault e]
      | .ok (false, last) => last.tokens.reverse
      | .ok (true, next) => run fuel next

end Scanner

/-- The characters that a text may hold. -/
def isAllowed (c : Char) : Bool :=
  c = '\t' || c = '\n' || c = '\r' || (' ' ≤ c && c ≤ '~') || c = '\x85' ||
    ('\xa0' ≤ c && c ≤ '\uFFFD') || 0x10000 ≤ c.toNat

def Token.scan (text : List Char) : List Token :=
  if text.all isAllowed then Scanner.run (text.length + 1) (Scanner.start text)
  else [.fault .malformed]

end DocletPreflight.Yaml
