import DocletPreflight.Text.CodePoint
import DocletPreflight.Yaml.Cursor

/-!
# The scalars of a YAML text

The three ways to write a scalar: plain, in single or double quotes, and as a block under a header.
Each reader answers the text that the scalar stands for and the cursor behind it. Lines are folded
as the format says: one line end becomes a space, more of them lose the first. Every reader is given
a `fuel` that is larger than the number of characters left, so that it never runs out.
-/

set_option autoImplicit false

namespace DocletPreflight.Yaml

/-- What a line end and those after it amount to: a line feed on its own is a space, and before
others nothing. -/
def fold (first : Char) (more : List Char) : List Char :=
  if first ≠ '\n' then first :: more
  else if more.isEmpty then [' ']
  else more

/-! ## Plain scalars -/

def isFlowEnd (c : Char) : Bool := [',', '?', '[', ']', '\x7b', '\x7d'].contains c

/-- A colon is part of a plain scalar unless a blank follows, or a bracket or comma inside
brackets. -/
def endsBeforeColon (inFlow : Bool) (next : Option Char) : Bool :=
  endsIndicator next ||
    (inFlow && next.any fun c => [',', '[', ']', '\x7b', '\x7d'].contains c)

/-- The plain characters ahead on one line without blanks. -/
def plainWord (inFlow : Bool) : List Char → List Char
  | [] => []
  | c :: rest =>
    if endsIndicator (some c) || (c = ':' && endsBeforeColon inFlow rest.head?) ||
        (inFlow && isFlowEnd c) then []
    else c :: plainWord inFlow rest

/-- The line ends ahead in a plain scalar; none as soon as a line separates documents. -/
def plainBreaks : Nat → Cursor → Option (List Char) × Cursor
  | 0, c => (some [], c)
  | fuel + 1, c =>
    let c := c.skipSpaces
    match c.lineBreak? with
    | some (ch, next) =>
      if next.atSeparator then (none, next)
      else
        let (more, last) := plainBreaks fuel next
        (more.map (ch :: ·), last)
    | none => (some [], c)

/-- What stands between two words of a plain scalar: the text it counts as, the cursor behind it,
and whether a line ended. Nothing is counted when the line that follows separates documents. -/
def plainGap (fuel : Nat) (c : Cursor) : List Char × Cursor × Bool :=
  let (spaces, c) := c.span (· = ' ')
  match c.lineBreak? with
  | some (ch, next) =>
    if next.atSeparator then ([], next, true)
    else
      match plainBreaks fuel next with
      | (some more, last) => (fold ch more, last, true)
      | (none, last) => ([], last, true)
  | none => (spaces, c, false)

/-- A plain scalar, its words read one by one. `gap` is what stands before the next word, `lineEnded`
whether a line ended in it. A gap only counts when a word follows it. -/
def plainFrom (inFlow : Bool) (indent : Int) :
    Nat → List Char → Bool → Cursor → List Char × Cursor × Bool
  | 0, _, lineEnded, c => ([], c, lineEnded)
  | fuel + 1, gap, lineEnded, c =>
    let word := if c.peek = some '#' then [] else plainWord inFlow c.rest
    if word.isEmpty then ([], c, lineEnded)
    else
      let (nextGap, next, ended) := plainGap fuel (c.skip word.length)
      if nextGap.isEmpty || next.peek = some '#' || (!inFlow && (next.column : Int) < indent) then
        (gap ++ word, next, ended)
      else
        let (more, last, lastEnded) := plainFrom inFlow indent fuel nextGap ended next
        (gap ++ word ++ more, last, lastEnded)

/-- The plain scalar here, the cursor behind it, and whether a line ended after its last word. -/
def plainScalar (fuel : Nat) (inFlow : Bool) (indent : Int) (c : Cursor) :
    String × Cursor × Bool :=
  let (text, next, ended) := plainFrom inFlow indent fuel [] false c
  (Text.ofCharacters text, next, ended)

/-! ## Quoted scalars -/

/-- The value of a hexadecimal digit of the basic alphabet. -/
def hexValue? (c : Char) : Option Nat :=
  if '0' ≤ c && c ≤ '9' then some (c.toNat - '0'.toNat)
  else if 'a' ≤ c && c ≤ 'f' then some (c.toNat - 'a'.toNat + 10)
  else if 'A' ≤ c && c ≤ 'F' then some (c.toNat - 'A'.toNat + 10)
  else none

def hexNumber? (digits : List Char) : Option Nat :=
  digits.foldl (fun n c => n.bind fun n => (hexValue? c).map (n * 16 + ·)) (some 0)

/-- The number in the next so many characters, all of which must be hexadecimal digits. -/
def hexAhead? (count : Nat) (s : List Char) : Option Nat :=
  if (s.take count).length = count then hexNumber? (s.take count) else none

def escapes : List (Char × Char) :=
  [('0', '\x00'), ('a', '\x07'), ('b', '\x08'), ('t', '\t'), ('\t', '\t'), ('n', '\n'),
   ('v', '\x0b'), ('f', '\x0c'), ('r', '\r'), ('e', '\x1b'), (' ', ' '), ('\x22', '\x22'),
   ('\x5c', '\x5c'), ('/', '/'), ('N', '\x85'), ('_', '\xa0'), ('L', '\u2028'), ('P', '\u2029')]

/-- The number of digits of an escape by code. -/
def escapeWidth? (c : Char) : Option Nat :=
  if c = 'x' then some 2 else if c = 'u' then some 4 else if c = 'U' then some 8 else none

/-- The code point of an escape by code, from what follows the letter of the escape. -/
def codeEscape (width : Nat) (s : List Char) : Except Error Nat :=
  match hexAhead? width s with
  | none => .error .malformed
  | some code =>
    if 0x80000000 ≤ code then .error .codePointOverflow
    else if 0x110000 ≤ code then .error .codePointRange
    else .ok code

/-- The line ends ahead in a quoted scalar; a line that separates documents must not follow. -/
def quotedBreaks : Nat → Cursor → Except Error (List Char × Cursor)
  | 0, c => .ok ([], c)
  | fuel + 1, c =>
    if c.atSeparator then .error .malformed
    else
      let c := c.skipWhile fun ch => ch = ' ' || ch = '\t'
      match c.lineBreak? with
      | some (ch, next) =>
        match quotedBreaks fuel next with
        | .ok (more, last) => .ok (ch :: more, last)
        | .error e => .error e
      | none => .ok ([], c)

/-- What follows an opening quote, up to the closing one, with the code points read so far in reverse. -/
def quotedFrom (quote : Char) : Nat → List Nat → Cursor → Except Error (String × Cursor)
  | 0, _, _ => .error .malformed
  | fuel + 1, done, c =>
    match c.rest with
    | [] => .error .malformed
    | ch :: rest =>
      if ch = quote then
        if quote = '\x27' && rest.head? = some '\x27' then
          quotedFrom quote fuel (quote.toNat :: done) (c.skip 2)
        else .ok (Text.ofCodes done.reverse, c.advance)
      else if quote = '\x22' && ch = '\x5c' then
        match rest with
        | [] => .error .malformed
        | letter :: digits =>
          match escapes.lookup letter with
          | some meant => quotedFrom quote fuel (meant.toNat :: done) (c.skip 2)
          | none =>
            match escapeWidth? letter with
            | some width =>
              match codeEscape width digits with
              | .ok meant => quotedFrom quote fuel (meant :: done) (c.skip (2 + width))
              | .error e => .error e
            | none =>
              if isBreak letter then
                match quotedBreaks fuel c.advance.skipBreak with
                | .ok (more, next) =>
                  quotedFrom quote fuel ((more.map Char.toNat).reverse ++ done) next
                | .error e => .error e
              else .error .malformed
      else if ch = ' ' || ch = '\t' || isBreak ch then
        let (blanks, afterBlanks) := c.span fun ch => ch = ' ' || ch = '\t'
        match afterBlanks.lineBreak? with
        | some (first, next) =>
          match quotedBreaks fuel next with
          | .ok (more, next) =>
            quotedFrom quote fuel (((fold first more).map Char.toNat).reverse ++ done) next
          | .error e => .error e
        | none =>
          if afterBlanks.rest.isEmpty then .error .malformed
          else quotedFrom quote fuel ((blanks.map Char.toNat).reverse ++ done) afterBlanks
      else quotedFrom quote fuel (ch.toNat :: done) c.advance

def quotedScalar (fuel : Nat) (c : Cursor) : Except Error (String × Cursor) :=
  match c.peek with
  | some quote => quotedFrom quote fuel [] c.advance
  | none => .error .malformed

/-! ## Block scalars -/

/-- What happens to the line ends at the end of a block scalar. -/
inductive Chomping where
  /-- All are dropped. -/
  | strip
  /-- The first is kept. -/
  | clip
  /-- All are kept. -/
  | keep
  deriving DecidableEq, Repr

/-- The header of a block scalar: what happens at its end, and its indentation if it is given. -/
structure BlockHeader where
  chomping : Chomping
  indentation : Option Nat
  deriving DecidableEq, Repr

def chomping? (c : Option Char) : Option Chomping :=
  if c = some '+' then some .keep else if c = some '-' then some .strip else none

def digit? (c : Option Char) : Option Nat :=
  c.bind fun c => if '0' ≤ c && c ≤ '9' then some (c.toNat - '0'.toNat) else none

/-- The header here: a chomping mark and an indentation other than zero, in either order, then
nothing but a comment on the line. -/
def blockHeader (c : Cursor) : Except Error (BlockHeader × Cursor) :=
  let (header, c) : BlockHeader × Cursor :=
    match chomping? c.peek with
    | some chomping =>
      match digit? c.advance.peek with
      | some n => (⟨chomping, some n⟩, c.skip 2)
      | none => (⟨chomping, none⟩, c.advance)
    | none =>
      match digit? c.peek with
      | some n =>
        match chomping? c.advance.peek with
        | some chomping => (⟨chomping, some n⟩, c.skip 2)
        | none => (⟨.clip, some n⟩, c.advance)
      | none => (⟨.clip, none⟩, c)
  if header.indentation = some 0 || !endsWord c.peek then .error .malformed
  else
    let c := c.skipSpaces.skipComment
    if endsLine c.peek then .ok (header, c.skipBreak) else .error .malformed

/-- The empty lines ahead and the widest indentation among them and the line after them. -/
def widestIndent : Nat → Nat → Cursor → List Char × Nat × Cursor
  | 0, widest, c => ([], widest, c)
  | fuel + 1, widest, c =>
    match c.lineBreak? with
    | some (ch, next) =>
      let (more, widest, last) := widestIndent fuel widest next
      (ch :: more, widest, last)
    | none =>
      if c.peek = some ' ' then widestIndent fuel (max widest c.advance.column) c.advance
      else ([], widest, c)

/-- The cursor behind the spaces of an indentation, or of as much of it as there is. -/
def skipIndent (indent : Nat) : Nat → Cursor → Cursor
  | 0, c => c
  | fuel + 1, c =>
    if c.column < indent && c.peek = some ' ' then skipIndent indent fuel c.advance else c

/-- The empty lines ahead, under an indentation. -/
def blockBreaks (indent : Nat) : Nat → Cursor → List Char × Cursor
  | 0, c => ([], c)
  | fuel + 1, c =>
    let c := skipIndent indent indent c
    match c.lineBreak? with
    | some (ch, next) =>
      let (more, last) := blockBreaks indent fuel next
      (ch :: more, last)
    | none => ([], c)

/-- Whether a line starts with a blank; such lines are not folded. -/
def startsBlank (c : Cursor) : Bool := c.peek = some ' ' || c.peek = some '\t'

/-- The lines of a block scalar, with the text read so far in reverse, the line end after its last
line and the empty lines after that. -/
def blockLines (folded : Bool) (indent : Nat) :
    Nat → List Char → List Char → Cursor → List Char × List Char × List Char × Cursor
  | 0, done, empties, c => (done, [], empties, c)
  | fuel + 1, done, empties, c =>
    let (line, afterLine) := c.span fun ch => !isBreak ch
    let done := line.reverse ++ (empties.reverse ++ done)
    let (ended, next) : List Char × Cursor :=
      match afterLine.lineBreak? with
      | some (ch, next) => ([ch], next)
      | none => ([], afterLine)
    let (empties', next) := blockBreaks indent fuel next
    if next.column = indent && !next.rest.isEmpty then
      let between : List Char :=
        if folded && ended = ['\n'] && !startsBlank c && !startsBlank next then
          if empties'.isEmpty then [' '] else []
        else ended
      blockLines folded indent fuel (between ++ done) empties' next
    else (done, ended, empties', next)

/-- The block scalar here, under the indentation of what holds it. -/
def blockScalar (fuel : Nat) (folded : Bool) (indent : Int) (c : Cursor) :
    Except Error (String × Cursor) :=
  match blockHeader c.advance with
  | .error e => .error e
  | .ok (header, c) =>
    let least := (max (indent + 1) 1).toNat
    let (empties, width, c) : List Char × Nat × Cursor :=
      match header.indentation with
      | none =>
        let (empties, widest, c) := widestIndent fuel 0 c
        (empties, max least widest, c)
      | some n =>
        let width := least + n - 1
        let (empties, c) := blockBreaks width fuel c
        (empties, width, c)
    let (done, ended, empties, c) : List Char × List Char × List Char × Cursor :=
      if c.column = width && !c.rest.isEmpty then
        blockLines folded width fuel [] empties c
      else ([], [], empties, c)
    let tail :=
      match header.chomping with
      | .strip => []
      | .clip => ended
      | .keep => ended ++ empties
    .ok (Text.ofCharacters (done.reverse ++ tail), c)

end DocletPreflight.Yaml
