import DocletPreflight.Yaml.Error

/-!
# Walking through a YAML text

A `Cursor` is what is left of a text together with the place it stands at. Indentation is counted in
columns, so the cursor keeps the column; a byte order mark takes no column. The line ends of the
format are the line feed, the carriage return, the next-line character and the two separators.
-/

set_option autoImplicit false

namespace DocletPreflight.Yaml

/-- The characters that end a line. -/
def isBreak (c : Char) : Bool :=
  c = '\n' || c = '\r' || c = '\x85' || c = '\u2028' || c = '\u2029'

def endsLine (c : Option Char) : Bool := c.all isBreak

/-- A space, or the end of a line or of the text. -/
def endsWord (c : Option Char) : Bool := c.all fun c => c = ' ' || isBreak c

/-- A space or a tab, or the end of a line or of the text. -/
def endsIndicator (c : Option Char) : Bool := c.all fun c => c = ' ' || c = '\t' || isBreak c

/-- What is left of a text, and the place it stands at. -/
structure Cursor where
  rest : List Char
  index : Nat
  line : Nat
  column : Nat
  deriving Repr

namespace Cursor

def start (text : List Char) : Cursor := ⟨text, 0, 0, 0⟩

def peek (c : Cursor) : Option Char := c.rest.head?

/-- The character so many places ahead. -/
def peekAt (c : Cursor) (distance : Nat) : Option Char := c.rest[distance]?

/-- The cursor behind the next character. -/
def advance (c : Cursor) : Cursor :=
  match c.rest with
  | [] => c
  | ch :: rest =>
    if isBreak ch && !(ch = '\r' && rest.head? = some '\n') then
      ⟨rest, c.index + 1, c.line + 1, 0⟩
    else if ch = '\uFEFF' then { c with rest, index := c.index + 1 }
    else { c with rest, index := c.index + 1, column := c.column + 1 }

/-- The cursor so many characters further. -/
def skip (c : Cursor) : Nat → Cursor
  | 0 => c
  | count + 1 => c.advance.skip count

/-- The next characters as long as they have a property, and the cursor behind them. -/
def span (p : Char → Bool) (c : Cursor) : List Char × Cursor :=
  let taken := c.rest.takeWhile p
  (taken, c.skip taken.length)

def skipWhile (p : Char → Bool) (c : Cursor) : Cursor := (c.span p).2

def skipSpaces (c : Cursor) : Cursor := c.skipWhile (· = ' ')

/-- The cursor behind a comment, when one starts here. -/
def skipComment (c : Cursor) : Cursor :=
  if c.peek = some '#' then c.skipWhile fun ch => !isBreak ch else c

/-- The line end here, as it counts in a scalar, and the cursor behind it. All line ends but the two
separators count as a line feed. -/
def lineBreak? (c : Cursor) : Option (Char × Cursor) :=
  match c.rest with
  | '\r' :: '\n' :: _ => some ('\n', c.skip 2)
  | ch :: _ =>
    if ch = '\u2028' || ch = '\u2029' then some (ch, c.advance)
    else if isBreak ch then some ('\n', c.advance)
    else none
  | [] => none

/-- The cursor behind the line end here, if there is one. -/
def skipBreak (c : Cursor) : Cursor :=
  match c.lineBreak? with
  | some (_, next) => next
  | none => c

/-- Whether a marker of three characters stands here, alone. -/
def atMarker (c : Cursor) (mark : Char) : Bool :=
  c.rest.take 3 = [mark, mark, mark] && endsIndicator (c.peekAt 3)

/-- Whether a line that starts here separates documents. -/
def atSeparator (c : Cursor) : Bool := c.atMarker '-' || c.atMarker '.'

end Cursor

end DocletPreflight.Yaml
