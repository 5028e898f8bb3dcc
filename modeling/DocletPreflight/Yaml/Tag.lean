/-!
# Tags and the types of plain scalars

A tag says how a node is to be understood. A plain scalar without a tag gets one by its form: the
tables and recognisers of this module say which texts are truth values, numbers, points in time,
nothing, and the two keys with a meaning of their own.
-/

set_option autoImplicit false

namespace DocletPreflight.Yaml

/-- The tags that are told apart. -/
inductive Tag where
  | null
  | bool
  | int
  | float
  | binary
  | timestamp
  | omap
  | pairs
  | set
  | str
  | seq
  | map
  | merge
  | value
  | unknown
  deriving DecidableEq, Repr

namespace Tag

/-- The tags by their names below the common beginning. -/
def known : List (String × Tag) :=
  [("null", null), ("bool", bool), ("int", int), ("float", float), ("binary", binary),
   ("timestamp", timestamp), ("omap", omap), ("pairs", pairs), ("set", set), ("str", str),
   ("seq", seq), ("map", map), ("merge", merge), ("value", value)]

def ofText (text : String) : Tag :=
  ((known.find? fun entry => "tag:yaml.org,2002:" ++ entry.1 = text).map (·.2)).getD unknown

end Tag

namespace Form

def isDigit (c : Char) : Bool := '0' ≤ c && c ≤ '9'

/-- A decimal digit or an underscore. -/
def isSpacedDigit (c : Char) : Bool := isDigit c || c = '_'

/-- A text without the sign that it may start with. -/
def unsigned : List Char → List Char
  | '-' :: rest => rest
  | '+' :: rest => rest
  | s => s

/-- Whether a text is empty, or an exponent with its sign. -/
def isExponent : List Char → Bool
  | [] => true
  | e :: sign :: digits =>
    (e = 'e' || e = 'E') && (sign = '-' || sign = '+') && !digits.isEmpty && digits.all isDigit
  | _ => false

/-- The text behind groups of a colon and a number below sixty, of which there must be one. -/
def sixties? : List Char → Option (List Char)
  | ':' :: a :: b :: rest =>
    if isDigit a && isDigit b then
      if a ≤ '5' then some ((sixties? rest).getD rest) else none
    else if isDigit a then some ((sixties? (b :: rest)).getD (b :: rest))
    else none
  | [':', a] => if isDigit a then some [] else none
  | _ => none

def truthWords : List String :=
  ["yes", "Yes", "YES", "no", "No", "NO", "true", "True", "TRUE", "false", "False", "FALSE", "on",
   "On", "ON", "off", "Off", "OFF"]

/-- Whether a text, without its sign, starts with a number and goes on with a point and a fraction,
perhaps with an exponent. -/
def isPointed (s : List Char) : Bool :=
  s.head?.any isDigit &&
    match s.dropWhile isSpacedDigit with
    | '.' :: rest => isExponent (rest.dropWhile isSpacedDigit)
    | _ => false

def isSexagesimalFraction (s : List Char) : Bool :=
  s.head?.any isDigit &&
    match sixties? (s.dropWhile isSpacedDigit) with
    | some ('.' :: rest) => rest.all isSpacedDigit
    | _ => false

/-- Whether a text has the form of a fraction. -/
def isFraction (s : List Char) : Bool :=
  isPointed (unsigned s) ||
    (match s with
      | '.' :: d :: rest => isDigit d && isExponent (rest.dropWhile isSpacedDigit)
      | _ => false) ||
    isSexagesimalFraction (unsigned s) ||
    [".inf", ".Inf", ".INF"].contains (String.ofList (unsigned s)) ||
    [".nan", ".NaN", ".NAN"].contains (String.ofList s)

/-- Whether a text, without its sign, has the form of a whole number: binary, octal, decimal,
hexadecimal or sexagesimal. -/
def isWholeUnsigned (s : List Char) : Bool :=
  match s with
  | '0' :: 'b' :: rest => !rest.isEmpty && rest.all fun c => c = '0' || c = '1' || c = '_'
  | '0' :: 'x' :: rest =>
    !rest.isEmpty && rest.all fun c =>
      isSpacedDigit c || ('a' ≤ c && c ≤ 'f') || ('A' ≤ c && c ≤ 'F')
  | '0' :: rest => rest.all fun c => ('0' ≤ c && c ≤ '7') || c = '_'
  | d :: rest =>
    isDigit d &&
      (rest.all isSpacedDigit || sixties? (rest.dropWhile isSpacedDigit) = some [])
  | [] => false

def isWhole (s : List Char) : Bool := isWholeUnsigned (unsigned s)

end Form

/-- A point in time as it is written: a date, perhaps with a time of day, and with that perhaps the
distance to universal time in minutes. -/
structure WrittenTime where
  year : Nat
  month : Nat
  day : Nat
  time : Option (Nat × Nat × Nat)
  offset : Option Int
  deriving DecidableEq, Repr

namespace WrittenTime

def number (digits : List Char) : Nat :=
  digits.foldl (fun n d => n * 10 + (d.toNat - '0'.toNat)) 0

/-- One or two digits, as many as there are, and the text behind them. -/
def shortNumber? (s : List Char) : Option (Nat × List Char) :=
  let digits := (s.take 2).takeWhile Form.isDigit
  if digits.isEmpty then none else some (number digits, s.drop digits.length)

/-- Exactly so many digits, and the text behind them. -/
def fixedNumber? (count : Nat) (s : List Char) : Option (Nat × List Char) :=
  let digits := (s.take count).takeWhile Form.isDigit
  if digits.length = count then some (number digits, s.drop count) else none

/-- A text without the character that it must start with. -/
def expect? (c : Char) : List Char → Option (List Char)
  | [] => none
  | d :: rest => if c = d then some rest else none

/-- The distance to universal time at the end of a text; there may be none. -/
def offset? (s : List Char) : Option (Option Int) :=
  match s.dropWhile fun c => c = ' ' || c = '\t' with
  | [] => if s.isEmpty then some none else none
  | ['Z'] => some none
  | sign :: rest =>
    if sign = '+' || sign = '-' then do
      let (hours, rest) ← shortNumber? rest
      let minutes ←
        match rest with
        | [] => some 0
        | ':' :: rest => do
          let (minutes, rest) ← fixedNumber? 2 rest
          if rest.isEmpty then some minutes else none
        | _ => none
      let distance : Int := (hours * 60 + minutes : Nat)
      some (some (if sign = '-' then -distance else distance))
    else none

/-- What separates the date from the time of day: the letter T or blanks. -/
def timeSeparator? : List Char → Option (List Char)
  | 'T' :: rest => some rest
  | 't' :: rest => some rest
  | s =>
    let rest := s.dropWhile fun c => c = ' ' || c = '\t'
    if rest.length < s.length then some rest else none

/-- Reads a point in time. -/
def parse? (s : List Char) : Option WrittenTime := do
  let (year, s) ← fixedNumber? 4 s
  let (month, s) ← shortNumber? (← expect? '-' s)
  let (day, s) ← shortNumber? (← expect? '-' s)
  if s.isEmpty then some ⟨year, month, day, none, none⟩
  else
    let (hour, s) ← shortNumber? (← timeSeparator? s)
    let (minute, s) ← fixedNumber? 2 (← expect? ':' s)
    let (second, s) ← fixedNumber? 2 (← expect? ':' s)
    let s :=
      match s with
      | '.' :: rest => rest.dropWhile Form.isDigit
      | s => s
    some ⟨year, month, day, some (hour, minute, second), ← offset? s⟩

/-- Whether an untagged text is a point in time: a date needs all its digits, unless a time of day
follows. -/
def isPlain (s : List Char) : Bool :=
  match parse? s with
  | some t => t.time.isSome || s.length = 10
  | none => false

end WrittenTime

def Tag.ofForm (s : List Char) : Tag :=
  if Form.truthWords.contains (String.ofList s) then .bool
  else if Form.isFraction s then .float
  else if Form.isWhole s then .int
  else if s = ['<', '<'] then .merge
  else if ["", "~", "null", "Null", "NULL"].contains (String.ofList s) then .null
  else if WrittenTime.isPlain s then .timestamp
  else if s = ['='] then .value
  else if s = ['!'] || s = ['&'] || s = ['*'] then .unknown
  else .str

/-- The tag of a scalar without a tag that is not quoted. One line feed at the very end does not
count, unless nothing else is there. -/
def Tag.ofPlain (text : String) : Tag :=
  match text.toList.getLast? with
  | some '\n' => if text = "\n" then .str else Tag.ofForm text.toList.dropLast
  | _ => Tag.ofForm text.toList

end DocletPreflight.Yaml
