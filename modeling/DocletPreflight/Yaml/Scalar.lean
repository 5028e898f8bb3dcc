import DocletPreflight.Decimal.Reading
import DocletPreflight.Text.Cut
import DocletPreflight.Text.SmallLetters
import DocletPreflight.Yaml.Tag
import DocletPreflight.Yaml.Value

/-!
# The values of scalars

A tagged scalar stands for a value: its text is read as the tag says. A text that the tag does not
fit is an error of its own kind, since such a text is well-formed all the same.
-/

set_option autoImplicit false

namespace DocletPreflight.Yaml

namespace Scalar

/-- A number without the underscores that group its digits. -/
def ungrouped (s : List Char) : List Char := s.filter (· ≠ '_')

/-- A whole number in a base. Numbers in base ten are limited in length, and so are the digits of a text
that turns out to be none. -/
def wholeIn (base : Nat) (s : List Char) : Except Error Int :=
  let w := Decimal.WrittenWhole.ofText base s
  if base = 10 && digitLimit < w.digits.length then .error (.tooManyDigits w.digits.length)
  else if w.isComplete then
    .ok (Decimal.Binary64.signed w.negative (Decimal.ofDigits base w.digits))
  else .error (.wholeNumber base (String.ofList s))

/-- A sum of numbers, each sixty times the next. -/
def sexagesimal (parts : List Int) : Int := parts.foldl (fun n part => n * 60 + part) 0

/-- A whole number: the first characters choose the base, and colons the sexagesimal system. -/
def whole (s : List Char) : Except Error Int := do
  let s := ungrouped s
  if s.isEmpty then .error .emptyNumber
  else
    let (negative, body) := Decimal.takeSign s
    let n ←
      match body with
      | [] => .error .emptyNumber
      | ['0'] => .ok 0
      | '0' :: 'b' :: rest => wholeIn 2 rest
      | '0' :: 'x' :: rest => wholeIn 16 rest
      | '0' :: _ => wholeIn 8 body
      | _ =>
        if body.contains ':' then
          (Text.pieces ':' body).mapM (wholeIn 10) |>.map sexagesimal
        else wholeIn 10 body
    .ok (if negative then -n else n)

def decimal (s : List Char) : Except Error Decimal.Binary64 :=
  match Decimal.fraction? s with
  | some x => .ok x
  | none => .error (.fraction (String.ofList s))

/-- A sum of fractions, the last first, each weighted by the next power of sixty and rounded as it is
added. -/
def weigh (total : Decimal.Binary64) (weight : Nat) :
    List Decimal.Binary64 → Except Error Decimal.Binary64
  | [] => .ok total
  | part :: rest =>
    match Decimal.Binary64.ofQuotient false weight 1 with
    | .finite n m e => weigh (total.add (part.mul (.finite n m e))) (weight * 60) rest
    | _ => .error .fractionRange

/-- A fraction: an infinity, no number, or a number in decimal or sexagesimal notation. -/
def fraction (s : List Char) : Except Error Decimal.Binary64 := do
  let s := Text.smallLetters (ungrouped s)
  if s.isEmpty then .error .emptyNumber
  else
    let (negative, body) := Decimal.takeSign s
    let x : Decimal.Binary64 ←
      if String.ofList body = ".inf" then .ok (.infinite false)
      else if String.ofList body = ".nan" then .ok .nan
      else if body.contains ':' then do
        let parts ← (Text.pieces ':' body).mapM decimal
        weigh (.finite false 0 0) 1 parts.reverse
      else decimal body
    .ok (if negative then x.neg else x)

def trueWords : List String := ["yes", "true", "on"]

def falseWords : List String := ["no", "false", "off"]

/-- A truth value, in any case. -/
def truth (s : List Char) : Except Error Bool :=
  let word := String.ofList (Text.smallLetters s)
  if trueWords.contains word then .ok true
  else if falseWords.contains word then .ok false
  else .error (.truthValue word)

def daysIn (year month : Nat) : Nat :=
  if month = 2 then
    if year % 4 = 0 && (year % 100 ≠ 0 || year % 400 = 0) then 29 else 28
  else if [4, 6, 9, 11].contains month then 30
  else 31

/-- Checks the ranges of a point in time, from the distance to universal time over the year down to
the second. -/
def checkTime (t : WrittenTime) : Except Error Unit := do
  if t.offset.any fun minutes => 1440 ≤ minutes.natAbs then
    .error (.offsetRange (t.offset.getD 0))
  if t.year = 0 then .error (.yearRange t.year)
  if t.month = 0 || 12 < t.month then .error .monthRange
  if t.day = 0 || daysIn t.year t.month < t.day then .error .dayRange
  match t.time with
  | none => .ok ()
  | some (hour, minute, second) => do
    if 23 < hour then .error .hourRange
    if 59 < minute then .error .minuteRange
    if 59 < second then .error .secondRange

/-- A point in time. One line feed at the end does not count. -/
def time (s : List Char) : Except Error Unit :=
  let body := if s.getLast? = some '\n' then s.dropLast else s
  match WrittenTime.parse? body with
  | some t => checkTime t
  | none => .error .timeForm

def isBase64 (c : Char) : Bool := c.isAlphanum || c = '+' || c = '/'

/-- Whether base 64 text is complete: `filled` characters of the current group of four were seen,
and `padding` marks since then. Other characters are passed over, and nothing counts behind a group
that was filled up with padding. -/
def isComplete (filled padding : Nat) : List Char → Bool
  | [] => filled = 0
  | c :: rest =>
    if c = '=' then
      if 2 ≤ filled then
        if 4 ≤ filled + padding + 1 then true else isComplete filled (padding + 1) rest
      else isComplete filled padding rest
    else if isBase64 c then isComplete ((filled + 1) % 4) 0 rest
    else isComplete filled padding rest

/-- Checks base 64 text; it must be ASCII. -/
def checkBinary (s : List Char) : Except Error Unit :=
  if s.all (·.toNat < 128) && isComplete 0 0 s then .ok () else .error .malformed

def value (tag : Tag) (text : String) : Except Error Value :=
  let s := text.toList
  match tag with
  | .null => .ok .null
  | .bool => (truth s).map .bool
  | .int => (whole s).map .int
  | .float => (fraction s).map .float
  | .str => .ok (.str text)
  | .timestamp => (time s).map fun _ => .other
  | .binary => (checkBinary s).map fun _ => .other
  | _ => .error .malformed

end Scalar

end DocletPreflight.Yaml
