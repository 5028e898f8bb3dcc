import DocletPreflight.Decimal.Binary64
import DocletPreflight.Text.Blank

/-!
# Reading numbers

Whole numbers are read in a base, with a sign and the mark of the base allowed in front; fractions are
read in decimal notation with an optional exponent, or as one of the words for an infinity and for no
number. Blanks around a number do not count. The decimal digits of all scripts are digits.
-/

set_option autoImplicit false

namespace DocletPreflight.Decimal

def trimNumber (s : List Char) : List Char :=
  ((s.dropWhile Text.isNumberBlank).reverse.dropWhile Text.isNumberBlank).reverse

/-- The sign in front of a number, and the number. -/
def takeSign : List Char → Bool × List Char
  | '-' :: rest => (true, rest)
  | '+' :: rest => (false, rest)
  | s => (false, s)

/-- A text without the mark of its base: a zero and a letter. -/
def dropBaseMark (base : Nat) (s : List Char) : List Char :=
  match s with
  | zero :: mark :: rest =>
    if Text.digitValue? zero = some 0 &&
        ((base = 16 && (mark = 'x' || mark = 'X')) || (base = 8 && (mark = 'o' || mark = 'O')) ||
          (base = 2 && (mark = 'b' || mark = 'B'))) then rest
    else s
  | _ => s

/-- A text as a whole number: its sign, the values of the digits that it starts with, and what stands
behind them. -/
structure WrittenWhole where
  negative : Bool
  digits : List Nat
  rest : List Char

def WrittenWhole.ofText (base : Nat) (s : List Char) : WrittenWhole :=
  let (negative, body) := takeSign (s.dropWhile Text.isNumberBlank)
  let body := dropBaseMark base body
  let digits := body.takeWhile fun c => (Text.digitInBase? base c).isSome
  ⟨negative, digits.filterMap (Text.digitInBase? base), body.drop digits.length⟩

/-- Whether the text is a whole number: it has digits and nothing but blanks behind them. -/
def WrittenWhole.isComplete (w : WrittenWhole) : Bool :=
  !w.digits.isEmpty && w.rest.all Text.isNumberBlank

def ofDigits (base : Nat) (digits : List Nat) : Nat := digits.foldl (fun n d => n * base + d) 0

/-- Decimal digits as values, as far as they go. -/
def leadingDigits (s : List Char) : List Nat × List Char :=
  let digits := s.takeWhile fun c => (Text.digitValue? c).isSome
  (digits.filterMap Text.digitValue?, s.drop digits.length)

/-- The exponent at the end of a number; there may be none. -/
def exponent? (s : List Char) : Option Int :=
  match s with
  | [] => some 0
  | e :: rest =>
    if e = 'e' || e = 'E' then
      let (negative, digits) := takeSign rest
      match leadingDigits digits with
      | ([], _) => none
      | (values, []) => some (Binary64.signed negative (ofDigits 10 values))
      | _ => none
    else none

/-- The value of decimal digits times a power of ten. Powers far out of the range of the finite
values are not computed. -/
def ofDecimal (negative : Bool) (digits : List Nat) (exponent : Int) : Binary64 :=
  let n := ofDigits 10 digits
  let magnitude := exponent + digits.length
  if n = 0 then .finite negative 0 0
  else if 400 + digits.length < magnitude then .infinite negative
  else if magnitude < -400 then .finite negative 0 0
  else if exponent < 0 then .ofQuotient negative n (Nat.pow 10 exponent.natAbs)
  else .ofQuotient negative (n * Nat.pow 10 exponent.natAbs) 1

def infinityWords : List String := ["inf", "infinity"]

def fraction? (s : List Char) : Option Binary64 :=
  let (negative, body) := takeSign (trimNumber s)
  let word := String.ofList (body.map Char.toLower)
  if infinityWords.contains word then some (.infinite negative)
  else if word = "nan" then some .nan
  else
    let (whole, rest) := leadingDigits body
    let (part, rest) :=
      match rest with
      | '.' :: rest => leadingDigits rest
      | rest => ([], rest)
    if whole.isEmpty && part.isEmpty then none
    else
      (exponent? rest).map fun e =>
        ofDecimal negative (whole ++ part) (e - (part.length : Int))

end DocletPreflight.Decimal
