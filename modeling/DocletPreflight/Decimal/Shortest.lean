import DocletPreflight.Decimal.Binary64

/-!
# Shortest decimals

A binary fraction is written with the fewest digits that are read back as the same value, and of all
texts of that length the nearest to it. `shortestDigits` finds them: for one digit, two digits and so
on it looks at the two neighbours of the value on the grid of that many digits, and takes the first
grid on which one of them rounds to the value. `Binary64.text` writes the digits: positionally while
the decimal point stays within sixteen places to the right and four to the left, otherwise with an
exponent of at least two digits.
-/

set_option autoImplicit false

namespace DocletPreflight.Decimal

/-- The values that round to a finite value: all in quarters of its last bit, between `low` and
`high`, with the ends when `closed`. -/
structure RoundingInterval where
  low : Nat
  value : Nat
  high : Nat
  exponent : Int
  closed : Bool
  deriving DecidableEq, Repr

/-- The rounding interval of `m · 2 ^ e`. Below a power of two the values are twice as dense. -/
def roundingInterval (m : Nat) (e : Int) : RoundingInterval where
  low := if m = Nat.pow 2 52 && Binary64.leastExponent < e then 4 * m - 1 else 4 * m - 2
  value := 4 * m
  high := 4 * m + 2
  exponent := e - 2
  closed := m % 2 = 0

/-- The power of ten that is the place of the first digit of `num / den`: the greatest `k` with
`10 ^ k` at most the value, found from a guess that is too low. -/
def decimalPlace (num den : Nat) : Nat → Int → Int
  | 0, k => k
  | fuel + 1, k =>
    let reached :=
      if k + 1 < 0 then den ≤ num * Nat.pow 10 (k + 1).natAbs
      else den * Nat.pow 10 (k + 1).natAbs ≤ num
    if reached then decimalPlace num den fuel (k + 1) else k

/-- A guess at the place of the first digit that is not too high. -/
def lowPlace (num den : Nat) : Int :=
  Int.fdiv (((num.log2 : Int) - (den.log2 : Int) - 1) * 30103) 100000 - 1

/-- Scales quarters of the last bit by the exponent and a grid, over a common denominator. -/
def onGrid (quarters : Nat) (e grid : Int) : Nat × Nat :=
  let two := Nat.pow 2 e.natAbs
  let ten := Nat.pow 10 grid.natAbs
  let (n, d) := if e < 0 then (quarters, two) else (quarters * two, 1)
  if grid < 0 then (n * ten, d) else (n, d * ten)

/-- The point of a grid that is next to a value and rounds to it, if there is one. -/
def gridPoint? (r : RoundingInterval) (grid : Int) : Option Nat :=
  let (value, den) := onGrid r.value r.exponent grid
  let (low, _) := onGrid r.low r.exponent grid
  let (high, _) := onGrid r.high r.exponent grid
  let inside (p : Nat) : Bool :=
    let q := p * den
    (low < q && q < high) || (r.closed && (q = low || q = high))
  let below := value / den
  let above := below + 1
  match inside below, inside above with
  | true, true =>
    let down := value - below * den
    let up := above * den - value
    some (if down < up || (down = up && below % 2 = 0) then below else above)
  | true, false => some below
  | false, true => some above
  | false, false => none

/-- The first grid from `count` digits on with a point, and the point. -/
def searchDigits (r : RoundingInterval) (place : Int) : Nat → Nat → Nat × Int
  | 0, _ => (0, 0)
  | fuel + 1, count =>
    let grid := place - count
    match gridPoint? r grid with
    | some p => (p, grid)
    | none => searchDigits r place fuel (count + 1)

/-- The fewest digits that are read back as `m · 2 ^ e`, as a number and the power of ten of its last
digit. -/
def shortestDigits (m : Nat) (e : Int) : Nat × Int :=
  let (num, den) := Binary64.quotient m e
  let place := decimalPlace num den 8 (lowPlace num den)
  searchDigits (roundingInterval m e) place 20 0

/-- Digits without the zeros at the end, and how many these were. -/
def dropZeros (digits : List Char) : List Char × Nat :=
  let zeros := (digits.reverse.takeWhile (· = '0')).length
  (digits.take (digits.length - zeros), zeros)

/-- An exponent with its sign and at least two digits. -/
def exponentText (e : Int) : String :=
  let digits := toString e.natAbs
  "e" ++ (if e < 0 then "-" else "+") ++ (if digits.length < 2 then "0" ++ digits else digits)

/-- Digits with the decimal point behind so many of them. -/
def positional (digits : List Char) (point : Int) : String :=
  if point ≤ 0 then
    "0." ++ String.ofList (List.replicate point.natAbs '0' ++ digits)
  else
    let whole := point.toNat
    if digits.length ≤ whole then
      String.ofList (digits ++ List.replicate (whole - digits.length) '0') ++ ".0"
    else String.ofList (digits.take whole) ++ "." ++ String.ofList (digits.drop whole)

/-- Digits with the decimal point behind the first and an exponent. -/
def scientific (digits : List Char) (e : Int) : String :=
  let part := digits.drop 1
  String.ofList (digits.take 1) ++
    (if part.isEmpty then "" else "." ++ String.ofList part) ++ exponentText e

def finiteText (m : Nat) (e : Int) : String :=
  if m = 0 then "0.0"
  else
    let (number, grid) := shortestDigits m e
    let (digits, zeros) := dropZeros (toString number).toList
    let point : Int := digits.length + zeros + grid
    if -4 < point && point ≤ 16 then positional digits point else scientific digits (point - 1)

def Binary64.text : Binary64 → String
  | finite negative m e => (if negative then "-" else "") ++ finiteText m e
  | infinite negative => if negative then "-inf" else "inf"
  | nan => "nan"

end DocletPreflight.Decimal
