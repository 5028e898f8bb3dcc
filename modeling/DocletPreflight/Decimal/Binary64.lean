/-!
# Binary fractions of 64 bits

The fractions of a class listing are rounded to 53 significant bits. A finite value is an integer
times a power of two; every operation is carried out exactly and then rounded once, a tie going to
the even neighbour.
-/

set_option autoImplicit false

namespace DocletPreflight.Decimal

/-- A value: `significand · 2 ^ exponent` with a sign, an infinity, or no number. -/
inductive Binary64 where
  | finite (negative : Bool) (significand : Nat) (exponent : Int)
  | infinite (negative : Bool)
  | nan
  deriving DecidableEq, Repr

/-- The integer next to a quotient; of two that are equally near the even one. -/
def roundQuotient (num den : Nat) : Nat :=
  let q := num / den
  let r := num % den
  if den < 2 * r || (2 * r = den && q % 2 = 1) then q + 1 else q

namespace Binary64

def leastExponent : Int := -1074

def greatestExponent : Int := 971

/-- The quotient of `num / den` by a power of two, as a fraction. -/
def scaled (num den : Nat) (exponent : Int) : Nat × Nat :=
  if exponent < 0 then (num * Nat.pow 2 exponent.natAbs, den)
  else (num, den * Nat.pow 2 exponent.natAbs)

/-- The value next to the quotient of two numbers; beyond the greatest finite value it is
infinite. -/
def ofQuotient (negative : Bool) (num den : Nat) : Binary64 :=
  if num = 0 || den = 0 then finite negative 0 0
  else
    let guess : Int := max ((num.log2 : Int) - (den.log2 : Int) - 53) leastExponent
    let (n, d) := scaled num den guess
    let exponent := if Nat.pow 2 53 * d ≤ n then guess + 1 else guess
    let (n, d) := scaled num den exponent
    let significand := roundQuotient n d
    let (significand, exponent) :=
      if significand = Nat.pow 2 53 then (Nat.pow 2 52, exponent + 1) else (significand, exponent)
    if greatestExponent < exponent then infinite negative
    else finite negative significand exponent

def ofFraction (num : Int) (den : Nat) : Binary64 := ofQuotient (num < 0) num.natAbs den

/-- Whether a value is below zero, or a zero with a minus sign. -/
def isNegative : Binary64 → Bool
  | finite negative .. => negative
  | infinite negative => negative
  | nan => false

/-- The value with the other sign. -/
def neg : Binary64 → Binary64
  | finite negative m e => finite (!negative) m e
  | infinite negative => infinite (!negative)
  | nan => nan

def isZero : Binary64 → Bool
  | finite _ m _ => m = 0
  | _ => false

/-- A finite value as numerator and denominator, without its sign. -/
def quotient (m : Nat) (e : Int) : Nat × Nat :=
  if e < 0 then (m, Nat.pow 2 e.natAbs) else (m * Nat.pow 2 e.natAbs, 1)

def signed (negative : Bool) (n : Nat) : Int := if negative then -(n : Int) else n

/-- Whether a value is a whole number. -/
def equalsInt (x : Binary64) (n : Int) : Bool :=
  match x with
  | finite negative m e =>
    let (p, q) := quotient m e
    signed negative p = n * q
  | _ => false

/-- Equality of values. Both zeros are equal, and what is no number equals nothing. -/
def equals : Binary64 → Binary64 → Bool
  | finite a m e, finite b n f =>
    let (p, q) := quotient m e
    let (r, s) := quotient n f
    signed a p * s = signed b r * q
  | infinite a, infinite b => a = b
  | _, _ => false

/-- The sum, rounded. Zeros of different signs add up to a zero without one. -/
def add : Binary64 → Binary64 → Binary64
  | nan, _ => nan
  | _, nan => nan
  | infinite a, infinite b => if a = b then infinite a else nan
  | infinite a, _ => infinite a
  | _, infinite b => infinite b
  | finite a m e, finite b n f =>
    let (p, q) := quotient m e
    let (r, s) := quotient n f
    let sum : Int := signed a p * s + signed b r * q
    if sum = 0 then finite (a && b) 0 0 else ofFraction sum (q * s)

/-- The product, rounded. -/
def mul : Binary64 → Binary64 → Binary64
  | nan, _ => nan
  | _, nan => nan
  | infinite a, x => if x.isZero then nan else infinite (a ≠ x.isNegative)
  | x, infinite b => if x.isZero then nan else infinite (x.isNegative ≠ b)
  | finite a m e, finite b n f =>
    let (p, q) := quotient m e
    let (r, s) := quotient n f
    ofQuotient (a ≠ b) (p * r) (q * s)

end Binary64

end DocletPreflight.Decimal
