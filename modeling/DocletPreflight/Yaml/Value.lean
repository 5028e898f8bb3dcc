import DocletPreflight.Decimal.Shortest
import DocletPreflight.Yaml.Error

/-!
# Values of a YAML text

What a text stands for once its scalars are typed. Dates, times, bytes, sets and the like have no use
for this library and are all `other`. A mapping keeps the fields that have a text as their name, in
order; of two fields with one name the later one counts.
-/

set_option autoImplicit false

namespace DocletPreflight.Yaml

inductive Value where
  | null
  | bool (b : Bool)
  | int (n : Int)
  | float (x : Decimal.Binary64)
  | str (s : String)
  | list (items : List Value)
  | map (fields : List (String × Value))
  | other
  deriving Repr

/-- A whole number with too many digits to be written. -/
structure NumberTooLong where
  deriving DecidableEq, Repr

/-- The text of the error. -/
def NumberTooLong.message (_ : NumberTooLong) : String :=
  "Exceeds the limit (" ++ toString digitLimit ++
    " digits) for integer string conversion; use sys.set_int_max_str_digits() to increase the limit"

namespace Value

/-- Whether a whole number has few enough digits to be written. -/
def isWritable (n : Int) : Bool := n.natAbs < Nat.pow 10 digitLimit

def truthText (b : Bool) : String := if b then "True" else "False"

/-- The text of a value that is a text, a number or a truth value. -/
def text? : Value → Except NumberTooLong (Option String)
  | str s => .ok (some s)
  | bool b => .ok (some (truthText b))
  | int n => if isWritable n then .ok (some (toString n)) else .error {}
  | float x => .ok (some x.text)
  | _ => .ok none

/-- The field of a mapping with a name; nothing for a field that is not there and for what is no
mapping. -/
def field (v : Value) (name : String) : Value :=
  match v with
  | map fields => (fields.reverse.lookup name).getD null
  | _ => null

/-- The items of a list; what is no list has none. -/
def items : Value → List Value
  | list items => items
  | _ => []

def itemTexts : List Value → Except NumberTooLong (List String)
  | [] => .ok []
  | item :: rest => do
    let text ← item.text?
    let texts ← itemTexts rest
    .ok (text.toList ++ texts)

/-- A value as a list of texts: a text is a list of one, and of a list those items count that have a
text. -/
def texts : Value → Except NumberTooLong (List String)
  | str s => .ok [s]
  | list items => itemTexts items
  | _ => .ok []

end Value

end DocletPreflight.Yaml
