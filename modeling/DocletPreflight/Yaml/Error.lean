import DocletPreflight.Text.Quoted

/-!
# What can be wrong with a YAML text

A text that breaks the rules of the format is `malformed`, and one whose nodes lead on and on is
`tooDeep`. The other errors are those of scalars that have the form of a number, a truth value or a
point in time and stand for none.
-/

set_option autoImplicit false

namespace DocletPreflight.Yaml

/-- Why a text cannot be read. -/
inductive Error where
  /-- The text breaks a rule of the format. -/
  | malformed
  /-- The structure of the text is too deep to be followed, or has no end. -/
  | tooDeep
  /-- An escape names a code point above U+10FFFF. -/
  | codePointRange
  /-- An escape names a number that is too large to be a code point at all. -/
  | codePointOverflow
  /-- A number or a fraction without any characters. -/
  | emptyNumber
  /-- The digits of a whole number are none in their base. -/
  | wholeNumber (base : Nat) (text : String)
  /-- A whole number has more decimal digits than are read. -/
  | tooManyDigits (count : Nat)
  /-- A fraction cannot be read. -/
  | fraction (text : String)
  /-- A factor of a sexagesimal fraction is too large for a fraction. -/
  | fractionRange
  /-- A truth value is none of the words for one. -/
  | truthValue (word : String)
  /-- A text that is typed as a point in time is none. -/
  | timeForm
  /-- A mapping is typed as a point in time, even one that stands for a scalar. -/
  | timeOfMapping
  /-- The year zero. -/
  | yearRange (year : Nat)
  /-- A month, a day or a part of the time of day is out of its range. -/
  | monthRange
  | dayRange
  | hourRange
  | minuteRange
  | secondRange
  /-- The distance to universal time, in minutes, is a day or more. -/
  | offsetRange (minutes : Int)
  deriving DecidableEq, Repr

/-- The most decimal digits that a whole number is read or written with. -/
def digitLimit : Nat := 4300

/-- The days and seconds of a distance in minutes; the seconds are not negative. -/
def offsetText (minutes : Int) : String :=
  let days := Int.fdiv minutes 1440
  let seconds := Int.fmod minutes 1440 * 60
  "datetime.timedelta(days=" ++ toString days ++
    (if seconds = 0 then "" else ", seconds=" ++ toString seconds) ++ ")"

/-- The most characters that are shown of a text that is no whole number, its quotes included. -/
def excerptLimit : Nat := 200

/-- The text of an error; that of a malformed text is kept general. -/
def Error.message : Error → String
  | malformed => "<yaml error>"
  | tooDeep => "maximum recursion depth exceeded"
  | codePointRange => "chr() arg not in range(0x110000)"
  | codePointOverflow => "Python int too large to convert to C int"
  | emptyNumber => "string index out of range"
  | wholeNumber base text =>
    "invalid literal for int() with base " ++ toString base ++ ": " ++
      String.ofList ((Text.quoted text).toList.take excerptLimit)
  | tooManyDigits count =>
    "Exceeds the limit (" ++ toString digitLimit ++
      " digits) for integer string conversion: value has " ++ toString count ++
      " digits; use sys.set_int_max_str_digits() to increase the limit"
  | fraction text => "could not convert string to float: " ++ Text.quoted text
  | fractionRange => "int too large to convert to float"
  | truthValue word => Text.quoted word
  | timeForm => "'NoneType' object has no attribute 'groupdict'"
  | timeOfMapping => "expected string or bytes-like object, got 'list'"
  | yearRange year => "year " ++ toString year ++ " is out of range"
  | monthRange => "month must be in 1..12"
  | dayRange => "day is out of range for month"
  | hourRange => "hour must be in 0..23"
  | minuteRange => "minute must be in 0..59"
  | secondRange => "second must be in 0..59"
  | offsetRange minutes =>
    "offset must be a timedelta strictly between -timedelta(hours=24) and timedelta(hours=24), not "
      ++ offsetText minutes ++ "."

end DocletPreflight.Yaml
