import DocletPreflight.Text.CodePoint
import DocletPreflight.Text.Printable

/-!
# Quoted text

Messages quote a value between single quotes, or between double quotes when it holds single ones
only. The backslash, the quote in use and the characters that cannot be printed are escaped, so
that a quotation never breaks a line.
-/

set_option autoImplicit false

namespace DocletPreflight.Text

/-- A lower-case hexadecimal digit. -/
def hexDigit (n : Nat) : Char :=
  if n < 10 then Char.ofNat ('0'.toNat + n) else Char.ofNat ('a'.toNat + (n - 10))

/-- The last `width` hexadecimal digits of a number. -/
def hexDigits : Nat → Nat → List Char
  | 0, _ => []
  | width + 1, n => hexDigits width (n / 16) ++ [hexDigit (n % 16)]

/-- The escape of a character by its code, in the shortest of the three widths. -/
def escapeCode (code : Nat) : List Char :=
  if code < 0x100 then '\x5c' :: 'x' :: hexDigits 2 code
  else if code < 0x10000 then '\x5c' :: 'u' :: hexDigits 4 code
  else '\x5c' :: 'U' :: hexDigits 8 code

def escape (quote : Char) (code : Nat) : List Char :=
  if code = quote.toNat || code = '\x5c'.toNat then ['\x5c', Char.ofNat code]
  else if code = '\n'.toNat then ['\x5c', 'n']
  else if code = '\r'.toNat then ['\x5c', 'r']
  else if code = '\t'.toNat then ['\x5c', 't']
  else if isPrintable code then [Char.ofNat code]
  else escapeCode code

/-- The quote a text is written with: the double one only when the text holds a single quote and
no double one. -/
def quoteFor (s : List Char) : Char :=
  if s.contains '\x27' && !s.contains '\x22' then '\x22' else '\x27'

/-- A text as a message shows it. -/
def quoted (s : String) : String :=
  let quote := quoteFor s.toList
  String.ofList (quote :: ((codes s).flatMap (escape quote) ++ [quote]))

end DocletPreflight.Text
