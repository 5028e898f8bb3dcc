/-!
# Character classes given by ranges

A character class is a list of inclusive ranges of code points in increasing order, as
`Text.isPrintable`, `Text.isWordCharacter`, `Text.isBlank` and `Text.isCased` are.
-/

set_option autoImplicit false

namespace DocletPreflight.Text

abbrev Ranges := List (Nat × Nat)

def Ranges.covers (r : Ranges) (code : Nat) : Bool :=
  r.any fun bounds => bounds.1 ≤ code && code ≤ bounds.2

end DocletPreflight.Text
