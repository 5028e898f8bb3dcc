/-!
# Cutting text at a separator

Tag definitions, class lists, dotted names and paths are all read by cutting a text at one
character. The three cuts of this module work on lists of characters: `cutFirst` at the first
separator, `cutLast` at the last one, and `pieces` at every one. Each loses nothing but the
separators it cut at, which is what the lemmas beside the definitions say.
-/

set_option autoImplicit false

namespace DocletPreflight.Text

/-- The text before the first separator, and the text after it when there is a separator. -/
def cutFirst (sep : Char) : List Char → List Char × Option (List Char)
  | [] => ([], none)
  | c :: rest =>
    if c = sep then ([], some rest) else (c :: (cutFirst sep rest).1, (cutFirst sep rest).2)

/-- The texts before and after the last separator, when there is one. -/
def cutLast (sep : Char) : List Char → Option (List Char × List Char)
  | [] => none
  | c :: rest =>
    match cutLast sep rest with
    | some (before, after) => some (c :: before, after)
    | none => if c = sep then some ([], rest) else none

/-- The texts between separators; a text without a separator is one piece. -/
def pieces (sep : Char) : List Char → List (List Char)
  | [] => [[]]
  | c :: rest =>
    if c = sep then [] :: pieces sep rest
    else
      match pieces sep rest with
      | [] => [[c]]
      | p :: ps => (c :: p) :: ps

/-- Joining the two sides of a first cut gives the text back. -/
def rejoin (sep : Char) : List Char × Option (List Char) → List Char
  | (before, none) => before
  | (before, some after) => before ++ sep :: after

/-- The two parts of a cut make up the text again. -/
theorem rejoin_cutFirst (sep : Char) (s : List Char) : rejoin sep (cutFirst sep s) = s := by
  induction s with
  | nil => rfl
  | cons c rest ih =>
    by_cases h : c = sep
    · simp [cutFirst, h, rejoin]
    · revert ih
      cases hr : cutFirst sep rest with
      | mk before after => cases after <;> simp [cutFirst, h, hr, rejoin]

/-- The part in front of a cut has no separator in it. -/
theorem not_mem_cutFirst (sep : Char) (s : List Char) : sep ∉ (cutFirst sep s).1 := by
  induction s with
  | nil => simp [cutFirst]
  | cons c rest ih =>
    by_cases h : c = sep
    · simp [cutFirst, h]
    · simp [cutFirst, h, ih, Ne.symm h]

/-- There is at least one piece. -/
theorem pieces_ne_nil (sep : Char) (s : List Char) : pieces sep s ≠ [] := by
  cases s with
  | nil => simp [pieces]
  | cons c rest =>
    by_cases h : c = sep
    · simp [pieces, h]
    · cases hr : pieces sep rest <;> simp [pieces, h, hr]

/-- The texts of a `String` between separators. -/
def split (sep : Char) (s : String) : List String :=
  (pieces sep s.toList).map String.ofList

end DocletPreflight.Text
