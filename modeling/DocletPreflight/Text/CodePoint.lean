/-!
# Texts as code points

A text is a sequence of code points. All of them are characters but the halves of surrogate pairs, which
an escape in a YAML text may name. For a `String` to hold these as well, a half is kept as two
characters, a mark and one that stands in for the half, and the mark itself, which is the last of all
characters, is kept as two marks. `ofCodes` makes a text of code points and `codes` takes it apart, and
`codes_ofCodes` says that nothing is lost on the way.
-/

set_option autoImplicit false

namespace DocletPreflight.Text

def isSurrogate (code : Nat) : Bool := 0xD800 ≤ code && code < 0xE000

/-- The mark in front of what stands in for half of a surrogate pair. -/
def mark : Char := Char.ofNat 0x10FFFF

/-- The distance from half of a surrogate pair to the private-use character that stands in for it. -/
def standInOffset : Nat := 0x100000

def ofCode (code : Nat) : List Char :=
  if isSurrogate code then [mark, Char.ofNat (code + standInOffset)]
  else if code = 0x10FFFF then [mark, mark]
  else [Char.ofNat code]

def ofCodes (codes : List Nat) : String := String.ofList (codes.flatMap ofCode)

def codesOf : List Char → List Nat
  | [] => []
  | [c] => [c.toNat]
  | c :: d :: rest =>
    if c = mark then (if d = mark then 0x10FFFF else d.toNat - standInOffset) :: codesOf rest
    else c.toNat :: codesOf (d :: rest)

def codes (s : String) : List Nat := codesOf s.toList

def ofCharacters (s : List Char) : String := ofCodes (s.map Char.toNat)

/-- The characters of a text. Half of a surrogate pair, which is none, is replaced. -/
def characters (s : String) : List Char :=
  (codes s).map fun code => if isSurrogate code then '\uFFFD' else Char.ofNat code

/-- The text of a plain string, which holds characters only. -/
def ofPlain (s : String) : String := ofCharacters s.toList

def toPlain (s : String) : String := String.ofList (characters s)

/-- Whether a text comes before another or is the same, in the order of code points. -/
def precedes (a b : String) : Bool := !decide (codes b < codes a)

/-- A code point that is no half of a surrogate pair is that of its character. -/
theorem toNat_ofNat {code : Nat} (h : code < 0x110000) (hs : isSurrogate code = false) :
    (Char.ofNat code).toNat = code := by
  have hv : code.isValidChar := by
    simp only [isSurrogate, Bool.and_eq_false_iff, decide_eq_false_iff_not] at hs
    simp only [Nat.isValidChar]
    omega
  rw [Char.ofNat, dif_pos hv]
  rfl

/-- A code point in front of a text is read back from its characters. -/
theorem codesOf_ofCode (code : Nat) (h : code < 0x110000) (rest : List Char) :
    codesOf (ofCode code ++ rest) = code :: codesOf rest := by
  have hm : mark.toNat = 0x10FFFF := by decide
  unfold ofCode
  split
  · next hs =>
    have hr : 0xD800 ≤ code ∧ code < 0xE000 := by simpa [isSurrogate] using hs
    have ht : (Char.ofNat (code + standInOffset)).toNat = code + standInOffset := by
      apply toNat_ofNat
      · simp only [standInOffset]; omega
      · have hl : ¬ code + standInOffset < 0xE000 := by simp only [standInOffset]; omega
        simp [isSurrogate, hl]
    have hne : Char.ofNat (code + standInOffset) ≠ mark := by
      intro he
      rw [he, hm] at ht
      simp only [standInOffset] at ht
      omega
    simp [codesOf, hne, ht]
  · next hs =>
    split
    · next hc => simp [codesOf, hc]
    · next hc =>
      have ht := toNat_ofNat h (by simpa using hs)
      have hne : Char.ofNat code ≠ mark := by
        intro he
        rw [he, hm] at ht
        exact hc ht.symm
      cases rest <;> simp [codesOf, hne, ht]

/-- A text keeps its code points. -/
theorem codes_ofCodes (cs : List Nat) (h : ∀ c ∈ cs, c < 0x110000) : codes (ofCodes cs) = cs := by
  simp only [codes, ofCodes, String.toList_ofList]
  induction cs with
  | nil => rfl
  | cons c rest ih =>
    rw [List.flatMap_cons, codesOf_ofCode c (h c (by simp)), ih fun d hd => h d (by simp [hd])]

end DocletPreflight.Text
