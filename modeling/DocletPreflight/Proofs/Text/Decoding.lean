import DocletPreflight.Text.Utf8

/-!
# Decoding UTF-8

The bytes of a character have one of four forms, and `Spells` says of which code point. The bytes that
encode a character are of such a form (`spells_utf8EncodeChar`), and all bytes of such a form encode the
character of their code point (`Spells.utf8EncodeChar_eq`). Decoding goes through a text form by form
(`Spells.decodeFrom_append`, `exists_spells_of_decodeFrom`), so that it answers characters just when the
bytes encode them (`decodeUtf8_eq_ok_iff`), and finds a fault in all bytes that encode no text.
-/

set_option autoImplicit false

namespace DocletPreflight.Text

/-! ## The forms of a character -/

/-- The bytes of a character, by their number, with the code point that they spell. -/
inductive Spells : List UInt8 → Nat → Prop where
  | one {b : UInt8} (hb : b < 0x80) : Spells [b] b.toNat
  | two {b c : UInt8} (hb : 0xC2 ≤ b) (hb' : b < 0xE0) (hc : isSecond b c = true) :
      Spells [b, c] (b.toNat % 0x20 * 0x40 + payload c)
  | three {b c d : UInt8} (hb : 0xE0 ≤ b) (hb' : b < 0xF0) (hc : isSecond b c = true)
      (hd : isContinuation d = true) :
      Spells [b, c, d] ((b.toNat % 0x10 * 0x40 + payload c) * 0x40 + payload d)
  | four {b c d e : UInt8} (hb : 0xF0 ≤ b) (hb' : b ≤ 0xF4) (hc : isSecond b c = true)
      (hd : isContinuation d = true) (he : isContinuation e = true) :
      Spells [b, c, d, e]
        (((b.toNat % 0x08 * 0x40 + payload c) * 0x40 + payload d) * 0x40 + payload e)

/-- The range of continuation bytes, by number. -/
theorem isContinuation_iff {b : UInt8} : isContinuation b = true ↔ 0x80 ≤ b.toNat ∧ b.toNat < 0xC0 := by
  simp [isContinuation, UInt8.le_iff_toNat_le, UInt8.lt_iff_toNat_lt]

/-- The range of second bytes behind each first byte, by number. -/
theorem isSecond_iff {start b : UInt8} :
    isSecond start b = true ↔ (0x80 ≤ b.toNat ∧ b.toNat < 0xC0) ∧
      (start.toNat = 0xE0 → 0xA0 ≤ b.toNat) ∧ (start.toNat = 0xED → b.toNat < 0xA0) ∧
      (start.toNat = 0xF0 → 0x90 ≤ b.toNat) ∧ (start.toNat = 0xF4 → b.toNat < 0x90) := by
  simp [isSecond, isContinuation_iff, UInt8.le_iff_toNat_le, UInt8.lt_iff_toNat_lt, ← UInt8.toNat_inj,
    and_assoc, Decidable.imp_iff_not_or]

/-- A valid code point is that of its character. -/
theorem toNat_ofNat_of_isValidChar {n : Nat} (h : n.isValidChar) : (Char.ofNat n).toNat = n := by
  rw [Char.ofNat, dif_pos h]
  rfl

/-- Bytes spell a code point however it is written. -/
theorem Spells.of_eq {bytes : List UInt8} {n m : Nat} (h : Spells bytes n) (heq : n = m) :
    Spells bytes m :=
  heq ▸ h

/-- A number below 256 is that of its byte. -/
theorem toNat_ofNat_of_lt {n : Nat} (h : n < 256) : (UInt8.ofNat n).toNat = n := by
  rw [UInt8.toNat_ofNat', Nat.mod_eq_of_lt h]

/-- A byte is made of its own number. -/
theorem ofNat_eq_of_toNat {n : Nat} (b : UInt8) (h : n = b.toNat) : UInt8.ofNat n = b := by
  rw [h, UInt8.ofNat_toNat]

/-- The bytes that encode a character spell its code point. -/
theorem spells_utf8EncodeChar (c : Char) : Spells (String.utf8EncodeChar c) c.toNat := by
  have hvalid : c.toNat < 0xD800 ∨ 0xDFFF < c.toNat ∧ c.toNat < 0x110000 := c.valid
  have hcode : c.val.toNat = c.toNat := rfl
  unfold String.utf8EncodeChar
  simp only [hcode]
  generalize c.toNat = n at hvalid
  split
  next h1 =>
    have hb := toNat_ofNat_of_lt (n := n) (by omega)
    refine (Spells.one ?_).of_eq hb
    rw [UInt8.lt_iff_toNat_lt, hb]
    exact Nat.lt_of_le_of_lt h1 (by decide)
  next h1 =>
    have hlast := toNat_ofNat_of_lt (n := n % 64 + 128) (by omega)
    split
    next h2 =>
      have hb := toNat_ofNat_of_lt (n := n / 64 % 32 + 192) (by omega)
      refine (Spells.two ?_ ?_ ?_).of_eq ?_
      · simp only [UInt8.le_iff_toNat_le, hb, UInt8.reduceToNat]; omega
      · simp only [UInt8.lt_iff_toNat_lt, hb, UInt8.reduceToNat]; omega
      · simp only [isSecond_iff, hb, hlast]; omega
      · simp only [payload, hb, hlast]; omega
    next h2 =>
      have hbefore := toNat_ofNat_of_lt (n := n / 64 % 64 + 128) (by omega)
      split
      next h3 =>
        have hb := toNat_ofNat_of_lt (n := n / 4096 % 16 + 224) (by omega)
        refine (Spells.three ?_ ?_ ?_ ?_).of_eq ?_
        · simp only [UInt8.le_iff_toNat_le, hb, UInt8.reduceToNat]; omega
        · simp only [UInt8.lt_iff_toNat_lt, hb, UInt8.reduceToNat]; omega
        · simp only [isSecond_iff, hb, hbefore]; omega
        · simp only [isContinuation_iff, hlast]; omega
        · simp only [payload, hb, hbefore, hlast]; omega
      next h3 =>
        have hb := toNat_ofNat_of_lt (n := n / 262144 % 8 + 240) (by omega)
        have hc := toNat_ofNat_of_lt (n := n / 4096 % 64 + 128) (by omega)
        refine (Spells.four ?_ ?_ ?_ ?_ ?_).of_eq ?_
        · simp only [UInt8.le_iff_toNat_le, hb, UInt8.reduceToNat]; omega
        · simp only [UInt8.le_iff_toNat_le, hb, UInt8.reduceToNat]; omega
        · simp only [isSecond_iff, hb, hc]; omega
        · simp only [isContinuation_iff, hbefore]; omega
        · simp only [isContinuation_iff, hlast]; omega
        · simp only [payload, hb, hc, hbefore, hlast]; omega

/-- Bytes that spell a code point encode its character. -/
theorem Spells.utf8EncodeChar_eq {bytes : List UInt8} {n : Nat} (h : Spells bytes n) :
    String.utf8EncodeChar (Char.ofNat n) = bytes := by
  cases h with
  | @one b hb =>
    simp only [UInt8.lt_iff_toNat_lt, UInt8.reduceToNat] at hb
    have hcode : (Char.ofNat b.toNat).val.toNat = b.toNat :=
      toNat_ofNat_of_isValidChar (.inl (by omega))
    simp only [String.utf8EncodeChar, hcode]
    rw [if_pos (by omega), UInt8.ofNat_toNat]
  | @two b c hb hb' hc =>
    simp only [UInt8.le_iff_toNat_le, UInt8.reduceToNat] at hb
    simp only [UInt8.lt_iff_toNat_lt, UInt8.reduceToNat] at hb'
    rw [isSecond_iff] at hc
    simp only [payload]
    generalize hn : b.toNat % 0x20 * 0x40 + c.toNat % 0x40 = n
    have hcode : (Char.ofNat n).val.toNat = n := toNat_ofNat_of_isValidChar (.inl (by omega))
    simp only [String.utf8EncodeChar, hcode]
    rw [if_neg (by omega), if_pos (by omega), ofNat_eq_of_toNat b (by omega), ofNat_eq_of_toNat c (by omega)]
  | @three b c d hb hb' hc hd =>
    simp only [UInt8.le_iff_toNat_le, UInt8.reduceToNat] at hb
    simp only [UInt8.lt_iff_toNat_lt, UInt8.reduceToNat] at hb'
    rw [isSecond_iff] at hc
    rw [isContinuation_iff] at hd
    simp only [payload]
    generalize hn : (b.toNat % 0x10 * 0x40 + c.toNat % 0x40) * 0x40 + d.toNat % 0x40 = n
    have hvalid : n < 0xD800 ∨ 0xDFFF < n ∧ n < 0x110000 := by omega
    have hcode : (Char.ofNat n).val.toNat = n := toNat_ofNat_of_isValidChar hvalid
    simp only [String.utf8EncodeChar, hcode]
    rw [if_neg (by omega), if_neg (by omega), if_pos (by omega), ofNat_eq_of_toNat b (by omega),
      ofNat_eq_of_toNat c (by omega), ofNat_eq_of_toNat d (by omega)]
  | @four b c d e hb hb' hc hd he =>
    simp only [UInt8.le_iff_toNat_le, UInt8.reduceToNat] at hb hb'
    rw [isSecond_iff] at hc
    rw [isContinuation_iff] at hd he
    simp only [payload]
    generalize hn : ((b.toNat % 0x08 * 0x40 + c.toNat % 0x40) * 0x40 + d.toNat % 0x40) * 0x40 +
      e.toNat % 0x40 = n
    have hvalid : n < 0xD800 ∨ 0xDFFF < n ∧ n < 0x110000 := by omega
    have hcode : (Char.ofNat n).val.toNat = n := toNat_ofNat_of_isValidChar hvalid
    simp only [String.utf8EncodeChar, hcode]
    rw [if_neg (by omega), if_neg (by omega), if_neg (by omega), ofNat_eq_of_toNat b (by omega),
      ofNat_eq_of_toNat c (by omega), ofNat_eq_of_toNat d (by omega), ofNat_eq_of_toNat e (by omega)]

/-! ## Form by form -/

variable {position : Nat} {done cs : List Char} {bytes : List UInt8}

/-- Bytes that spell a code point are decoded in one step. -/
theorem Spells.decodeFrom_append {n : Nat} (h : Spells bytes n) (position : Nat) (done : List Char)
    (rest : List UInt8) :
    decodeFrom position done (bytes ++ rest) =
      decodeFrom (position + bytes.length) (Char.ofNat n :: done) rest := by
  rw [decodeFrom.eq_def]
  cases h with
  | @one b hb => simp [hb]
  | @two b c hb hb' hc =>
    simp only [UInt8.le_iff_toNat_le, UInt8.lt_iff_toNat_lt, UInt8.reduceToNat] at hb hb'
    have hmany : ¬b.toNat < 128 := by omega
    have hlow : ¬b.toNat < 194 := by omega
    have hhigh : ¬244 < b.toNat := by omega
    simp [UInt8.lt_iff_toNat_lt, hmany, hlow, hhigh, hb', hc]
  | @three b c d hb hb' hc hd =>
    simp only [UInt8.le_iff_toNat_le, UInt8.lt_iff_toNat_lt, UInt8.reduceToNat] at hb hb'
    have hmany : ¬b.toNat < 128 := by omega
    have hlow : ¬b.toNat < 194 := by omega
    have hhigh : ¬244 < b.toNat := by omega
    have htwo : ¬b.toNat < 224 := by omega
    simp [UInt8.lt_iff_toNat_lt, hmany, hlow, hhigh, htwo, hb', hc, hd]
  | @four b c d e hb hb' hc hd he =>
    simp only [UInt8.le_iff_toNat_le, UInt8.reduceToNat] at hb hb'
    have hmany : ¬b.toNat < 128 := by omega
    have hlow : ¬b.toNat < 194 := by omega
    have hhigh : ¬244 < b.toNat := by omega
    have htwo : ¬b.toNat < 224 := by omega
    have hthree : ¬b.toNat < 240 := by omega
    simp [UInt8.lt_iff_toNat_lt, hmany, hlow, hhigh, htwo, hthree, hc, hd, he]

/-- Where decoding goes well, the next bytes spell a code point. -/
theorem exists_spells_of_decodeFrom {b : UInt8} {bytes : List UInt8}
    (h : decodeFrom position done (b :: bytes) = .ok cs) :
    ∃ first n rest, Spells first n ∧ b :: bytes = first ++ rest ∧
      decodeFrom (position + first.length) (Char.ofNat n :: done) rest = .ok cs := by
  rw [decodeFrom.eq_def] at h
  simp only at h
  split at h
  next hb => exact ⟨[b], _, bytes, .one hb, rfl, h⟩
  next hmany =>
    split at h
    · cases h
    next hstart =>
      simp only [Bool.or_eq_true, decide_eq_true_eq, UInt8.lt_iff_toNat_lt, UInt8.reduceToNat]
        at hmany hstart
      split at h
      · cases h
      next c rest =>
        split at h
        · cases h
        next hc =>
          rw [Bool.not_eq_true', Bool.not_eq_false] at hc
          split at h
          next htwo =>
            refine ⟨[b, c], _, rest, .two ?_ htwo hc, rfl, h⟩
            simp only [UInt8.le_iff_toNat_le, UInt8.reduceToNat]
            omega
          next htwo =>
            split at h
            · cases h
            next d rest =>
              split at h
              · cases h
              next hd =>
                rw [Bool.not_eq_true', Bool.not_eq_false] at hd
                rw [UInt8.not_lt] at htwo
                split at h
                next hthree => exact ⟨[b, c, d], _, rest, .three htwo hthree hc hd, rfl, h⟩
                next hthree =>
                  rw [UInt8.not_lt] at hthree
                  split at h
                  · cases h
                  next e rest =>
                    split at h
                    · cases h
                    next he =>
                      rw [Bool.not_eq_true', Bool.not_eq_false] at he
                      refine ⟨[b, c, d, e], _, rest, .four hthree ?_ hc hd he, rfl, h⟩
                      simp only [UInt8.le_iff_toNat_le, UInt8.reduceToNat]
                      omega

/-! ## Whole texts -/

/-- Characters that are encoded are decoded again, behind those that are done. -/
theorem decodeFrom_flatMap (cs : List Char) (position : Nat) (done : List Char) :
    decodeFrom position done (cs.flatMap String.utf8EncodeChar) = .ok (done.reverse ++ cs) := by
  induction cs generalizing position done with
  | nil => rw [List.flatMap_nil, decodeFrom, List.append_nil]
  | cons c cs ih =>
    rw [List.flatMap_cons, (spells_utf8EncodeChar c).decodeFrom_append, ih, Char.ofNat_toNat]
    simp

/-- Bytes that are decoded encode the characters that they add. -/
theorem exists_of_decodeFrom (h : decodeFrom position done bytes = .ok cs) :
    ∃ rest, cs = done.reverse ++ rest ∧ rest.flatMap String.utf8EncodeChar = bytes := by
  -- one step takes up to four bytes, so the induction is on their number
  induction hlength : bytes.length using Nat.strongRecOn generalizing position done bytes with
  | ind length ih =>
    cases bytes with
    | nil =>
      rw [decodeFrom] at h
      cases h
      exact ⟨[], by simp⟩
    | cons b bytes =>
      obtain ⟨first, n, rest, hspells, hbytes, hrest⟩ := exists_spells_of_decodeFrom h
      have hlt : rest.length < length := by
        have hpositive : 0 < first.length := by cases hspells <;> simp
        rw [← hlength, hbytes, List.length_append]
        omega
      obtain ⟨more, rfl, hmore⟩ := ih rest.length hlt hrest rfl
      refine ⟨Char.ofNat n :: more, by simp, ?_⟩
      rw [List.flatMap_cons, hspells.utf8EncodeChar_eq, hmore, hbytes]

/-- Decoding answers characters just when the bytes encode them. -/
theorem decodeUtf8_eq_ok_iff : decodeUtf8 bytes = .ok cs ↔ cs.flatMap String.utf8EncodeChar = bytes := by
  constructor
  · intro h
    obtain ⟨rest, rfl, hrest⟩ := exists_of_decodeFrom h
    exact hrest
  · rintro rfl
    exact decodeFrom_flatMap cs 0 []

/-- Decoding finds a fault just in those bytes that are not UTF-8. -/
theorem exists_fault_iff : (∃ fault, decodeUtf8 bytes = .error fault) ↔ ¬bytes.toByteArray.IsValidUTF8 := by
  constructor
  · rintro ⟨fault, hfault⟩ ⟨cs, hcs⟩
    have hbytes : cs.flatMap String.utf8EncodeChar = bytes := (List.toByteArray_inj.mp hcs).symm
    rw [decodeUtf8_eq_ok_iff.mpr hbytes] at hfault
    cases hfault
  · intro hinvalid
    cases hdecode : decodeUtf8 bytes with
    | error fault => exact ⟨fault, rfl⟩
    | ok cs => exact absurd ⟨cs, congrArg _ (decodeUtf8_eq_ok_iff.mp hdecode).symm⟩ hinvalid

end DocletPreflight.Text
