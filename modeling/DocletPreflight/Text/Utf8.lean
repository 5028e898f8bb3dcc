import DocletPreflight.Text.CodePoint

/-!
# Strict UTF-8

A class listing is a file of bytes that must be UTF-8 without exception: `decodeUtf8` gives the
characters, or the first fault with the bytes it covers. Overlong forms, surrogates and code points
above U+10FFFF are faults, as are sequences that are cut short. The other way round, half of a
surrogate pair has no bytes: `unencodable?` finds the first ones in a text.
-/

set_option autoImplicit false

namespace DocletPreflight.Text

/-- What is wrong with a byte sequence. -/
inductive Utf8Reason where
  | invalidStart
  | invalidContinuation
  | unexpectedEnd
  deriving DecidableEq, Repr

/-- The first faulty sequence of a text: its first byte, where it starts, and how many bytes it
covers. -/
structure Utf8Fault where
  byte : UInt8
  position : Nat
  length : Nat
  reason : Utf8Reason
  deriving DecidableEq, Repr

def Utf8Reason.message : Utf8Reason → String
  | .invalidStart => "invalid start byte"
  | .invalidContinuation => "invalid continuation byte"
  | .unexpectedEnd => "unexpected end of data"

/-- Two lower-case hexadecimal digits. -/
def byteText (b : UInt8) : String :=
  String.ofList ((Nat.toDigits 16 (b.toNat / 16)) ++ (Nat.toDigits 16 (b.toNat % 16)))

/-- One byte is named by its value, several by their first and last position. -/
def Utf8Fault.message (f : Utf8Fault) : String :=
  let place :=
    if f.length = 1 then "byte 0x" ++ byteText f.byte ++ " in position " ++ toString f.position
    else "bytes in position " ++ toString f.position ++ "-" ++ toString (f.position + f.length - 1)
  "'utf-8' codec can't decode " ++ place ++ ": " ++ f.reason.message

/-- The bytes that may follow the first one of a sequence. -/
def isContinuation (b : UInt8) : Bool := 0x80 ≤ b && b < 0xC0

/-- The second byte is narrower after four of the start bytes: no overlong form, no surrogate and
nothing above U+10FFFF. -/
def isSecond (start b : UInt8) : Bool :=
  isContinuation b &&
    !(start = 0xE0 && b < 0xA0) && !(start = 0xED && 0xA0 ≤ b) &&
    !(start = 0xF0 && b < 0x90) && !(start = 0xF4 && 0x90 ≤ b)

/-- The six payload bits of a continuation byte. -/
def payload (b : UInt8) : Nat := b.toNat % 0x40

/-- Decoding from a position, with the characters read so far in reverse. -/
def decodeFrom (position : Nat) (done : List Char) : List UInt8 → Except Utf8Fault (List Char)
  | [] => .ok done.reverse
  | b :: rest =>
    let fault (length : Nat) (reason : Utf8Reason) : Except Utf8Fault (List Char) :=
      .error ⟨b, position, length, reason⟩
    if b < 0x80 then decodeFrom (position + 1) (Char.ofNat b.toNat :: done) rest
    else if b < 0xC2 || 0xF4 < b then fault 1 .invalidStart
    else
      match rest with
      | [] => fault 1 .unexpectedEnd
      | c :: rest =>
        if !isSecond b c then fault 1 .invalidContinuation
        else if b < 0xE0 then
          decodeFrom (position + 2) (Char.ofNat (b.toNat % 0x20 * 0x40 + payload c) :: done) rest
        else
          match rest with
          | [] => fault 2 .unexpectedEnd
          | d :: rest =>
            if !isContinuation d then fault 2 .invalidContinuation
            else if b < 0xF0 then
              decodeFrom (position + 3)
                (Char.ofNat ((b.toNat % 0x10 * 0x40 + payload c) * 0x40 + payload d) :: done) rest
            else
              match rest with
              | [] => fault 3 .unexpectedEnd
              | e :: rest =>
                if !isContinuation e then fault 3 .invalidContinuation
                else
                  decodeFrom (position + 4)
                    (Char.ofNat (((b.toNat % 0x08 * 0x40 + payload c) * 0x40 + payload d) * 0x40
                      + payload e) :: done) rest

def decodeUtf8 (bytes : List UInt8) : Except Utf8Fault (List Char) :=
  decodeFrom 0 [] bytes

/-- Neighbouring halves of surrogate pairs in a text: the first of them, where it stands, and how many
they are. -/
structure Unencodable where
  code : Nat
  position : Nat
  length : Nat
  deriving DecidableEq, Repr

/-- One half is named by its code, several by their first and last position. -/
def Unencodable.message (u : Unencodable) : String :=
  let place :=
    if u.length = 1 then
      "character '\\u" ++ String.ofList (Nat.toDigits 16 u.code) ++ "' in position " ++
        toString u.position
    else
      "characters in position " ++ toString u.position ++ "-" ++
        toString (u.position + u.length - 1)
  "'utf-8' codec can't encode " ++ place ++ ": surrogates not allowed"

/-- The first halves of surrogate pairs among some code points, but for those that are `allowed`. -/
def unencodable? (allowed : Nat → Bool) (codes : List Nat) : Option Unencodable :=
  match codes.dropWhile fun code => !isSurrogate code || allowed code with
  | [] => none
  | code :: rest =>
    some ⟨code, codes.length - (rest.length + 1), (rest.takeWhile isSurrogate).length + 1⟩

/-- The bytes of a text. -/
def encodeUtf8 (s : String) : List UInt8 := (toPlain s).toUTF8.toList

/-- A carriage return, alone or before a line feed, is read as a line feed. -/
def unifyLineEnds : List Char → List Char
  | [] => []
  | '\r' :: '\n' :: rest => '\n' :: unifyLineEnds rest
  | '\r' :: rest => '\n' :: unifyLineEnds rest
  | c :: rest => c :: unifyLineEnds rest

end DocletPreflight.Text
