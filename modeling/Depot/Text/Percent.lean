import Depot.Text.Utf8

/-!
# Percent encoding

A text as one name of a file: letters, digits and `_.-~` as they are, and every other
byte of its UTF-8 form as `%` and two digits. Only a text with halves of surrogate pairs
has no such form (`encode?`).
-/

namespace Depot.Text.Percent

/-- Whether a byte stands for itself. -/
def isPlain (b : UInt8) : Bool :=
  let c := CodePoint.ofNat b.toNat
  c.isAlphanum || c = '_' || c = '.' || c = '-' || c = '~'

/-- A hexadecimal digit in upper case. -/
def digit (n : Nat) : CodePoint := .char (Nat.digitChar n).toUpper

/-- A byte as it is written. -/
def encodeByte (b : UInt8) : Text :=
  if isPlain b then [CodePoint.ofNat b.toNat] else ['%', digit (b.toNat / 16), digit (b.toNat % 16)]

/-- A text without halves of surrogate pairs as it is written. -/
def encode (t : Text) : Text := (Utf8.encode t).flatMap encodeByte

/-- A text as it is written, if it can be. -/
def encode? (t : Text) : Except EncodeError Text :=
  (Utf8.encode? t).map fun bytes => bytes.flatMap encodeByte

/-- The bytes that a text writes; a `%` without two digits stands for itself. -/
def decodeBytes : Text → Bytes
  | [] => []
  | [c] => Utf8.encodeCodePoint c
  | [c, d] => Utf8.encodeCodePoint c ++ Utf8.encodeCodePoint d
  | c :: d :: e :: t =>
    match c, hexDigit? d, hexDigit? e with
    | '%', some high, some low => UInt8.ofNat (high * 16 + low) :: decodeBytes t
    | c, _, _ => Utf8.encodeCodePoint c ++ decodeBytes (d :: e :: t)

/-- The text that a text writes. -/
def decode (t : Text) : Except DecodeError Text := Utf8.decode (decodeBytes t)

theorem encode_append (s t : Text) : encode (s ++ t) = encode s ++ encode t := by
  simp [encode, Utf8.encode_append]

end Depot.Text.Percent
