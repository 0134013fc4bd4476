import Depot.Text

/-!
# UTF-8

Texts as bytes. `Utf8.encode` writes each character with as many bytes as it
needs. `Utf8.decode` reads byte by byte and refuses at the first byte that no
text can have at its place; the bytes of the unfinished character before it are
what the refusal names.

Half of a surrogate pair is no character, and its three bytes are refused like
any others, unless the reader is asked to let them pass. `Utf8.encode?` refuses
to write one, `Utf8.encode` writes the three bytes.
-/

namespace Depot

/-- What a file holds. -/
abbrev Bytes := List UInt8

/-- Why bytes are no text. -/
structure DecodeError where
  /-- The encoding that they were read in. -/
  encoding : Text
  /-- The number of bytes before the ones refused. -/
  start : Nat
  /-- The bytes refused, at least one. -/
  refused : Bytes
  /-- What is wrong with them. -/
  reason : Text
  deriving DecidableEq

/-- Why the bytes are no text, in words. -/
def DecodeError.message (e : DecodeError) : Text :=
  let what : Text :=
    match e.refused with
    | [b] => "byte 0x" ++ Text.hex 2 b.toNat ++ " in position " ++ Text.ofNat e.start
    | bs =>
      "bytes in position " ++ Text.ofNat e.start ++ "-" ++ Text.ofNat (e.start + bs.length - 1)
  "'" ++ e.encoding ++ "' codec can't decode " ++ what ++ ": " ++ e.reason

/-- Why a text cannot be turned into bytes. -/
structure EncodeError where
  /-- The number of characters before the ones refused. -/
  start : Nat
  /-- The halves of surrogate pairs refused, at least one. -/
  refused : Text
  deriving DecidableEq

/-- Why the text cannot be turned into bytes, in words. -/
def EncodeError.message (e : EncodeError) : Text :=
  let what : Text :=
    match e.refused with
    | [c] => "character '\\u" ++ Text.hex 4 c.toNat ++ "' in position " ++ Text.ofNat e.start
    | cs =>
      "characters in position " ++ Text.ofNat e.start ++ "-" ++ Text.ofNat (e.start + cs.length - 1)
  "'utf-8' codec can't encode " ++ what ++ ": surrogates not allowed"

/-- Why bytes and a text do not go with each other. -/
inductive CodecError where
  | decode (e : DecodeError)
  | encode (e : EncodeError)
  deriving DecidableEq

/-- Why they do not, in words. -/
def CodecError.message : CodecError → Text
  | .decode e => e.message
  | .encode e => e.message

namespace Utf8

/-! ## Writing -/

/-- A continuation byte with six bits of a number. -/
def tail (n : Nat) : UInt8 := UInt8.ofNat (0x80 + n % 0x40)

/-- The bytes of a character. -/
def encodeCodePoint (c : CodePoint) : Bytes :=
  let n := c.toNat
  if n < 0x80 then [UInt8.ofNat n]
  else if n < 0x800 then [UInt8.ofNat (0xc0 + n / 0x40), tail n]
  else if n < 0x10000 then [UInt8.ofNat (0xe0 + n / 0x1000), tail (n / 0x40), tail n]
  else [UInt8.ofNat (0xf0 + n / 0x40000), tail (n / 0x1000), tail (n / 0x40), tail n]

/-- The bytes of a text. -/
def encode (t : Text) : Bytes := t.flatMap encodeCodePoint

/-- The bytes of a text, unless it has halves of surrogate pairs. The first ones are
    refused, as many as there are one after the other. -/
def encode? (t : Text) : Except EncodeError Bytes :=
  let isPlain (c : CodePoint) : Bool := !c.isHalf
  match (t.dropWhile isPlain).takeWhile CodePoint.isHalf with
  | [] => .ok (encode t)
  | halves => .error ⟨(t.takeWhile isPlain).length, halves⟩

/-! ## Reading -/

/-- A character of which some bytes were read: the bytes, the bits in them, how
    many bytes are still to come, and between which values the next one lies. -/
structure Pending where
  /-- The bytes read. -/
  seen : Bytes
  /-- The number that their bits make. -/
  bits : Nat
  /-- How many bytes come after the next one. -/
  more : Nat
  /-- The least value of the next byte. -/
  low : Nat
  /-- The greatest value of the next byte. -/
  high : Nat

/-- The character that a byte beyond ASCII starts, if it starts one. -/
def start? (surrogates : Bool) (b : UInt8) : Option Pending :=
  let n := b.toNat
  if 0xc2 ≤ n ∧ n ≤ 0xdf then some ⟨[b], n - 0xc0, 0, 0x80, 0xbf⟩
  else if 0xe0 ≤ n ∧ n ≤ 0xef then
    let low := if n = 0xe0 then 0xa0 else 0x80
    let high := if n = 0xed ∧ !surrogates then 0x9f else 0xbf
    some ⟨[b], n - 0xe0, 1, low, high⟩
  else if 0xf0 ≤ n ∧ n ≤ 0xf4 then
    let low := if n = 0xf0 then 0x90 else 0x80
    let high := if n = 0xf4 then 0x8f else 0xbf
    some ⟨[b], n - 0xf0, 2, low, high⟩
  else none

/-- The refusal of an unfinished character, `offset` bytes having been read. The
    start of half a surrogate pair is refused as soon as its first byte. -/
def refuse (p : Pending) (offset : Nat) (reason : Text) : DecodeError :=
  let start := offset - p.seen.length
  match p.seen with
  | b :: s :: _ =>
    if b = 0xed ∧ 0xa0 ≤ s then ⟨"utf-8", start, [b], "invalid continuation byte"⟩
    else ⟨"utf-8", start, p.seen, reason⟩
  | seen => ⟨"utf-8", start, seen, reason⟩

/-- The text of bytes after `offset` other ones, a character being read when
    `pending` is given. -/
def decodeFrom (surrogates : Bool) : Option Pending → Nat → Bytes → Except DecodeError Text
  | none, _, [] => .ok []
  | some p, offset, [] => .error (refuse p offset "unexpected end of data")
  | none, offset, b :: bs =>
    if b < 0x80 then
      (decodeFrom surrogates none (offset + 1) bs).map (CodePoint.ofNat b.toNat :: ·)
    else
      match start? surrogates b with
      | some p => decodeFrom surrogates (some p) (offset + 1) bs
      | none => .error ⟨"utf-8", offset, [b], "invalid start byte"⟩
  | some p, offset, b :: bs =>
    if p.low ≤ b.toNat ∧ b.toNat ≤ p.high then
      let bits := p.bits * 0x40 + (b.toNat - 0x80)
      match p.more with
      | 0 => (decodeFrom surrogates none (offset + 1) bs).map (CodePoint.ofNat bits :: ·)
      | more + 1 =>
        decodeFrom surrogates (some ⟨p.seen ++ [b], bits, more, 0x80, 0xbf⟩) (offset + 1) bs
    else .error (refuse p offset "invalid continuation byte")

/-- The text that bytes encode. -/
def decode (bs : Bytes) : Except DecodeError Text := decodeFrom false none 0 bs

theorem encode_append (s t : Text) : encode (s ++ t) = encode s ++ encode t := by
  simp [encode]

end Utf8

end Depot
