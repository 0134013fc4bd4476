import Depot.Text.Utf8

/-!
# Encodings of JSON documents

A JSON document may come in UTF-8, UTF-16 or UTF-32, with or without a byte
order mark. `Encoding.detect` tells which one from the first bytes: by the mark,
or by where the zeros are, as a document starts with two ASCII characters.
-/

namespace Depot

/-- How a text is turned into bytes. -/
inductive Encoding where
  | utf8
  | utf16 (bigEndian : Bool)
  | utf32 (bigEndian : Bool)
  deriving DecidableEq

namespace Encoding

/-- The name of an encoding in messages. -/
def name : Encoding → Text
  | .utf8 => "utf-8"
  | .utf16 false => "utf-16-le"
  | .utf16 true => "utf-16-be"
  | .utf32 false => "utf-32-le"
  | .utf32 true => "utf-32-be"

/-- The encoding of a document without a mark. -/
def detectUnmarked : Bytes → Encoding
  | [a, b] => if a = 0 then .utf16 true else if b = 0 then .utf16 false else .utf8
  | a :: b :: c :: d :: _ =>
    if a = 0 then (if b = 0 then .utf32 true else .utf16 true)
    else if b = 0 then (if c = 0 ∧ d = 0 then .utf32 false else .utf16 false)
    else .utf8
  | _ => .utf8

/-- The encoding of a document and the length of its byte order mark. -/
def detect (bs : Bytes) : Encoding × Nat :=
  if [0, 0, 0xfe, 0xff].isPrefixOf bs then (.utf32 true, 4)
  else if [0xff, 0xfe, 0, 0].isPrefixOf bs then (.utf32 false, 4)
  else if [0xfe, 0xff].isPrefixOf bs then (.utf16 true, 2)
  else if [0xff, 0xfe].isPrefixOf bs then (.utf16 false, 2)
  else if [0xef, 0xbb, 0xbf].isPrefixOf bs then (.utf8, 3)
  else (detectUnmarked bs, 0)

/-- The number that bytes write, the most significant one first. -/
def number (bs : Bytes) : Nat := bs.foldl (fun n b => n * 0x100 + b.toNat) 0

/-- The number that bytes write in an order. -/
def unit (bigEndian : Bool) (bs : Bytes) : Nat :=
  number (if bigEndian then bs else bs.reverse)

/-- The text of bytes in UTF-16, `offset` bytes having been read. -/
def decodeUtf16 (bigEndian : Bool) : Nat → Bytes → Except DecodeError Text
  | _, [] => .ok []
  | offset, [a] => .error ⟨name (.utf16 bigEndian), offset, [a], "truncated data"⟩
  | offset, a :: b :: c :: d :: rest =>
    let high := unit bigEndian [a, b]
    let low := unit bigEndian [c, d]
    if CodePoint.arePair high low then
      (decodeUtf16 bigEndian (offset + 4) rest).map (CodePoint.ofNat (CodePoint.ofPair high low) :: ·)
    else
      (decodeUtf16 bigEndian (offset + 2) (c :: d :: rest)).map (CodePoint.ofNat high :: ·)
  | offset, a :: b :: rest =>
    (decodeUtf16 bigEndian (offset + 2) rest).map (CodePoint.ofNat (unit bigEndian [a, b]) :: ·)

/-- The text of bytes in UTF-32, `offset` bytes having been read. -/
def decodeUtf32 (bigEndian : Bool) : Nat → Bytes → Except DecodeError Text
  | _, [] => .ok []
  | offset, a :: b :: c :: d :: rest =>
    let n := unit bigEndian [a, b, c, d]
    if n < 0x110000 then
      (decodeUtf32 bigEndian (offset + 4) rest).map (CodePoint.ofNat n :: ·)
    else
      .error ⟨name (.utf32 bigEndian), offset, [a, b, c, d], "code point not in range(0x110000)"⟩
  | offset, bs => .error ⟨name (.utf32 bigEndian), offset, bs, "truncated data"⟩

/-- The text of a document in the encoding that its first bytes tell, without
    its byte order mark. In UTF-8 places are counted from after the mark. -/
def decodeDocument (bs : Bytes) : Except DecodeError Text :=
  match detect bs with
  | (.utf8, mark) => Utf8.decodeFrom true none 0 (bs.drop mark)
  | (.utf16 bigEndian, mark) => decodeUtf16 bigEndian mark (bs.drop mark)
  | (.utf32 bigEndian, mark) => decodeUtf32 bigEndian mark (bs.drop mark)

end Encoding

end Depot
