import Depot.Proofs.Text.Halves
import Depot.Proofs.Text.Utf8
import Depot.Text.Percent
import Mathlib.Data.List.TakeWhile

/-!
# Reading what was percent encoded

What is written of a byte is read as the byte, whatever comes after it
(`Percent.decodeBytes_encodeByte`). So the one name that a text is encoded to tells
the text (`Percent.encode_inj`), also a text that no file name can hold, and a text
without halves of surrogate pairs is read back (`Percent.decode_encode`).

Whatever the text, its name is spelled with letters, digits and a few signs
(`Percent.isWritten_of_mem_encode`). A text has a name exactly if it is whole
(`Percent.encode?_of_isWhole`, `Utf8.exists_encode?_eq_error`).
-/

namespace Depot.Utf8

variable {t : Text}

theorem encode?_of_isWhole (h : t.IsWhole) : encode? t = .ok (encode t) := by
  have hrest : (t.dropWhile fun c => !c.isHalf) = [] :=
    List.dropWhile_eq_nil_iff.2 fun c hc => by rw [h c hc, Bool.not_false]
  rw [encode?, hrest]
  rfl

/-- The first halves of surrogate pairs in a text are refused. -/
theorem exists_encode?_eq_error (h : ¬t.IsWhole) : ∃ e, encode? t = .error e := by
  rw [encode?]
  split
  · next hnone =>
    -- What is behind the characters in front starts with a half.
    have hhead := List.head?_dropWhile_not (fun c : CodePoint => !c.isHalf) t
    cases hrest : t.dropWhile fun c => !c.isHalf with
    | nil => exact absurd (fun c hc => by simpa using List.dropWhile_eq_nil_iff.1 hrest c hc) h
    | cons c u =>
      rw [hrest] at hnone hhead
      rw [List.takeWhile_cons_of_pos (by simpa using hhead)] at hnone
      contradiction
  · exact ⟨_, rfl⟩

end Depot.Utf8

namespace Depot.Text.Percent

variable {b : UInt8} {c : CodePoint} {t u : Text}

/-- A byte that stands for itself is one of ASCII, and no percent sign. -/
theorem lt_of_isPlain (h : isPlain b) : b.toNat < 0x80 ∧ CodePoint.ofNat b.toNat ≠ '%' := by
  have hbyte : ∀ n < 256, isPlain (UInt8.ofNat n) → n < 0x80 ∧ CodePoint.ofNat n ≠ '%' := by
    decide +kernel
  exact hbyte b.toNat b.toNat_lt (by rwa [UInt8.ofNat_toNat])

theorem encodeCodePoint_of_lt (h : b.toNat < 0x80) :
    Utf8.encodeCodePoint (CodePoint.ofNat b.toNat) = [b] := by
  rw [Utf8.encodeCodePoint, CodePoint.toNat_ofNat (by omega), if_pos h, UInt8.ofNat_toNat]

theorem hexDigit?_digit {n : Nat} (h : n < 16) : hexDigit? (digit n) = some n := by
  have hdigit : ∀ n < 16, hexDigit? (digit n) = some n := by decide
  exact hdigit n h

theorem decodeBytes_cons_of_ne (h : c ≠ '%') (t : Text) :
    decodeBytes (c :: t) = Utf8.encodeCodePoint c ++ decodeBytes t := by
  match t with
  | [] => simp [decodeBytes]
  | [d] => simp [decodeBytes]
  | d :: e :: t =>
    rw [decodeBytes]
    exact fun _ _ hc => absurd hc h

/-- What is written of a byte is read as the byte. -/
theorem decodeBytes_encodeByte (b : UInt8) (t : Text) :
    decodeBytes (encodeByte b ++ t) = b :: decodeBytes t := by
  rw [encodeByte]
  split
  · next hplain =>
    obtain ⟨hlt, hne⟩ := lt_of_isPlain hplain
    rw [List.singleton_append, decodeBytes_cons_of_ne hne, encodeCodePoint_of_lt hlt]
    rfl
  · have hbyte := b.toNat_lt
    have hhigh : hexDigit? (digit (b.toNat / 16)) = some (b.toNat / 16) :=
      hexDigit?_digit (by omega)
    have hlow : hexDigit? (digit (b.toNat % 16)) = some (b.toNat % 16) :=
      hexDigit?_digit (by omega)
    have hbits : b.toNat / 16 * 16 + b.toNat % 16 = b.toNat := by omega
    simp only [List.cons_append, List.nil_append]
    rw [decodeBytes.eq_4 _ _ _ _ _ hhigh hlow, hbits, UInt8.ofNat_toNat]

theorem decodeBytes_encode (t : Text) : decodeBytes (encode t) = Utf8.encode t := by
  rw [encode]
  induction Utf8.encode t with
  | nil => rfl
  | cons b bs ih => rw [List.flatMap_cons, decodeBytes_encodeByte, ih]

/-- Different texts are encoded to different names. -/
theorem encode_inj : encode t = encode u ↔ t = u := by
  refine ⟨fun h => Utf8.encode_inj.1 ?_, congrArg encode⟩
  rw [← decodeBytes_encode, h, decodeBytes_encode]

/-- The text is read back from what was written of it. -/
theorem decode_encode (h : t.IsWhole) : decode (encode t) = .ok t := by
  rw [decode, decodeBytes_encode, Utf8.decode_encode h]

/-! ## Names -/

theorem encode?_of_isWhole (h : t.IsWhole) : encode? t = .ok (encode t) := by
  rw [encode?, Utf8.encode?_of_isWhole h]
  rfl

theorem encode?_of_error {e : EncodeError} (h : Utf8.encode? t = .error e) :
    encode? t = .error e := by
  rw [encode?, h]
  rfl

/-! ## Characters -/

/-- An ASCII letter, a digit or one of the signs in a text that was encoded. -/
def IsWritten (c : CodePoint) : Prop :=
  'A' ≤ c ∧ c ≤ 'Z' ∨ 'a' ≤ c ∧ c ≤ 'z' ∨ '0' ≤ c ∧ c ≤ '9' ∨
    c = '_' ∨ c = '.' ∨ c = '-' ∨ c = '~' ∨ c = '%'

instance : DecidablePred IsWritten := fun c =>
  inferInstanceAs (Decidable ('A' ≤ c ∧ c ≤ 'Z' ∨ 'a' ≤ c ∧ c ≤ 'z' ∨ '0' ≤ c ∧ c ≤ '9' ∨
    c = '_' ∨ c = '.' ∨ c = '-' ∨ c = '~' ∨ c = '%'))

theorem isWritten_of_mem_encode (h : c ∈ encode t) : IsWritten c := by
  have hbyte : ∀ n < 256, ∀ c ∈ encodeByte (UInt8.ofNat n), IsWritten c := by decide +kernel
  obtain ⟨b, -, hc⟩ := List.mem_flatMap.1 h
  exact hbyte b.toNat b.toNat_lt c (by rwa [UInt8.ofNat_toNat])

end Depot.Text.Percent
