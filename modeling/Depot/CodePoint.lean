/-!
# Code points

What a text is made of. Nearly every code point is a character (`CodePoint.char`).
The others are the halves of surrogate pairs (`CodePoint.half`): two of them encode
one character in UTF-16, and documents can hold one without the other.

Code points are numbered (`CodePoint.toNat`) and ordered by their numbers;
`CodePoint.ofNat` is the code point of a number.
-/

namespace Depot

/-- A code point of a text. -/
inductive CodePoint where
  /-- A character. -/
  | char (c : Char)
  /-- The half of a surrogate pair that has a number among the halves. -/
  | half (n : Fin 0x800)
  deriving DecidableEq

namespace CodePoint

instance : Coe Char CodePoint := ⟨char⟩

instance : Inhabited CodePoint := ⟨'\ufffd'⟩

/-! ## Numbers -/

/-- The number of the first half of a surrogate pair. -/
def firstHalf : Nat := 0xd800

/-- The number of a code point. -/
def toNat : CodePoint → Nat
  | char c => c.toNat
  | half n => firstHalf + n

/-- The code point of a number, U+FFFD if there is none. -/
def ofNat (n : Nat) : CodePoint :=
  if h : n.isValidChar then char (Char.ofNatAux n h)
  else if h : n - firstHalf < 0x800 then half ⟨n - firstHalf, h⟩
  else '\ufffd'

theorem toNat_lt (c : CodePoint) : c.toNat < 0x110000 := by
  cases c with
  | char c =>
    have valid : c.toNat.isValidChar := c.valid
    simp only [Nat.isValidChar] at valid
    simp only [toNat]
    omega
  | half n =>
    have := n.isLt
    simp only [toNat, firstHalf]
    omega

theorem ofNat_toNat (c : CodePoint) : ofNat c.toNat = c := by
  cases c with
  | char c =>
    have valid : c.toNat.isValidChar := c.valid
    exact dif_pos valid
  | half n =>
    have invalid : ¬(firstHalf + n.val).isValidChar := by
      have := n.isLt
      simp only [Nat.isValidChar, firstHalf]
      omega
    have near : firstHalf + n.val - firstHalf < 0x800 := by
      have := n.isLt
      omega
    rw [toNat, ofNat, dif_neg invalid, dif_pos near]
    exact congrArg half (Fin.ext (Nat.add_sub_cancel_left firstHalf n.val))

theorem toNat_ofNat {n : Nat} (h : n < 0x110000) : (ofNat n).toNat = n := by
  by_cases valid : n.isValidChar
  · rw [ofNat, dif_pos valid]
    rfl
  · have near : firstHalf ≤ n ∧ n - firstHalf < 0x800 := by
      simp only [Nat.isValidChar, firstHalf] at valid ⊢
      omega
    rw [ofNat, dif_neg valid, dif_pos near.2]
    exact Nat.add_sub_of_le near.1

theorem toNat_inj {a b : CodePoint} : a.toNat = b.toNat ↔ a = b :=
  ⟨fun h => by rw [← ofNat_toNat a, h, ofNat_toNat], fun h => h ▸ rfl⟩

/-! ## Order -/

instance : LT CodePoint := ⟨fun a b => a.toNat < b.toNat⟩

instance : LE CodePoint := ⟨fun a b => a.toNat ≤ b.toNat⟩

instance (a b : CodePoint) : Decidable (a < b) := inferInstanceAs (Decidable (a.toNat < b.toNat))

instance (a b : CodePoint) : Decidable (a ≤ b) := inferInstanceAs (Decidable (a.toNat ≤ b.toNat))

instance : Std.IsLinearOrder CodePoint where
  le_refl a := Nat.le_refl a.toNat
  le_trans _ _ _ h h' := Nat.le_trans h h'
  le_antisymm _ _ h h' := toNat_inj.1 (Nat.le_antisymm h h')
  le_total a b := Nat.le_total a.toNat b.toNat

instance : Std.LawfulOrderLT CodePoint where
  lt_iff _ _ := Nat.lt_iff_le_and_not_ge

/-! ## Halves of surrogate pairs -/

/-- Whether a code point is half of a surrogate pair. -/
def isHalf : CodePoint → Bool
  | char _ => false
  | half _ => true

theorem valid_of_isHalf_eq_false {c : CodePoint} (h : c.isHalf = false) :
    (c.toNat < firstHalf ∨ 0xe000 ≤ c.toNat) ∧ c.toNat < 0x110000 := by
  cases c with
  | char c =>
    have valid : c.toNat.isValidChar := c.valid
    simp only [Nat.isValidChar] at valid
    simp only [toNat, firstHalf]
    omega
  | half n => contradiction

/-- Whether two numbers are those of the two halves of a surrogate pair. -/
def arePair (high low : Nat) : Bool :=
  firstHalf ≤ high && high < 0xdc00 && 0xdc00 ≤ low && low < 0xe000

/-- The number of the character that the two halves of a surrogate pair encode. -/
def ofPair (high low : Nat) : Nat := 0x10000 + (high - firstHalf) * 0x400 + (low - 0xdc00)

/-! ## Letters and digits of ASCII -/

/-- Whether a code point is an ASCII letter or digit. -/
def isAlphanum (c : CodePoint) : Bool :=
  ('0' ≤ c && c ≤ '9') || ('a' ≤ c && c ≤ 'z') || ('A' ≤ c && c ≤ 'Z')

end CodePoint

end Depot
