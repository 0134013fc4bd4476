import Depot.Text
import Mathlib.Algebra.Group.Nat.Defs

/-!
# Numbers as they are written

A natural number is written in digits without zeros in front (`ofNat_of_lt`,
`ofNat_of_le`), and its digits give it back (`toNat?_ofNat`). Four hexadecimal
digits write a code unit of UTF-16, the most significant one first (`hex_four`).
-/

namespace Depot.Text

variable {n : Nat} {c : CodePoint} {t : Text}

/-! ## Decimal digits -/

theorem ofNat_of_lt (h : n < 10) : ofNat n = [.char n.digitChar] := by
  rw [ofNat, Nat.toDigits_of_lt_base h]
  rfl

theorem ofNat_of_le (h : 10 ≤ n) : ofNat n = ofNat (n / 10) ++ [.char (n % 10).digitChar] := by
  rw [ofNat, Nat.toDigits_of_base_le (by decide) h, ofChars, List.map_append]
  rfl

theorem digit?_digitChar (h : n < 10) : digit? (.char n.digitChar) = some n := by
  have hall : ∀ n : Fin 10, digit? (.char n.val.digitChar) = some n.val := by decide
  exact hall ⟨n, h⟩

theorem ofNat_ne_nil (n : Nat) : ofNat n ≠ [] := by
  rcases Nat.lt_or_ge n 10 with h | h
  · simp [ofNat_of_lt h]
  · simp [ofNat_of_le h]

/-- A number is written in digits. -/
theorem isSome_digit?_of_mem_ofNat (h : c ∈ ofNat n) : (digit? c).isSome := by
  induction n using Nat.strongRecOn with
  | ind n ih =>
    rcases Nat.lt_or_ge n 10 with hn | hn
    · rw [ofNat_of_lt hn, List.mem_singleton] at h
      rw [h, digit?_digitChar hn]
      rfl
    · rw [ofNat_of_le hn, List.mem_append, List.mem_singleton] at h
      rcases h with h | rfl
      · exact ih (n / 10) (by omega) h
      · rw [digit?_digitChar (Nat.mod_lt n (by decide))]
        rfl

/-- A number starts with a digit. -/
theorem exists_ofNat_eq_cons (n : Nat) : ∃ c t, ofNat n = c :: t ∧ (digit? c).isSome := by
  obtain ⟨c, t, h⟩ := List.exists_cons_of_ne_nil (ofNat_ne_nil n)
  exact ⟨c, t, h, isSome_digit?_of_mem_ofNat (h ▸ List.mem_cons_self)⟩

/-- An integer starts with a digit, or with a sign and a digit. -/
theorem exists_ofInt_eq (i : Int) :
    ∃ (s : Text) (c : CodePoint) (t : Text), ofInt i = s ++ c :: t ∧
      (s = [] ∨ s = [.char '-']) ∧ (digit? c).isSome := by
  cases i with
  | ofNat n =>
    obtain ⟨c, t, h, hc⟩ := exists_ofNat_eq_cons n
    exact ⟨[], c, t, h, .inl rfl, hc⟩
  | negSucc n =>
    obtain ⟨c, t, h, hc⟩ := exists_ofNat_eq_cons (n + 1)
    exact ⟨['-'], c, t, congrArg _ h, .inr rfl, hc⟩

/-- What is no digit does not stand in a number. -/
theorem not_mem_ofNat (hc : digit? c = none) : c ∉ ofNat n := by
  intro h
  have := isSome_digit?_of_mem_ofNat h
  rw [hc] at this
  contradiction

/-- No number but zero is written with a zero in front. -/
theorem eq_zero_of_ofNat_eq_cons (h : ofNat n = .char '0' :: t) : n = 0 := by
  induction n using Nat.strongRecOn generalizing t with
  | ind n ih =>
    rcases Nat.lt_or_ge n 10 with hn | hn
    · rw [ofNat_of_lt hn, List.cons.injEq] at h
      have := digit?_digitChar hn
      rw [h.1] at this
      exact (Option.some.inj this).symm
    · rw [ofNat_of_le hn, List.append_eq_cons_iff] at h
      rcases h with ⟨h, _⟩ | ⟨t', h, _⟩
      · exact absurd h (ofNat_ne_nil _)
      · have := ih (n / 10) (by omega) h
        omega

/-- The digits of a number are read as the number. -/
theorem toNat?_ofNat (n : Nat) : toNat? (ofNat n) = some n := by
  rw [toNat?, if_neg (by simp [ofNat_ne_nil])]
  induction n using Nat.strongRecOn with
  | ind n ih =>
    rcases Nat.lt_or_ge n 10 with hn | hn
    · simp [ofNat_of_lt hn, digit?_digitChar hn]
    · have hmod : digit? (.char (n % 10).digitChar) = some (n % 10) :=
        digit?_digitChar (Nat.mod_lt n (by decide))
      rw [ofNat_of_le hn, List.foldl_append, ih (n / 10) (by omega)]
      simp only [List.foldl_cons, List.foldl_nil, Option.bind_some, hmod, Option.map_some]
      rw [Nat.div_add_mod]

theorem digit?_lt (h : digit? c = some n) : n < 10 := by
  rw [digit?, Option.ite_none_right_eq_some] at h
  obtain ⟨⟨_, hle⟩, hn⟩ := h
  obtain rfl := Option.some.inj hn
  have hnine : c.toNat ≤ 57 := hle
  have hzero : '0'.toNat = 48 := rfl
  omega

/-- A number has no more digits than write it. -/
theorem toNat?_lt {t : Text} (h : toNat? t = some n) : n < 10 ^ t.length := by
  let step : Option Nat → CodePoint → Option Nat := fun n c =>
    n.bind fun n => (digit? c).map (10 * n + ·)
  have hnone (t : Text) : t.foldl step none = none := by
    induction t with
    | nil => rfl
    | cons c t ih => exact ih
  -- What was read before counts with the digits it took.
  have hfold (t : Text) (m k : Nat) (hm : m < 10 ^ k) (h : t.foldl step (some m) = some n) :
      n < 10 ^ (k + t.length) := by
    induction t generalizing m k with
    | nil =>
      obtain rfl := Option.some.inj h
      exact hm
    | cons c t ih =>
      have hstep : step (some m) c = (digit? c).map (10 * m + ·) := rfl
      rw [List.foldl_cons, hstep] at h
      cases hc : digit? c with
      | none =>
        rw [hc, Option.map_none, hnone] at h
        contradiction
      | some i =>
        rw [hc, Option.map_some] at h
        have hi := digit?_lt hc
        have hlt := ih (10 * m + i) (k + 1) (by rw [Nat.pow_succ]; omega) h
        rwa [List.length_cons, Nat.add_comm t.length, ← Nat.add_assoc]
  rw [toNat?, Option.ite_none_left_eq_some] at h
  have hlt := hfold t 0 0 (by decide) h.2
  rwa [Nat.zero_add] at hlt

theorem length_ofNat_le {k : Nat} (hk : 0 < k) (h : n < 10 ^ k) : (ofNat n).length ≤ k := by
  induction k generalizing n with
  | zero => contradiction
  | succ k ih =>
    rcases Nat.lt_or_ge n 10 with hn | hn
    · rw [ofNat_of_lt hn]
      exact Nat.le_add_left 1 k
    · have hpos : 0 < k := by
        rcases Nat.eq_zero_or_pos k with rfl | hpos
        · omega
        · exact hpos
      have hdiv : n / 10 < 10 ^ k := by
        rw [Nat.pow_succ] at h
        omega
      rw [ofNat_of_le hn, List.length_append]
      exact Nat.succ_le_succ (ih hpos hdiv)

theorem lt_length_ofNat {k : Nat} (h : 10 ^ k ≤ n) : k < (ofNat n).length :=
  (Nat.pow_lt_pow_iff_right (by decide)).1 (Nat.lt_of_le_of_lt h (toNat?_lt (toNat?_ofNat n)))

/-! ## Hexadecimal digits -/

theorem hexDigit?_digitChar (h : n < 16) : hexDigit? (.char n.digitChar) = some n := by
  have hall : ∀ n : Fin 16, hexDigit? (.char n.val.digitChar) = some n.val := by decide
  exact hall ⟨n, h⟩

/-- The four digits of a number below 2^16. -/
theorem hex_four (h : n < 0x10000) : hex 4 n =
    [.char (n / 0x1000).digitChar, .char (n / 0x100 % 0x10).digitChar,
      .char (n / 0x10 % 0x10).digitChar, .char (n % 0x10).digitChar] := by
  have step {m : Nat} (h : 16 ≤ m) :
      Nat.toDigits 16 m = Nat.toDigits 16 (m / 16) ++ [(m % 16).digitChar] :=
    Nat.toDigits_of_base_le (by decide) h
  have last {m : Nat} (h : m < 16) : Nat.toDigits 16 m = [m.digitChar] :=
    Nat.toDigits_of_lt_base h
  have h100 : n / 0x100 = n / 16 / 16 := by omega
  have h1000 : n / 0x1000 = n / 16 / 16 / 16 := by omega
  rw [h1000, h100, hex]
  -- As many zeros are put in front as there are digits missing.
  rcases Nat.lt_or_ge n 16 with h₁ | h₁
  · rw [last h₁, Nat.mod_eq_of_lt h₁, Nat.div_eq_of_lt h₁]
    rfl
  rcases Nat.lt_or_ge (n / 16) 16 with h₂ | h₂
  · rw [step h₁, last h₂, Nat.mod_eq_of_lt h₂, Nat.div_eq_of_lt h₂]
    rfl
  rcases Nat.lt_or_ge (n / 16 / 16) 16 with h₃ | h₃
  · rw [step h₁, step h₂, last h₃, Nat.mod_eq_of_lt h₃, Nat.div_eq_of_lt h₃]
    rfl
  · rw [step h₁, step h₂, step h₃, last (by omega)]
    rfl

end Depot.Text
