import Depot.Proofs.Text.Halves
import Depot.Proofs.Text.Numbers
import Depot.Text.Quoted

/-!
# Quoted texts show as themselves

Whatever is in a text, what it is shown as between quotes consists of printable characters
(`isLegible_quoted`): those of the text, and those of the escapes (`mem_quoted`). So a
character that is neither in the text nor in an escape is not in what is shown.
-/

namespace Depot.Text

variable {t u : Text} {c d quote : CodePoint} {n width : Nat}

/-! ## Printable characters -/

/-- There are only printable characters in the text. -/
def IsLegible (t : Text) : Prop := ∀ c ∈ t, isPrintable c = true

instance (t : Text) : Decidable t.IsLegible :=
  inferInstanceAs (Decidable (∀ c ∈ t, isPrintable c = true))

theorem isLegible_append : IsLegible (t ++ u) ↔ t.IsLegible ∧ u.IsLegible :=
  List.forall_mem_append

/-- A character that is not printable is not in the text. -/
theorem IsLegible.not_mem (h : t.IsLegible) (hc : isPrintable c = false) : c ∉ t := fun hmem => by
  rw [h c hmem] at hc
  contradiction

/-- The halves of surrogate pairs lie in one range of what is not printable. -/
theorem isHalf_eq_false_of_isPrintable (h : isPrintable c = true) : c.isHalf = false := by
  cases c with
  | char c => rfl
  | half n =>
    have hmem : (0xd7fc, 0xf8ff) ∈ unprintableRanges := by decide +kernel
    have hlt := n.isLt
    have hnumber : (CodePoint.half n).toNat = 0xd800 + n := rfl
    rw [isPrintable, hnumber, if_neg (by omega), Bool.not_eq_true', inRanges,
      List.any_eq_false] at h
    exact absurd (h _ hmem) (by simp; omega)

theorem IsLegible.isWhole (h : t.IsLegible) : t.IsWhole :=
  fun c hc => isHalf_eq_false_of_isPrintable (h c hc)

theorem isLegible_ofNat (n : Nat) : IsLegible (ofNat n) := by
  intro c hc
  have hdigit := isSome_digit?_of_mem_ofNat hc
  rw [digit?] at hdigit
  split at hdigit
  · next h =>
    have hle : '0'.toNat ≤ c.toNat := h.1
    have hge : c.toNat ≤ '9'.toNat := h.2
    rw [isPrintable, if_pos (Nat.lt_of_le_of_lt hge (by decide))]
    exact decide_eq_true (Nat.le_trans (by decide) hle)
  · contradiction

/-! ## Escapes -/

theorem exists_digitChar_of_mem_toDigits {c : Char} (h : c ∈ Nat.toDigits 16 n) :
    ∃ k < 16, c = k.digitChar := by
  induction n using Nat.strongRecOn with
  | ind n ih =>
    rcases Nat.lt_or_ge n 16 with hn | hn
    · rw [Nat.toDigits_of_lt_base hn, List.mem_singleton] at h
      exact ⟨n, hn, h⟩
    · rw [Nat.toDigits_of_base_le (by decide) hn, List.mem_append, List.mem_singleton] at h
      rcases h with h | h
      · exact ih (n / 16) (by omega) h
      · exact ⟨n % 16, Nat.mod_lt n (by decide), h⟩

/-- The characters that escapes consist of, and the quotes. -/
def escaping : Text := "'\"\\tnrxuU0123456789abcdef"

theorem mem_escaping_of_mem_hex (h : c ∈ hex width n) : c ∈ escaping := by
  have hall : ∀ k : Fin 16, .char k.val.digitChar ∈ escaping := by decide
  rw [hex, List.mem_append] at h
  rcases h with h | h
  · exact List.eq_of_mem_replicate h ▸ hall 0
  · obtain ⟨_, hmem, rfl⟩ := List.mem_map.1 h
    obtain ⟨k, hk, rfl⟩ := exists_digitChar_of_mem_toDigits hmem
    exact hall ⟨k, hk⟩

theorem mem_escaping_of_mem_cons {mark : CodePoint} (hmark : mark ∈ escaping) (ht : t ⊆ escaping)
    (h : c ∈ .char '\\' :: mark :: t) : c ∈ escaping := by
  rcases List.mem_cons.1 h with rfl | h
  · decide
  rcases List.mem_cons.1 h with rfl | h
  · exact hmark
  · exact ht h

theorem mem_escaping_of_mem_showNumber (h : c ∈ showNumber n) : c ∈ escaping := by
  have hhex (width : Nat) : hex width n ⊆ escaping := fun _ => mem_escaping_of_mem_hex
  rw [showNumber] at h
  split at h
  · exact mem_escaping_of_mem_cons (by decide) (hhex 2) h
  split at h
  · exact mem_escaping_of_mem_cons (by decide) (hhex 4) h
  · exact mem_escaping_of_mem_cons (by decide) (hhex 8) h

/-- A character is shown as itself if it is printable, and else as an escape. -/
theorem mem_showBetween (hquote : quote ∈ escaping) (h : d ∈ showBetween quote c) :
    (d = c ∧ isPrintable c = true) ∨ d ∈ escaping := by
  have hnil : [] ⊆ escaping := List.nil_subset _
  rw [showBetween] at h
  split at h
  · next hc =>
    have hmark : c ∈ escaping := hc.elim (· ▸ hquote) (· ▸ by decide)
    exact .inr (mem_escaping_of_mem_cons hmark hnil h)
  split at h
  · exact .inr (mem_escaping_of_mem_cons (by decide) hnil h)
  split at h
  · exact .inr (mem_escaping_of_mem_cons (by decide) hnil h)
  split at h
  · exact .inr (mem_escaping_of_mem_cons (by decide) hnil h)
  split at h
  · next hc => exact .inl ⟨List.mem_singleton.1 h, hc⟩
  · exact .inr (mem_escaping_of_mem_showNumber h)

/-- What is shown between quotes is printable, and comes from the text or from an escape. -/
theorem mem_quoted (h : c ∈ quoted t) : (c ∈ t ∧ isPrintable c = true) ∨ c ∈ escaping := by
  have hquote : quoteFor t ∈ escaping := by
    rw [quoteFor]
    split <;> decide
  rw [quoted, List.mem_cons, List.mem_append, List.mem_flatMap, List.mem_singleton] at h
  rcases h with rfl | ⟨d, hd, h⟩ | rfl
  · exact .inr hquote
  · rcases mem_showBetween hquote h with ⟨rfl, hc⟩ | h
    · exact .inl ⟨hd, hc⟩
    · exact .inr h
  · exact .inr hquote

/-- Every text is legible between quotes. -/
theorem isLegible_quoted (t : Text) : IsLegible (quoted t) := by
  have hescaping : IsLegible escaping := by decide
  intro c hc
  rcases mem_quoted hc with ⟨_, hc⟩ | hc
  · exact hc
  · exact hescaping c hc

/-- What is neither in the text nor in an escape does not come in by the quotes. -/
theorem not_mem_quoted (hc : c ∉ escaping) (h : c ∉ t) : c ∉ quoted t :=
  fun hmem => (mem_quoted hmem).elim (fun hmem => h hmem.1) hc

end Depot.Text
