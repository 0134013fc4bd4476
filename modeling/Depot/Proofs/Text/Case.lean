import Depot.Text.Case

/-!
# Lower case, letter by letter

All letters but two have one lower-case form wherever they stand (`IsSteady`), and a text of
these is written in lower case letter by letter (`lower_eq_map`). The characters in front of the
small letters are nobody's lower-case form but their own (`lowerChar_eq_iff`), so that
lower case keeps what a text says in signs.

Small letters of ASCII in the place of capitals leave the lower-case form of a text as it is,
that of a sigma among them included (`lower_map_toSmall`).
-/

namespace Depot.Text

variable {c d : CodePoint} {t u before after : Text}

/-- A character with one lower-case form, which is one character. -/
def IsSteady (c : CodePoint) : Prop := c ≠ 'Σ' ∧ c ≠ 'İ'

instance : DecidablePred IsSteady := fun _ => inferInstanceAs (Decidable (_ ∧ _))

theorem IsSteady.lowerBetween_eq (h : IsSteady c) :
    lowerBetween before c after = [lowerChar c] := by
  rw [lowerBetween, if_neg h.1, if_neg h.2]

/-- Only one letter has a lower-case form of more than one character. -/
theorem exists_lowerBetween_eq (h : c ≠ 'İ') : ∃ d, lowerBetween before c after = [d] := by
  rw [lowerBetween]
  split
  · exact ⟨_, rfl⟩
  · exact ⟨_, rfl⟩

theorem lowerAfter_eq_map (h : ∀ c ∈ t, IsSteady c) : lowerAfter before t = t.map lowerChar := by
  induction t generalizing before with
  | nil => rfl
  | cons c t ih =>
    obtain ⟨hc, ht⟩ := List.forall_mem_cons.1 h
    rw [lowerAfter, hc.lowerBetween_eq, ih ht, List.map_cons, List.singleton_append]

theorem lower_eq_map (h : ∀ c ∈ t, IsSteady c) : lower t = t.map lowerChar := lowerAfter_eq_map h

/-- What comes after a text is in lower case after it, and may look back on it. -/
theorem exists_lowerAfter_append (before t u : Text) :
    ∃ s, lowerAfter before (t ++ u) = s ++ lowerAfter (t.reverse ++ before) u := by
  induction t generalizing before with
  | nil => exact ⟨[], rfl⟩
  | cons c t ih =>
    obtain ⟨s, hs⟩ := ih (c :: before)
    refine ⟨lowerBetween before c (t ++ u) ++ s, ?_⟩
    rw [List.cons_append, lowerAfter, hs, List.append_assoc, List.reverse_cons, List.append_assoc]
    rfl

theorem le_lower_of_mem_caseRuns :
    ∀ r ∈ caseRuns, 'a'.toNat ≤ r.lower ∧ r.lower + (r.last - r.first) < 0x110000 := by
  decide +kernel

/-- A letter that changes changes into a letter. -/
theorem lowerChar_eq_or (c : CodePoint) : lowerChar c = c ∨ 'a'.toNat ≤ (lowerChar c).toNat := by
  rw [lowerChar]
  split
  · next r hr =>
    obtain ⟨hlower, hlast⟩ := le_lower_of_mem_caseRuns r (List.mem_of_find?_eq_some hr)
    have hrun := List.find?_some hr
    simp only [Bool.and_eq_true, decide_eq_true_eq] at hrun
    refine .inr ?_
    rw [CodePoint.toNat_ofNat (by omega)]
    omega
  · exact .inl rfl

/-- A character in front of the small letters that does not change is the lower-case form of no
    other one. -/
theorem lowerChar_eq_iff (hd : d.toNat < 'a'.toNat) (hown : lowerChar d = d) :
    lowerChar c = d ↔ c = d := by
  constructor
  · rintro rfl
    rcases lowerChar_eq_or c with h | h
    · exact h.symm
    · omega
  · rintro rfl
    exact hown

/-! ## Letters of ASCII -/

/-- The small letter of a capital one of ASCII; every other character is its own. -/
def toSmall (c : CodePoint) : CodePoint :=
  if 'A' ≤ c ∧ c ≤ 'Z' then CodePoint.ofNat (c.toNat + ('a'.toNat - 'A'.toNat)) else c

/-- The characters count for the same in lower case. -/
structure IsAlike (c d : CodePoint) : Prop where
  lowerChar : lowerChar c = Text.lowerChar d
  cased : isCased c = isCased d
  ignorable : isCaseIgnorable c = isCaseIgnorable d
  sigma : c = 'Σ' ↔ d = 'Σ'
  dotted : c = 'İ' ↔ d = 'İ'

theorem isAlike_toSmall (c : CodePoint) : IsAlike (toSmall c) c := by
  rw [toSmall]
  split
  · next h =>
    -- There are 26 capitals to look at.
    have hletters : ∀ n ∈ List.range' 'A'.toNat 26,
        let c := CodePoint.ofNat n
        let d := CodePoint.ofNat (n + ('a'.toNat - 'A'.toNat))
        Text.lowerChar d = Text.lowerChar c ∧ isCased d = isCased c ∧
          isCaseIgnorable d = isCaseIgnorable c ∧ (d = 'Σ' ↔ c = 'Σ') ∧ (d = 'İ' ↔ c = 'İ') := by
      decide +kernel
    have hmem : c.toNat ∈ List.range' 'A'.toNat 26 := by
      obtain ⟨hfirst, hlast⟩ : 'A'.toNat ≤ c.toNat ∧ c.toNat ≤ 'Z'.toNat := h
      have hwidth : 'A'.toNat + 25 = 'Z'.toNat := by decide
      rw [List.mem_range'_1]
      omega
    have hc := hletters _ hmem
    rw [CodePoint.ofNat_toNat] at hc
    obtain ⟨hlower, hcased, hignorable, hsigma, hdotted⟩ := hc
    exact ⟨hlower, hcased, hignorable, hsigma, hdotted⟩
  · exact ⟨rfl, rfl, rfl, .rfl, .rfl⟩

theorem meetsCased_map_toSmall (t : Text) : meetsCased (t.map toSmall) = meetsCased t := by
  have hignorable : isCaseIgnorable ∘ toSmall = isCaseIgnorable :=
    funext fun c => (isAlike_toSmall c).ignorable
  rw [meetsCased, meetsCased, List.dropWhile_map, hignorable, List.head?_map, Option.any_map]
  simp only [(isAlike_toSmall _).cased]

theorem lowerBetween_map_toSmall (before : Text) (c : CodePoint) (after : Text) :
    lowerBetween (before.map toSmall) (toSmall c) (after.map toSmall) =
      lowerBetween before c after := by
  have hc := isAlike_toSmall c
  simp only [lowerBetween, hc.sigma, hc.dotted, hc.lowerChar, meetsCased_map_toSmall]

theorem lowerAfter_map_toSmall (before t : Text) :
    lowerAfter (before.map toSmall) (t.map toSmall) = lowerAfter before t := by
  induction t generalizing before with
  | nil => rfl
  | cons c t ih =>
    rw [List.map_cons, lowerAfter, lowerAfter, lowerBetween_map_toSmall, ← List.map_cons, ih]

/-- Small letters in the place of capitals of ASCII are in lower case as the capitals are. -/
theorem lower_map_toSmall (t : Text) : lower (t.map toSmall) = lower t :=
  lowerAfter_map_toSmall [] t

end Depot.Text
