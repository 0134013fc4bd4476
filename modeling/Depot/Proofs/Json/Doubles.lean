import Depot.Proofs.Json.Parts

/-!
# Doubles in a JSON text

A finite double is written in digits with a fraction or an exponent behind them, or with
both. No zero stands in front of other digits, for the shortest digits of a double that is
not zero are not zero either (`Double.shortest_ne_zero`). So the text is that of one number,
and the reader gives a double for it, the same one whatever ends the number
(`exists_reads_double`).
-/

namespace Depot.Double

variable {mantissa n : Nat}

/-! ## The shortest digits -/

/-- Zero lies outside of an interval of positive numbers. -/
theorem candidate?_ne_zero {value low high den c : Nat} {closed : Bool} {place : Int}
    (hlow : 0 < low) (h : candidate? value low high den closed place n = some c) : c ≠ 0 := by
  have hdown : 0 < (if 0 ≤ place - n then (Nat.pow 10 (place - n).toNat, 1)
      else (1, Nat.pow 10 (n - place).toNat) : Nat × Nat).2 := by
    split
    · exact Nat.one_pos
    · exact Nat.pow_pos (by decide)
  rw [candidate?] at h
  generalize (if 0 ≤ place - n then (Nat.pow 10 (place - n).toNat, 1)
      else (1, Nat.pow 10 (n - place).toNat) : Nat × Nat) = scale at h hdown
  obtain ⟨up, down⟩ := scale
  have hpos : 0 < low * down := Nat.mul_pos hlow hdown
  simp only at h
  generalize value * down / (den * up) = below at h
  have hne (hinside : (if closed = true then
      decide (low * down ≤ below * (den * up)) && decide (below * (den * up) ≤ high * down)
      else decide (low * down < below * (den * up)) &&
        decide (below * (den * up) < high * down)) = true) : below ≠ 0 := by
    rintro rfl
    rw [Nat.zero_mul] at hinside
    cases closed with
    | true => simp [Nat.ne_of_gt hpos] at hinside
    | false => simp at hinside
  split at h
  · next hb _ =>
    split at h
    · exact Option.some.inj h ▸ hne hb
    split at h
    · exact Option.some.inj h ▸ Nat.succ_ne_zero _
    split at h
    · exact Option.some.inj h ▸ hne hb
    · exact Option.some.inj h ▸ Nat.succ_ne_zero _
  · next hb _ => exact Option.some.inj h ▸ hne hb
  · exact Option.some.inj h ▸ Nat.succ_ne_zero _
  · contradiction

theorem stripZeros_ne_zero (fuel : Nat) (h : n ≠ 0) : (stripZeros fuel n).1 ≠ 0 := by
  induction fuel generalizing n with
  | zero => exact h
  | succ fuel ih =>
    rw [stripZeros]
    split
    · exact ih (by omega)
    · exact h

theorem shortest_ne_zero (h : mantissa ≠ 0) (exponent : Int) :
    (shortest mantissa exponent).1 ≠ 0 := by
  let ulp := if 0 ≤ exponent then Nat.pow 2 exponent.toNat else 1
  let ratio : Nat × Nat := if 0 ≤ exponent then (mantissa * Nat.pow 2 exponent.toNat, 1)
    else (mantissa, Nat.pow 2 (-exponent).toNat)
  let low := if mantissa = mantissaBound / 2 ∧ minExponent < exponent then 4 * ratio.1 - ulp
    else 4 * ratio.1 - 2 * ulp
  have hulp : 0 < ulp := by
    simp only [ulp]
    split
    · exact Nat.pow_pos (by decide)
    · exact Nat.one_pos
  have hnum : ulp ≤ ratio.1 := by
    simp only [ulp, ratio]
    split
    · exact Nat.le_mul_of_pos_left _ (Nat.pos_of_ne_zero h)
    · exact Nat.pos_of_ne_zero h
  have hlow : 0 < low := by
    simp only [low]
    split <;> omega
  have hgetD {digits : Option (Nat × Int)} (hsome : ∀ p, digits = some p → p.1 ≠ 0) :
      (digits.getD (4 * ratio.1, 0)).1 ≠ 0 := by
    cases digits with
    | none => exact Nat.mul_ne_zero (by decide) (Nat.ne_of_gt (Nat.lt_of_lt_of_le hulp hnum))
    | some p => exact hsome p rfl
  -- The digits are those of a candidate, or of the value itself.
  rw [shortest]
  refine stripZeros_ne_zero 400 (hgetD fun p hp => ?_)
  obtain ⟨k, _, hk⟩ := List.exists_of_findSome?_eq_some hp
  obtain ⟨c, hc, rfl⟩ := Option.map_eq_some_iff.1 hk
  exact candidate?_ne_zero hlow hc

end Depot.Double

namespace Depot.Json

variable {s w x rest t : Text} {negative : Bool}

/-! ## Parts of a number -/

/-- Digits in front of a point or an exponent: a zero stands alone. -/
structure IsWholePart (s : Text) : Prop where
  digits : ∀ c ∈ s, (Text.digit? c).isSome
  leading : s = [.char '0'] ∨ ∃ c t, s = c :: t ∧ c ≠ '0'

theorem isWholePart_zero : IsWholePart ['0'] := ⟨by decide, .inl rfl⟩

/-- The digits of a number that is not zero, and others behind them. -/
theorem isWholePart_ofNat_append {n : Nat} (hn : n ≠ 0)
    (hs : ∀ c ∈ s, (Text.digit? c).isSome) : IsWholePart (Text.ofNat n ++ s) := by
  obtain ⟨c, t, h, _⟩ := Text.exists_ofNat_eq_cons n
  refine ⟨List.forall_mem_append.2 ⟨fun _ => Text.isSome_digit?_of_mem_ofNat, hs⟩,
    .inr ⟨c, t ++ s, by rw [h]; rfl, ?_⟩⟩
  rintro rfl
  exact hn (Text.eq_zero_of_ofNat_eq_cons h)

/-- The first digits of a number that is not zero. -/
theorem isWholePart_take_ofNat {n k : Nat} (hn : n ≠ 0) (hk : 0 < k) :
    IsWholePart ((Text.ofNat n).take k) := by
  obtain ⟨k, rfl⟩ := Nat.exists_eq_add_one_of_ne_zero (Nat.ne_of_gt hk)
  obtain ⟨c, t, h, _⟩ := Text.exists_ofNat_eq_cons n
  refine ⟨fun c hc => Text.isSome_digit?_of_mem_ofNat (List.mem_of_mem_take hc),
    .inr ⟨c, t.take k, by rw [h]; rfl, ?_⟩⟩
  rintro rfl
  exact hn (Text.eq_zero_of_ofNat_eq_cons h)

theorem IsWholePart.ne_nil (h : IsWholePart s) : s ≠ [] := by
  rcases h.leading with rfl | ⟨c, t, rfl, _⟩ <;> simp

theorem wholeDigits_append (h : IsWholePart s) (hrest : NoDigit rest) :
    wholeDigits (s ++ rest) = (s, rest) := by
  rcases h.leading with rfl | ⟨c, t, rfl, hc⟩
  · rfl
  · rw [wholeDigits.eq_def]
    split
    · next heq => exact absurd (List.cons.inj heq).1 hc
    · exact spanDigits_append_of_noDigit h.digits hrest

theorem fraction_point (hne : s ≠ []) (hs : ∀ c ∈ s, (Text.digit? c).isSome)
    (hrest : NoDigit rest) : fraction (.char '.' :: s ++ rest) = (s, rest) := by
  rw [List.cons_append, fraction]
  simp only [spanDigits_append_of_noDigit hs hrest, if_neg hne]

/-- The exponent of a double, with its letter in front. -/
theorem exists_exponent?_eq (power : Int) :
    ∃ x p, ((if power < 0 then "e-" else "e+" : Text) ++ Text.ofNatPadded 2 power.natAbs) =
      .char 'e' :: x ∧ exponent? (.char 'e' :: x) = (some p, []) := by
  have hdigits : ∀ c ∈ Text.ofNatPadded 2 power.natAbs, (Text.digit? c).isSome := by
    refine List.forall_mem_append.2 ⟨fun c hc => ?_, fun _ => Text.isSome_digit?_of_mem_ofNat⟩
    rw [List.eq_of_mem_replicate hc]
    rfl
  have hne : Text.ofNatPadded 2 power.natAbs ≠ [] := by
    simp [Text.ofNatPadded, Text.ofNat_ne_nil]
  have hspan := spanDigits_append_of_noDigit hdigits noDigit_nil
  rw [List.append_nil] at hspan
  generalize Text.ofNatPadded 2 power.natAbs = s at hne hspan
  split
  · refine ⟨.char '-' :: s, -(ofDigits s : Int), rfl, ?_⟩
    rw [exponent?_cons, if_pos (.inl rfl)]
    simp only [exponentSign, hspan, if_neg hne, if_true]
  · refine ⟨.char '+' :: s, ofDigits s, rfl, ?_⟩
    rw [exponent?_cons, if_pos (.inl rfl)]
    simp only [exponentSign, hspan, if_neg hne, Bool.false_eq_true, if_false]

/-- Digits with a fraction or an exponent behind them are a double. -/
theorem exists_readUnsigned_of_parts {f decimals : Text} {power : Option Int}
    (hw : IsWholePart w) (hend : NoDigit (f ++ x)) (hf : fraction (f ++ x) = (decimals, x))
    (hx : exponent? x = (power, [])) (hne : ¬(decimals = [] ∧ power = none)) (negative : Bool)
    (start : Text) : ∃ y, readUnsigned negative start (w ++ (f ++ x)) = .ok (.double y, []) := by
  refine ⟨.ofDecimal negative (ofDigits (w ++ decimals)) (power.getD 0 - decimals.length), ?_⟩
  simp only [readUnsigned, wholeDigits_append hw hend, if_neg hw.ne_nil, hf, hx, if_neg hne]

/-- Digits on both sides of a point are a double. -/
theorem exists_readUnsigned_point (hw : IsWholePart w) (hne : s ≠ [])
    (hs : ∀ c ∈ s, (Text.digit? c).isSome) (negative : Bool) (start : Text) :
    ∃ y, readUnsigned negative start (w ++ .char '.' :: s) = .ok (.double y, []) := by
  have hparts := exists_readUnsigned_of_parts (f := .char '.' :: s) hw (noDigit_cons rfl)
    (fraction_point hne hs noDigit_nil) rfl (fun h => hne h.1) negative start
  rwa [List.append_nil] at hparts

/-! ## Digits of a number that is not zero -/

section

variable {c : Nat} (hc : c ≠ 0) (negative : Bool) (start : Text)

theorem isSome_digit?_of_mem_repeated (n : Nat) :
    ∀ c ∈ Text.repeated n '0', (Text.digit? c).isSome := fun c hc => by
  rw [List.eq_of_mem_replicate hc]
  rfl

/-- The digits all stand behind the point. -/
theorem exists_readUnsigned_behind (c n : Nat) : ∃ y, readUnsigned negative start
    ("0." ++ Text.repeated n '0' ++ Text.ofNat c) = .ok (.double y, []) := by
  have hs : ∀ d ∈ Text.repeated n '0' ++ Text.ofNat c, (Text.digit? d).isSome :=
    List.forall_mem_append.2 ⟨isSome_digit?_of_mem_repeated n,
      fun _ => Text.isSome_digit?_of_mem_ofNat⟩
  rw [List.append_assoc]
  exact exists_readUnsigned_point isWholePart_zero (by simp [Text.ofNat_ne_nil]) hs negative start

include hc

/-- The digits all stand in front of the point. -/
theorem exists_readUnsigned_before (n : Nat) : ∃ y, readUnsigned negative start
    (Text.ofNat c ++ Text.repeated n '0' ++ ".0") = .ok (.double y, []) :=
  exists_readUnsigned_point (s := ['0'])
    (isWholePart_ofNat_append hc (isSome_digit?_of_mem_repeated n)) (by simp) (by decide) negative
    start

/-- The point stands between the digits. -/
theorem exists_readUnsigned_between {k : Nat} (hk : 0 < k) (hlt : k < (Text.ofNat c).length) :
    ∃ y, readUnsigned negative start ((Text.ofNat c).take k ++ "." ++ (Text.ofNat c).drop k) =
      .ok (.double y, []) := by
  rw [List.append_assoc]
  refine exists_readUnsigned_point (isWholePart_take_ofNat hc hk) ?_
    (fun d hd => Text.isSome_digit?_of_mem_ofNat (List.mem_of_mem_drop hd)) negative start
  rw [ne_eq, List.drop_eq_nil_iff]
  omega

/-- One digit stands in front of the point or, if there are no others, of the exponent. -/
theorem exists_readUnsigned_exponent (power : Int) : ∃ y, readUnsigned negative start
    ((Text.ofNat c).take 1 ++
      (if (Text.ofNat c).length = 1 then [] else .char '.' :: (Text.ofNat c).drop 1) ++
      (if power < 0 then "e-" else "e+" : Text) ++ Text.ofNatPadded 2 power.natAbs) =
    .ok (.double y, []) := by
  obtain ⟨x, p, hx, hp⟩ := exists_exponent?_eq power
  have hw := isWholePart_take_ofNat (k := 1) hc (by decide)
  have hend : NoDigit (.char 'e' :: x) := noDigit_cons rfl
  rw [List.append_assoc, List.append_assoc, hx]
  split
  · exact exists_readUnsigned_of_parts hw hend rfl hp (by simp) negative start
  · next hlength =>
    have hdrop : (Text.ofNat c).drop 1 ≠ [] := by
      have := List.length_pos_iff.2 (Text.ofNat_ne_nil c)
      rw [ne_eq, List.drop_eq_nil_iff]
      omega
    have hfraction := fraction_point hdrop
      (fun d hd => Text.isSome_digit?_of_mem_ofNat (List.mem_of_mem_drop hd)) hend
    exact exists_readUnsigned_of_parts hw (noDigit_cons rfl) hfraction hp (by simp) negative start

end

/-! ## Doubles -/

/-- A number after its sign is a number with it. -/
theorem exists_readNumber_signOf
    (h : ∀ start, ∃ y, readUnsigned negative start t = .ok (.double y, [])) :
    ∃ y, readNumber (Double.signOf negative ++ t) = .ok (.double y, []) := by
  cases negative with
  | true => exact h _
  | false =>
    obtain ⟨y, hy⟩ := h t
    obtain ⟨c, x, rfl, hc, _⟩ := exists_readUnsigned hy
    refine ⟨y, ?_⟩
    rw [List.append_nil] at hy ⊢
    exact (readNumber_of_isSome hc x).trans hy

theorem exists_readNumber_finite (negative : Bool) (mantissa : Nat) (exponent : Int) :
    ∃ y, readNumber ((Double.finite negative mantissa exponent).render doubleSpelling) =
      .ok (.double y, []) := by
  rw [Double.render]
  split
  · exact exists_readNumber_signOf fun start =>
      exists_readUnsigned_point (s := ['0']) isWholePart_zero (by simp) (by decide) negative start
  next hne =>
  have hc := Double.shortest_ne_zero hne exponent
  generalize Double.shortest mantissa exponent = shortest at hc
  obtain ⟨c, e⟩ := shortest
  refine exists_readNumber_signOf fun start => ?_
  dsimp only at hc ⊢
  split
  · split
    · exact exists_readUnsigned_behind negative start c _
    split
    · exact exists_readUnsigned_before hc negative start _
    · exact exists_readUnsigned_between hc negative start (by omega) (by omega)
  · exact exists_readUnsigned_exponent hc negative start _

/-- The text of a double is read as some double, whatever ends it. -/
theorem exists_reads_double (x : Double) : ∃ y, ∀ d rest, rest.head?.all endsNumber →
    Reads d (x.render doubleSpelling ++ rest) (.double y) rest := by
  cases x with
  | nan => exact ⟨.nan, fun _ _ _ => reads_of_readValue (by decide) fun _ => rfl⟩
  | infinity negative =>
    cases negative with
    | true => exact ⟨.infinity true, fun _ _ _ => reads_of_readValue (by decide) fun _ => rfl⟩
    | false => exact ⟨.infinity false, fun _ _ _ => reads_of_readValue (by decide) fun _ => rfl⟩
  | finite negative mantissa exponent =>
    obtain ⟨y, hy⟩ := exists_readNumber_finite negative mantissa exponent
    obtain ⟨x, hx, hreads, _⟩ := exists_readNumber hy
    rw [List.append_nil] at hx
    exact ⟨y, fun d rest hrest => hx ▸ hreads d rest hrest⟩

end Depot.Json
