import Depot.Proofs.Text.Numbers
import Depot.Toml.Printer
import Depot.Toml.Reader

/-!
# Reading settings back

The value of a setting is written so that it is read back in front of the end of its
line (`readValue_render`). A text stands between double quotes, and each of its
characters is read back from its escape (`readBasic_escape`); a list has an item a line
(`readItems_renderItem`). The name of a setting or a section needs no quotes when it
`IsBare`.
-/

namespace Depot.Toml

variable {n fuel depth : Nat} {c : CodePoint} {name t rest : Text} {ts : List Text}

/-! ## Quoted texts -/

theorem hexNumber?_hex (h : n < 0x10000) : hexNumber? (Text.hex 4 n) = some n := by
  have hdigits : 16 * (16 * (16 * (16 * 0 + n / 0x1000) + n / 0x100 % 0x10) +
      n / 0x10 % 0x10) + n % 0x10 = n := by omega
  rw [Text.hex_four h, hexNumber?]
  simp only [List.foldl_cons, List.foldl_nil, Option.bind_some]
  rw [Text.hexDigit?_digitChar (by omega), Text.hexDigit?_digitChar (by omega),
    Text.hexDigit?_digitChar (by omega), Text.hexDigit?_digitChar (by omega)]
  exact congrArg some hdigits

theorem exists_char_of_isControl (h : isControl c) :
    ∃ k : Char, c = .char k ∧ k.toNat < 0x10000 := by
  rw [isControl, Bool.or_eq_true, Bool.and_eq_true, decide_eq_true_eq, decide_eq_true_eq] at h
  cases c with
  | half n =>
    rcases h with ⟨h, _⟩ | h
    · exact absurd h (Nat.not_lt.2 (Nat.le_add_right_of_le (by decide)))
    · cases h
  | char k =>
    refine ⟨k, rfl, ?_⟩
    rcases h with ⟨h, _⟩ | h
    · exact Nat.lt_trans h (by decide)
    · obtain rfl : k = '\x7f' := by simpa using h
      decide

theorem readBasic_char (hq : c ≠ '"') (hb : c ≠ '\\') (hc : isControl c = false) (t : Text) :
    readBasic (c :: t) = prepend c (readBasic t) := by
  rw [readBasic.eq_def]
  split <;> simp_all

/-- A control character is written with its number. -/
theorem readBasic_control (hc : isControl c) (t : Text) :
    readBasic ('\\' :: 'u' :: (Text.hex 4 c.toNat ++ t)) = prepend c (readBasic t) := by
  obtain ⟨k, rfl, hk⟩ := exists_char_of_isControl hc
  have hnumber : hexNumber? (Text.hex 4 k.toNat) = some k.toNat := hexNumber?_hex hk
  have hscalar (rest : Text) : scalar (Text.hex 4 k.toNat) rest = .ok (.char k) := by
    rw [scalar, hnumber]
    exact dif_pos k.valid
  change readBasic ('\\' :: 'u' :: (Text.hex 4 k.toNat ++ t)) = _
  rw [Text.hex_four hk] at hscalar ⊢
  change prependScalar (scalar _ t) (readBasic t) = _
  rw [hscalar]
  rfl

/-- Every character is read back from its escape. -/
theorem readBasic_escape (c : CodePoint) (t : Text) :
    readBasic (escape c ++ t) = prepend c (readBasic t) := by
  rw [escape]
  -- A backslash and a letter stand for one character each.
  iterate 6
    split
    · next h => subst h; rfl
  split
  · next h => exact readBasic_control h t
  · next hq hb _ _ _ _ h => exact readBasic_char hq hb (Bool.eq_false_iff.2 h) t

theorem readBasic_flatMap_escape (t rest : Text) :
    readBasic (t.flatMap escape ++ .char '"' :: rest) = .ok (t, rest) := by
  induction t with
  | nil => rfl
  | cons c t ih =>
    rw [List.flatMap_cons, List.append_assoc, readBasic_escape, ih]
    rfl

theorem head?_escape (c : CodePoint) (t : Text) : (escape c ++ t).head? ≠ some (.char '"') := by
  rw [escape]
  iterate 7
    split
    · simp
  next hq _ _ _ _ _ _ => simpa using hq

theorem quote_append (t rest : Text) :
    quote t ++ rest = .char '"' :: (t.flatMap escape ++ .char '"' :: rest) := by
  rw [quote, List.cons_append, List.append_assoc]
  rfl

theorem quoted?_of_ne {t : Text} (h : ∀ u, t ≠ .char '"' :: .char '"' :: u) :
    quoted? (.char '"' :: t) = some (readBasic t) := by
  rw [quoted?.eq_def]
  split <;> simp_all

/-- A text between quotes is read back in front of anything but a further quote. -/
theorem readScalar_quote (t : Text) (hrest : rest.head? ≠ some (.char '"')) :
    readScalar (quote t ++ rest) = .ok (.text t, rest) := by
  -- Three quotes would open a text of several lines.
  have hthree : ∀ u, t.flatMap escape ++ .char '"' :: rest ≠ .char '"' :: .char '"' :: u := by
    intro u h
    cases t with
    | nil =>
      obtain rfl : rest = .char '"' :: u := (List.cons.inj h).2
      exact hrest rfl
    | cons c t =>
      rw [List.flatMap_cons, List.append_assoc] at h
      exact head?_escape c _ (congrArg List.head? h)
  rw [readScalar, quote_append, quoted?_of_ne hthree, readBasic_flatMap_escape]
  rfl

theorem readValue_quote (t : Text) (hrest : rest.head? ≠ some (.char '"')) (depth fuel : Nat) :
    readValue depth (fuel + 1) (quote t ++ rest) = .ok (.text t, rest) := by
  rw [← readScalar_quote t hrest, quote_append]
  rfl

/-! ## Lists -/

theorem flatMap_renderItem_cons (t : Text) (ts : List Text) (rest : Text) :
    (t :: ts).flatMap renderItem ++ rest =
      "    " ++ (quote t ++ .char ',' :: .char '\n' :: (ts.flatMap renderItem ++ rest)) := by
  rw [List.flatMap_cons, renderItem]
  simp only [List.cons_append, List.append_assoc]
  rfl

/-- The items of a list, one a line, are read up to the closing bracket. -/
theorem readItems_renderItem (t : Text) (ts : List Text) (rest : Text) (depth : Nat)
    (hf : ts.length + 1 < fuel) :
    readItems depth fuel
        (quote t ++ .char ',' :: .char '\n' :: (ts.flatMap renderItem ++ .char ']' :: rest)) =
      .ok ((t :: ts).map .text, rest) := by
  induction ts generalizing t fuel with
  | nil =>
    obtain _ | _ | fuel := fuel
    · omega
    · omega
    rw [readItems, readValue_quote t (by simp) depth]
    rfl
  | cons t' ts ih =>
    obtain _ | _ | fuel := fuel
    · omega
    · omega
    have hnext : readItems depth (fuel + 1) (quote t' ++ .char ',' :: .char '\n' ::
        (ts.flatMap renderItem ++ .char ']' :: rest)) = .ok ((t' :: ts).map .text, rest) :=
      ih t' (by simpa using hf)
    rw [flatMap_renderItem_cons, readItems, readValue_quote t (by simp) depth]
    rw [quote_append] at hnext ⊢
    -- The end of the line and the blanks before the next item are skipped.
    change (readItems depth (fuel + 1) _).map _ = _
    rw [hnext]
    rfl

theorem length_le_flatMap_renderItem (ts : List Text) :
    ts.length ≤ (ts.flatMap renderItem).length := by
  induction ts with
  | nil => exact Nat.le_refl 0
  | cons t ts ih =>
    rw [List.flatMap_cons, List.length_append, renderItem]
    simp only [List.length_cons]
    omega

/-- A setting is read back in front of the end of its line. -/
theorem readValue_render (s : Setting) (rest : Text) (hdepth : 2 ≤ depth)
    (hf : s.render.length < fuel) :
    readValue depth fuel (s.render ++ .char '\n' :: rest) =
      .ok (s.toValue, .char '\n' :: rest) := by
  obtain _ | fuel := fuel
  · omega
  match s with
  | .text t => exact readValue_quote t (by simp) depth fuel
  | .boolean true => rfl
  | .boolean false => rfl
  | .texts [] =>
    rw [Setting.render, readValue.eq_def]
    exact if_neg (Nat.not_lt.2 hdepth)
  | .texts (t :: ts) =>
    have hlength : ts.length + 1 < fuel := by
      have := length_le_flatMap_renderItem (t :: ts)
      simp only [Setting.render, List.length_cons, List.length_append] at this hf
      omega
    have hitems := readItems_renderItem t ts (.char '\n' :: rest) (depth - 2) hlength
    have htext : (Setting.texts (t :: ts)).render ++ .char '\n' :: rest =
        .char '[' :: .char '\n' :: ((t :: ts).flatMap renderItem ++
          .char ']' :: .char '\n' :: rest) := by
      simp only [Setting.render, List.cons_append, List.append_assoc]
      rfl
    rw [htext, flatMap_renderItem_cons, quote_append, readValue.eq_def]
    rw [quote_append] at hitems
    change (if depth < 2 then _ else (readItems (depth - 2) fuel _).map _) = _
    rw [if_neg (Nat.not_lt.2 hdepth), hitems]
    rfl

/-! ## Names -/

/-- A name that is written without quotes. -/
def IsBare (name : Text) : Prop := name ≠ [] ∧ ∀ c ∈ name, isBare c

instance (name : Text) : Decidable (IsBare name) :=
  inferInstanceAs (Decidable (name ≠ [] ∧ ∀ c ∈ name, isBare c))

theorem IsBare.exists_cons (h : IsBare name) : ∃ c t, name = c :: t ∧ isBare c := by
  obtain ⟨c, t, rfl⟩ := List.exists_cons_of_ne_nil h.1
  exact ⟨c, t, rfl, h.2 c List.mem_cons_self⟩

theorem readName_of_isBare (h : IsBare name) (hrest : rest.head?.all (!isBare ·)) :
    readName (name ++ rest) = .ok (name, rest) := by
  obtain ⟨c, t, rfl, hc⟩ := h.exists_cons
  have hstop : rest.takeWhile isBare = [] ∧ rest.dropWhile isBare = rest := by
    cases rest with
    | nil => exact ⟨rfl, rfl⟩
    | cons c rest =>
      have hc : ¬isBare c := by simpa using hrest
      exact ⟨List.takeWhile_cons_of_neg hc, List.dropWhile_cons_of_neg hc⟩
  have hq : c ≠ '"' := fun hq => by rw [hq] at hc; revert hc; decide
  have hs : c ≠ '\'' := fun hs => by rw [hs] at hc; revert hc; decide
  have hread : readName (c :: t ++ rest) =
      .ok ((c :: t ++ rest).takeWhile isBare, (c :: t ++ rest).dropWhile isBare) := by
    rw [readName.eq_def]
    split <;> simp_all
  rw [hread, List.takeWhile_append_of_pos h.2, List.dropWhile_append_of_pos h.2, hstop.1, hstop.2,
    List.append_nil]

/-- A name without quotes is a key unless a dot follows. -/
theorem readKey_of_isBare (h : IsBare name) (hrest : rest.head?.all (!isBare ·))
    (hdot : (skip rest).head? ≠ some (.char '.')) (fuel : Nat) :
    readKey (fuel + 1) (name ++ rest) = .ok (⟨[], name⟩, skip rest) := by
  rw [readKey, readName_of_isBare h hrest]
  simp only []
  split
  · next heq => simp [heq] at hdot
  · rfl

/-- The name of a setting is read up to its value. -/
theorem readAssigned_of_isBare (h : IsBare name) (rest : Text) :
    readAssigned (name ++ " = " ++ rest) = .ok (⟨[], name⟩, skip rest) := by
  obtain ⟨fuel, hfuel⟩ : ∃ fuel, (name ++ " = " ++ rest).length = fuel + 1 :=
    Nat.exists_eq_add_one_of_ne_zero (by simp [h.1])
  have hskip : skip (" = " ++ rest) = .char '=' :: .char ' ' :: rest := rfl
  have hkey : readKey (fuel + 1) (name ++ (" = " ++ rest)) =
      .ok (⟨[], name⟩, .char '=' :: .char ' ' :: rest) :=
    readKey_of_isBare h rfl (by simp [hskip]) fuel
  rw [readAssigned, hfuel, List.append_assoc, hkey]
  rfl

theorem skip_render_append (s : Setting) (rest : Text) :
    skip (s.render ++ rest) = s.render ++ rest := by
  match s with
  | .text _ => rfl
  | .boolean true => rfl
  | .boolean false => rfl
  | .texts [] => rfl
  | .texts (_ :: _) => rfl

end Depot.Toml
