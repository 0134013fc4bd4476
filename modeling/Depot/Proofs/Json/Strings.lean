import Depot.Proofs.Json.Printing
import Depot.Proofs.Json.Reading
import Mathlib.Data.List.TakeDrop

/-!
# Strings and integers of JSON texts

A string is written character by character, and the escape of each character is
read as one or two pieces (`readPieces_escape`), which are put together again
(`readsString_reread`). Without halves of surrogate pairs this gives the text that
was written (`reread_eq_self`). An integer is read as itself in front of everything
that cannot go on with it (`reads_ofInt`).
-/

namespace Depot.Json

variable {d n : Nat} {c : CodePoint} {t rest : Text} {ps : List Piece}

/-! ## Escapes -/

theorem codeUnit?_digits (h : n < 0x10000) :
    codeUnit? (.char (n / 0x1000).digitChar) (.char (n / 0x100 % 0x10).digitChar)
      (.char (n / 0x10 % 0x10).digitChar) (.char (n % 0x10).digitChar) = some n := by
  have hdigits :
      ((n / 0x1000 * 16 + n / 0x100 % 0x10) * 16 + n / 0x10 % 0x10) * 16 + n % 0x10 = n := by omega
  rw [codeUnit?, Text.hexDigit?_digitChar (by omega), Text.hexDigit?_digitChar (by omega),
    Text.hexDigit?_digitChar (by omega), Text.hexDigit?_digitChar (by omega)]
  exact congrArg some hdigits

/-- The escape of a code unit is read as the code unit. -/
theorem readPieces_escapeUnit (h : n < 0x10000) (ht : t ≠ []) (opening : Text) :
    readPieces opening (escapeUnit n ++ t) =
      (readPieces opening t).map fun p => (.unit n :: p.1, p.2) := by
  obtain ⟨e, t, rfl⟩ := List.exists_cons_of_ne_nil ht
  rw [escapeUnit, Text.hex_four h]
  simp only [List.cons_append, List.nil_append]
  rw [readPieces]
  simp only [codeUnit?_digits h]

/-- The pieces that the escape of a character is read as. -/
def piecesOf (c : CodePoint) : List Piece :=
  if c = '\n' ∨ c = '\r' ∨ c = '\t' ∨ c = '\x08' ∨ c = '\x0c' ∨ (' ' ≤ c ∧ c ≤ '~') then [.char c]
  else if c.toNat < 0x10000 then [.unit c.toNat]
  else
    let n := c.toNat - 0x10000
    [.unit (0xd800 + n / 0x400), .unit (0xdc00 + n % 0x400)]

theorem map_map_step {α β γ : Type} (f : α → β) (g : β → γ) (s : Except Refusal α) :
    (s.map f).map g = s.map fun a => g (f a) := by
  cases s <;> rfl

theorem piecesOf_of_not_mem (h : c ∉ lettered) :
    piecesOf c =
      if ' ' ≤ c ∧ c ≤ '~' then [.char c]
      else if c.toNat < 0x10000 then [.unit c.toNat]
      else
        [.unit (0xd800 + (c.toNat - 0x10000) / 0x400),
          .unit (0xdc00 + (c.toNat - 0x10000) % 0x400)] := by
  simp only [lettered, List.mem_cons, List.not_mem_nil, or_false, not_or] at h
  obtain ⟨-, -, hline, hreturn, htab, herase, hpage⟩ := h
  simp only [piecesOf, hline, hreturn, htab, herase, hpage, false_or]

theorem readPieces_escape (c : CodePoint) (ht : t ≠ []) (opening : Text) :
    readPieces opening (escape c ++ t) =
      (readPieces opening t).map fun p => (piecesOf c ++ p.1, p.2) := by
  by_cases hletter : c ∈ lettered
  · -- A backslash and a letter stand for one character each.
    obtain ⟨e, t, rfl⟩ := List.exists_cons_of_ne_nil ht
    simp only [lettered, List.mem_cons, List.not_mem_nil, or_false] at hletter
    obtain rfl | rfl | rfl | rfl | rfl | rfl | rfl := hletter <;> rfl
  rw [escape_of_not_mem hletter, piecesOf_of_not_mem hletter]
  split
  · next h =>
    have hquote : c ≠ '"' := fun hc => hletter (hc ▸ by decide)
    have hback : c ≠ '\\' := fun hc => hletter (hc ▸ by decide)
    rw [List.singleton_append, readPieces_char hquote hback (Nat.not_lt.2 h.1)]
    rfl
  split
  · next h =>
    rw [readPieces_escapeUnit h ht]
    rfl
  · have := c.toNat_lt
    have hne : escapeUnit (0xdc00 + (c.toNat - 0x10000) % 0x400) ++ t ≠ [] :=
      fun h => ht (List.append_eq_nil_iff.1 h).2
    rw [List.append_assoc, readPieces_escapeUnit (by omega) hne,
      readPieces_escapeUnit (by omega) ht, map_map_step]
    rfl

/-- A string up to its closing quote is read piece by piece. -/
theorem readPieces_flatMap_escape (t opening rest : Text) :
    readPieces opening (t.flatMap escape ++ .char '"' :: rest) =
      .ok (t.flatMap piecesOf, rest) := by
  induction t with
  | nil => rfl
  | cons c t ih =>
    rw [List.flatMap_cons, List.append_assoc, readPieces_escape c (by simp), ih]
    rfl

/-! ## Pieces -/

theorem arePair_eq_false (h : n < CodePoint.firstHalf ∨ 0xe000 ≤ n) (m : Nat) :
    CodePoint.arePair n m = false := by
  rw [← Bool.not_eq_true]
  simp only [CodePoint.arePair, Bool.and_eq_true, decide_eq_true_eq]
  simp only [CodePoint.firstHalf] at h ⊢
  omega

/-- The two halves of a pair encode the number that they were made of. -/
theorem ofPair_halves (n : Nat) :
    CodePoint.ofPair (0xd800 + n / 0x400) (0xdc00 + n % 0x400) = 0x10000 + n := by
  have hhigh : 0xd800 + n / 0x400 - CodePoint.firstHalf = n / 0x400 := Nat.add_sub_cancel_left _ _
  have hlow : 0xdc00 + n % 0x400 - 0xdc00 = n % 0x400 := Nat.add_sub_cancel_left _ _
  unfold CodePoint.ofPair
  rw [hhigh, hlow, Nat.add_assoc, Nat.div_add_mod']

/-- The pieces of a character are put together to the character. -/
theorem ofPieces_piecesOf_append (hc : c.isHalf = false) (ps : List Piece) :
    ofPieces (piecesOf c ++ ps) = c :: ofPieces ps := by
  obtain ⟨hvalid, hlt⟩ := CodePoint.valid_of_isHalf_eq_false hc
  rw [piecesOf]
  split
  · rfl
  split
  · -- A code unit that is no half of a pair goes together with nothing.
    have hself := c.ofNat_toNat
    generalize c.toNat = n at hvalid hself
    subst hself
    rw [List.singleton_append]
    rcases ps with _ | ⟨_ | m, ps⟩
    · rfl
    · rfl
    · rw [ofPieces, arePair_eq_false hvalid]
      rfl
  · next h =>
    -- The two units of a character beyond them are halves of one pair.
    obtain ⟨n, hn⟩ := Nat.exists_eq_add_of_le (Nat.not_lt.1 h)
    have hpair : CodePoint.arePair (0xd800 + n / 0x400) (0xdc00 + n % 0x400) = true := by
      simp only [CodePoint.arePair, Bool.and_eq_true, decide_eq_true_eq]
      simp only [CodePoint.firstHalf]
      omega
    rw [hn, Nat.add_sub_cancel_left]
    simp only [List.cons_append, List.nil_append]
    rw [ofPieces, hpair, ofPair_halves, ← hn, CodePoint.ofNat_toNat]
    rfl

theorem ofPieces_flatMap_piecesOf (ht : ∀ c ∈ t, c.isHalf = false) :
    ofPieces (t.flatMap piecesOf) = t := by
  induction t with
  | nil => rfl
  | cons c t ih =>
    rw [List.flatMap_cons, ofPieces_piecesOf_append (ht c List.mem_cons_self),
      ih fun c hc => ht c (List.mem_cons_of_mem _ hc)]

/-- What is read of a text between quotes. Halves of surrogate pairs may go together. -/
def reread (t : Text) : Text := ofPieces (t.flatMap piecesOf)

theorem reread_eq_self (ht : ∀ c ∈ t, c.isHalf = false) : reread t = t :=
  ofPieces_flatMap_piecesOf ht

theorem readsString_reread (t rest : Text) :
    ReadsString (t.flatMap escape ++ .char '"' :: rest) (reread t) rest where
  shorter := by
    rw [List.length_append, List.length_cons]
    omega
  read := by
    rw [readString, readPieces_flatMap_escape]
    rfl

/-! ## Integers -/

/-- Whether a character ends the text of a number that stands before it. -/
def endsNumber (c : CodePoint) : Bool := isSpace c || c = ',' || c = ']' || c = '}'

theorem digit?_of_endsNumber (h : endsNumber c) : Text.digit? c = none := by
  simp only [endsNumber, isSpace, Bool.or_eq_true, decide_eq_true_eq, or_assoc] at h
  rcases h with rfl | rfl | rfl | rfl | rfl | rfl | rfl <;> decide

theorem spanDigits_append {s : Text} (hs : ∀ c ∈ s, (Text.digit? c).isSome)
    (hrest : rest.head?.all endsNumber) : spanDigits (s ++ rest) = (s, rest) := by
  have hnone : spanDigits rest = ([], rest) := by
    cases rest with
    | nil => rfl
    | cons c rest =>
      have hc := digit?_of_endsNumber (c := c) (by simpa using hrest)
      simp [spanDigits, List.span_eq_takeWhile_dropWhile, hc]
  rw [spanDigits, List.span_eq_takeWhile_dropWhile, Prod.mk.injEq] at hnone
  rw [spanDigits, List.span_eq_takeWhile_dropWhile, List.takeWhile_append_of_pos hs,
    List.dropWhile_append_of_pos hs, hnone.1, hnone.2, List.append_nil]

theorem fraction_of_endsNumber (hrest : rest.head?.all endsNumber) :
    fraction rest = ([], rest) := by
  rw [fraction.eq_def]
  split
  · exact absurd (show endsNumber '.' = true from hrest) (by decide)
  · rfl

theorem exponent?_of_endsNumber (hrest : rest.head?.all endsNumber) :
    exponent? rest = (none, rest) := by
  rw [exponent?.eq_def]
  split
  · rfl
  · next e t =>
    have he : ¬(e = 'e' ∨ e = 'E') := by
      rintro (rfl | rfl)
      · exact absurd (show endsNumber 'e' = true from hrest) (by decide)
      · exact absurd (show endsNumber 'E' = true from hrest) (by decide)
    rw [if_neg he]

theorem wholeDigits_ofNat (n : Nat) (hrest : rest.head?.all endsNumber) :
    wholeDigits (Text.ofNat n ++ rest) = (Text.ofNat n, rest) := by
  have hspan := spanDigits_append (fun c => Text.isSome_digit?_of_mem_ofNat (n := n)) hrest
  rw [wholeDigits.eq_def]
  split
  · next t ht =>
    -- No other number than zero starts with a zero.
    obtain ⟨c, t', hn, _⟩ := Text.exists_ofNat_eq_cons n
    rw [hn, List.cons_append, List.cons.injEq] at ht
    obtain ⟨rfl, rfl⟩ := ht
    obtain rfl := Text.eq_zero_of_ofNat_eq_cons hn
    obtain rfl : t' = [] := (List.cons.inj hn).2.symm
    rfl
  · exact hspan

theorem readUnsigned_ofNat {n : Nat} (hn : (Text.ofNat n).length ≤ Text.maxDigits)
    (hrest : rest.head?.all endsNumber) (negative : Bool) (start : Text) :
    readUnsigned negative start (Text.ofNat n ++ rest) =
      .ok (.int (if negative then -n else n), rest) := by
  have hdigits : ofDigits (Text.ofNat n) = n := by
    rw [ofDigits, Text.toNat?_ofNat]
    rfl
  simp only [readUnsigned, wholeDigits_ofNat n hrest, Text.ofNat_ne_nil, if_false,
    fraction_of_endsNumber hrest, exponent?_of_endsNumber hrest, and_self, if_true,
    Nat.not_lt.2 hn, hdigits]

/-- An integer is read up to what ends it. -/
theorem readNumber_ofInt (i : Int) (hi : (Text.ofNat i.natAbs).length ≤ Text.maxDigits)
    (hrest : rest.head?.all endsNumber) :
    readNumber (Text.ofInt i ++ rest) = .ok (.int i, rest) := by
  cases i with
  | ofNat n =>
    rw [readNumber.eq_def, Text.ofInt]
    split
    · next t ht =>
      obtain ⟨c, t', hn, hdigit⟩ := Text.exists_ofNat_eq_cons n
      rw [hn, List.cons_append, List.cons.injEq] at ht
      rw [ht.1] at hdigit
      contradiction
    · exact readUnsigned_ofNat hi hrest false _
  | negSucc n => exact readUnsigned_ofNat hi hrest true _

/-- No word has a digit among its first two characters, and all have two. -/
theorem digit?_of_mem_words :
    ∀ w ∈ words, 2 ≤ w.1.length ∧ ∀ c ∈ w.1.take 2, Text.digit? c = none := by decide

/-- A text with a digit among its first two characters starts with no word. -/
theorem findSome?_words {s : Text} (hc : (Text.digit? c).isSome) (hs : c ∈ s) (hlen : s.length ≤ 2)
    (t : Text) : (words.findSome? fun w => (Text.after? w.1 (s ++ t)).map (w.2, ·)) = none := by
  rw [List.findSome?_eq_none_iff]
  intro w hw
  obtain ⟨hlong, hdigits⟩ := digit?_of_mem_words w hw
  have hword : ¬w.1.isPrefixOf (s ++ t) := by
    rw [List.isPrefixOf_iff_prefix]
    intro h
    have hfront := List.prefix_of_prefix_length_le (List.prefix_append s t) h (by omega)
    rw [hdigits c ((List.prefix_take_iff.2 ⟨hfront, hlen⟩).mem hs)] at hc
    contradiction
  rw [Text.after?, if_neg hword]
  rfl

/-- A value that starts with no quote and no bracket is a word or a number. -/
theorem readValue_cons {fuel : Nat} (hq : c ≠ '"') (hl : c ≠ '[') (ho : c ≠ '\x7b') (t : Text) :
    readValue d (fuel + 1) (c :: t) =
      match words.findSome? fun w => (Text.after? w.1 (c :: t)).map (w.2, ·) with
      | some found => .ok found
      | none => readNumber (c :: t) := by
  rw [readValue] <;> first | rfl | assumption

/-- What starts with a digit, or with a sign and a digit, is a number. -/
theorem readValue_number {s : Text} {fuel : Nat} (hs : s = [] ∨ s = [.char '-'])
    (hc : (Text.digit? c).isSome) (t : Text) :
    readValue d (fuel + 1) (skip (s ++ c :: t)) = readNumber (s ++ c :: t) := by
  -- What else may start a value, or stand in front of one, is no digit.
  have hne {a : CodePoint} (ha : Text.digit? a = none) : c ≠ a := by
    rintro rfl
    rw [ha] at hc
    contradiction
  have hspace : isSpace c = false := by
    simp [isSpace, hne (a := ' ') (by decide), hne (a := '\t') (by decide),
      hne (a := '\n') (by decide), hne (a := '\r') (by decide)]
  rcases hs with rfl | rfl
  · have hskip : skip (c :: t) = c :: t := List.dropWhile_cons_of_neg (by simp [hspace])
    have hwords := findSome?_words (s := [c]) hc List.mem_cons_self (by simp) t
    rw [List.singleton_append] at hwords
    rw [List.nil_append, hskip,
      readValue_cons (hne (by decide)) (hne (by decide)) (hne (by decide)), hwords]
  · have hskip : skip (.char '-' :: c :: t) = .char '-' :: c :: t := rfl
    have hwords := findSome?_words (s := [.char '-', c]) hc (by simp) (by simp) t
    rw [List.cons_append, List.singleton_append] at hwords
    rw [List.singleton_append, hskip, readValue_cons (by decide) (by decide) (by decide), hwords]

/-- What is read in one step. -/
theorem reads_of_readValue {s : Text} {v : Json} (hs : s ≠ [])
    (h : ∀ fuel, readValue d (fuel + 1) (skip (s ++ rest)) = .ok (v, rest)) :
    Reads d (s ++ rest) v rest := by
  have hpos := List.length_pos_iff.2 hs
  refine ⟨by rw [List.length_append]; omega, fun fuel hf => ?_⟩
  rw [List.length_append] at hf
  obtain ⟨n, rfl⟩ := Nat.exists_eq_add_one_of_ne_zero (by omega : fuel ≠ 0)
  exact h n

/-- A value that is an integer. -/
theorem reads_ofInt {i : Int} (hi : (Text.ofNat i.natAbs).length ≤ Text.maxDigits)
    (hrest : rest.head?.all endsNumber) : Reads d (Text.ofInt i ++ rest) (.int i) rest := by
  have hnumber := readNumber_ofInt i hi hrest
  obtain ⟨s, c, t, h, hs, hc⟩ := Text.exists_ofInt_eq i
  refine reads_of_readValue (by simp [h]) fun fuel => ?_
  rw [h, List.append_assoc, List.cons_append] at hnumber ⊢
  rw [readValue_number hs hc, hnumber]

/-- An integer with too many digits is not read. -/
theorem readNumber_of_tooManyDigits {i : Int} (hi : Text.maxDigits < (Text.ofNat i.natAbs).length)
    (hrest : rest.head?.all endsNumber) :
    readNumber (Text.ofInt i ++ rest) = .error (.tooManyDigits (Text.ofNat i.natAbs).length) := by
  have hread (n : Nat) (hn : Text.maxDigits < (Text.ofNat n).length) (negative : Bool)
      (start : Text) : readUnsigned negative start (Text.ofNat n ++ rest) =
        .error (.tooManyDigits (Text.ofNat n).length) := by
    simp only [readUnsigned, wholeDigits_ofNat n hrest, Text.ofNat_ne_nil, if_false,
      fraction_of_endsNumber hrest, exponent?_of_endsNumber hrest, and_self, if_true, hn]
  cases i with
  | ofNat n =>
    rw [readNumber.eq_def, Text.ofInt]
    split
    · next t' ht =>
      obtain ⟨c, t, h, hc⟩ := Text.exists_ofNat_eq_cons n
      rw [h, List.cons_append, List.cons.injEq] at ht
      rw [ht.1] at hc
      contradiction
    · exact hread n hi false _
  | negSucc n => exact hread (n + 1) hi true _

theorem readValue_of_tooManyDigits {i : Int} {fuel : Nat}
    (hi : Text.maxDigits < (Text.ofNat i.natAbs).length) (hrest : rest.head?.all endsNumber) :
    readValue d (fuel + 1) (skip (Text.ofInt i ++ rest)) =
      .error (.tooManyDigits (Text.ofNat i.natAbs).length) := by
  have hnumber := readNumber_of_tooManyDigits hi hrest
  obtain ⟨s, c, t, h, hs, hc⟩ := Text.exists_ofInt_eq i
  rw [h, List.append_assoc, List.cons_append] at hnumber ⊢
  rw [readValue_number hs hc, hnumber]

end Depot.Json
