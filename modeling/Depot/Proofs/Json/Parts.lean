import Depot.Proofs.Json.Strings
import Mathlib.Data.List.TakeWhile

/-!
# Parts of a JSON text

Strings, words and numbers are read from the characters they are made of and no others: what
is read of such a part in front of one text is read of it in front of every other text that
can follow there. A string goes up to its closing quote whatever is behind it
(`exists_readString`), and so does a word (`exists_word`). A number goes on as long as it can,
and so it has to be followed by something that ends it (`exists_readNumber`).
-/

namespace Depot.Json

variable {t rest : Text} {c : CodePoint} {v : Json}

/-- A step that goes on from another one has gone on from what that one read. -/
theorem exists_of_map_eq_ok {α β : Type} {s : Step α} {f : α × Text → β × Text} {q : β × Text}
    (h : s.map f = .ok q) : ∃ a r, s = .ok (a, r) ∧ f (a, r) = q := by
  cases s with
  | error e => cases h
  | ok p => exact ⟨p.1, p.2, rfl, Except.ok.inj h⟩

/-! ## Strings -/

theorem readPieces_escaped {c e : CodePoint} (hu : c ≠ 'u') (he : escaped? c = some e)
    (opening t : Text) : readPieces opening ('\\' :: c :: t) =
      (readPieces opening t).map fun p => (.char e :: p.1, p.2) := by
  rw [readPieces]
  · simp only [he]
  · exact fun _ _ _ _ _ _ h => absurd h hu
  · exact hu

/-- The characters of a string that were read are read again in front of any text. -/
theorem exists_readPieces {opening : Text} {ps : List Piece}
    (h : readPieces opening t = .ok (ps, rest)) :
    ∃ x, x ≠ [] ∧ t = x ++ rest ∧ ∀ o r, readPieces o (x ++ r) = .ok (ps, r) := by
  -- Each piece but the closing quote goes on with the pieces behind it.
  fun_induction readPieces opening t generalizing ps rest
  case case2 t =>
    obtain ⟨rfl, rfl⟩ := Prod.mk.inj (Except.ok.inj h)
    exact ⟨[.char '"'], by simp, rfl, fun _ _ => rfl⟩
  case case5 a b c d e t n hn ih =>
    obtain ⟨ps', r', hread, heq⟩ := exists_of_map_eq_ok h
    obtain ⟨rfl, rfl⟩ := Prod.mk.inj heq
    obtain ⟨x, hx, ht, hlocal⟩ := ih hread
    refine ⟨.char '\\' :: .char 'u' :: a :: b :: c :: d :: x, by simp, by simp [ht], ?_⟩
    intro o r
    obtain ⟨e', x, rfl⟩ := List.exists_cons_of_ne_nil hx
    simp only [List.cons_append, readPieces, hn]
    rw [← List.cons_append, hlocal]
    rfl
  case case8 c t _ hu e he ih =>
    obtain ⟨ps', r', hread, heq⟩ := exists_of_map_eq_ok h
    obtain ⟨rfl, rfl⟩ := Prod.mk.inj heq
    obtain ⟨x, hx, ht, hlocal⟩ := ih hread
    refine ⟨.char '\\' :: c :: x, by simp, by simp [ht], fun o r => ?_⟩
    rw [List.cons_append, List.cons_append, readPieces_escaped hu he, hlocal]
    rfl
  case case10 c t hq hb _ _ hb' hspace ih =>
    obtain ⟨ps', r', hread, heq⟩ := exists_of_map_eq_ok h
    obtain ⟨rfl, rfl⟩ := Prod.mk.inj heq
    obtain ⟨x, hx, ht, hlocal⟩ := ih hread
    have hback : c ≠ '\\' := fun hc => by
      cases t with
      | nil => exact hb hc rfl
      | cons c' t => exact hb' c' t hc rfl
    refine ⟨c :: x, by simp, by simp [ht], fun o r => ?_⟩
    rw [List.cons_append, readPieces_char hq hback hspace, hlocal]
    rfl
  all_goals cases h

/-- A string that was read is read again in front of any text. -/
theorem exists_readString {s : Text} (h : readString t = .ok (s, rest)) :
    ∃ x, t = x ++ rest ∧ ∀ r, ReadsString (x ++ r) s r := by
  obtain ⟨ps, r', hread, heq⟩ := exists_of_map_eq_ok h
  obtain ⟨rfl, rfl⟩ := Prod.mk.inj heq
  obtain ⟨x, hx, ht, hlocal⟩ := exists_readPieces hread
  refine ⟨x, ht, fun r => ⟨?_, ?_⟩⟩
  · have := List.length_pos_iff.2 hx
    rw [List.length_append]
    omega
  · rw [readString, hlocal]
    rfl

/-! ## Words -/

/-- The word in front of a text and the text behind it. -/
def word? (t : Text) : Option (Json × Text) :=
  words.findSome? fun w => (Text.after? w.1 t).map (w.2, ·)

theorem eq_append_of_after? {w : Text} (h : Text.after? w t = some rest) : t = w ++ rest := by
  rw [Text.after?, Option.ite_none_right_eq_some] at h
  obtain ⟨hword, hrest⟩ := h
  obtain ⟨u, rfl⟩ := List.isPrefixOf_iff_prefix.1 hword
  rw [← Option.some.inj hrest, List.drop_left]

/-- A word that was read is read again in front of any text. -/
theorem exists_word {q : Json × Text} (h : word? t = some q) :
    ∃ w, (w, q.1) ∈ words ∧ t = w ++ q.2 ∧ ∀ d r, Reads d (w ++ r) q.1 r := by
  obtain ⟨w, hw, hq⟩ := List.exists_of_findSome?_eq_some h
  obtain ⟨rest, hafter, rfl⟩ := Option.map_eq_some_iff.1 hq
  refine ⟨w.1, hw, eq_append_of_after? hafter, fun d r => ?_⟩
  -- None of the words is in front of another one.
  simp only [words, List.mem_cons, List.not_mem_nil, or_false] at hw
  rcases hw with rfl | rfl | rfl | rfl | rfl | rfl <;>
    exact reads_of_readValue (by decide) fun _ => rfl

/-! ## Numbers -/

/-- No digit is in front of the text. -/
def NoDigit (t : Text) : Prop := ∀ c ∈ t.head?, Text.digit? c = none

theorem noDigit_nil : NoDigit [] := by simp [NoDigit]

theorem noDigit_cons (h : Text.digit? c = none) : NoDigit (c :: t) := by
  rintro _ ⟨⟩
  exact h

theorem exists_spanDigits (t : Text) :
    ∃ ds rest, spanDigits t = (ds, rest) ∧ t = ds ++ rest ∧ NoDigit rest ∧
      ∀ c ∈ ds, (Text.digit? c).isSome := by
  let isDigit : CodePoint → Bool := fun c => (Text.digit? c).isSome
  refine ⟨t.takeWhile isDigit, t.dropWhile isDigit, List.span_eq_takeWhile_dropWhile ..,
    List.takeWhile_append_dropWhile.symm, fun c hc => ?_,
    fun c hc => List.mem_takeWhile_imp (p := isDigit) hc⟩
  have hstop := List.head?_dropWhile_not isDigit t
  rw [hc] at hstop
  simpa [isDigit] using hstop

theorem spanDigits_append_of_noDigit {ds : Text} (hds : ∀ c ∈ ds, (Text.digit? c).isSome)
    (h : NoDigit rest) : spanDigits (ds ++ rest) = (ds, rest) := by
  have hstop : rest.takeWhile (fun c => (Text.digit? c).isSome) = [] ∧
      rest.dropWhile (fun c => (Text.digit? c).isSome) = rest := by
    cases rest with
    | nil => exact ⟨rfl, rfl⟩
    | cons c rest =>
      have hc : ¬(Text.digit? c).isSome := by simp [h c rfl]
      exact ⟨List.takeWhile_cons_of_neg hc, List.dropWhile_cons_of_neg hc⟩
  rw [spanDigits, List.span_eq_takeWhile_dropWhile, List.takeWhile_append_of_pos hds,
    List.dropWhile_append_of_pos hds, hstop.1, hstop.2, List.append_nil]

theorem noDigit_of_endsNumber (h : rest.head?.all endsNumber) : NoDigit rest := by
  intro c hc
  rw [hc] at h
  exact digit?_of_endsNumber h

/-- The digits of an integral part are read again in front of anything but a digit. -/
theorem exists_wholeDigits {ds : Text} (h : wholeDigits t = (ds, rest)) :
    t = ds ++ rest ∧ (∀ c ∈ ds, (Text.digit? c).isSome) ∧
      (ds ≠ [] → ∀ r, NoDigit r → wholeDigits (ds ++ r) = (ds, r)) := by
  rw [wholeDigits.eq_def] at h
  split at h
  · obtain ⟨rfl, rfl⟩ := Prod.mk.inj h
    exact ⟨rfl, by decide, fun _ _ _ => rfl⟩
  · next hzero =>
    obtain ⟨ds', rest', hspan, ht, _, hdigits⟩ := exists_spanDigits t
    rw [hspan] at h
    obtain ⟨rfl, rfl⟩ := Prod.mk.inj h
    refine ⟨ht, hdigits, fun hne r hr => ?_⟩
    rw [wholeDigits.eq_def]
    split
    · next u hu =>
      -- The first digit is the one in front of the text, which is no zero.
      obtain ⟨c, ds, rfl⟩ := List.exists_cons_of_ne_nil hne
      obtain ⟨rfl, _⟩ := List.cons.inj hu
      exact absurd ht (hzero _)
    · exact spanDigits_append_of_noDigit hdigits hr

theorem fraction_of_head?_ne (h : t.head? ≠ some (.char '.')) : fraction t = ([], t) := by
  rw [fraction.eq_def]
  split
  · contradiction
  · rfl

/-- The text of a fraction, if there is one, is read again in front of anything that does not
    go on with it. -/
theorem exists_fraction {ds : Text} (h : fraction t = (ds, rest)) :
    ∃ x, t = x ++ rest ∧ NoDigit x ∧
      ∀ r, NoDigit r → r.head? ≠ some (.char '.') → fraction (x ++ r) = (ds, r) := by
  -- Without a digit behind it the point is not read either.
  have hnone (t : Text) (h : ([], t) = (ds, rest)) : ∃ x, t = x ++ rest ∧ NoDigit x ∧
      ∀ r, NoDigit r → r.head? ≠ some (.char '.') → fraction (x ++ r) = (ds, r) := by
    obtain ⟨rfl, rfl⟩ := Prod.mk.inj h
    exact ⟨[], rfl, noDigit_nil, fun r _ hr => fraction_of_head?_ne hr⟩
  rw [fraction.eq_def] at h
  split at h
  · next t =>
    obtain ⟨ds', rest', hspan, ht, _, hdigits⟩ := exists_spanDigits t
    simp only [hspan] at h
    split at h
    · exact hnone _ h
    · next hne =>
      obtain ⟨rfl, rfl⟩ := Prod.mk.inj h
      refine ⟨.char '.' :: ds', by rw [ht]; rfl, noDigit_cons rfl, fun r hr _ => ?_⟩
      rw [List.cons_append, fraction]
      simp only [spanDigits_append_of_noDigit hdigits hr, if_neg hne]
  · exact hnone _ h

/-- The sign of an exponent and the text behind it. -/
def exponentSign (t : Text) : Bool × Text :=
  match t with
  | '-' :: t => (true, t)
  | '+' :: t => (false, t)
  | t => (false, t)

theorem exponent?_cons (e : CodePoint) (t : Text) : exponent? (e :: t) =
    if e = 'e' ∨ e = 'E' then
      if (spanDigits (exponentSign t).2).1 = [] then (none, e :: t)
      else (some (if (exponentSign t).1 then -(ofDigits (spanDigits (exponentSign t).2).1 : Int)
        else ofDigits (spanDigits (exponentSign t).2).1), (spanDigits (exponentSign t).2).2)
    else (none, e :: t) := rfl

/-- The sign of an exponent is read again in front of a digit. -/
theorem exists_exponentSign (t : Text) :
    ∃ s, t = s ++ (exponentSign t).2 ∧ ∀ c u, (Text.digit? c).isSome →
      exponentSign (s ++ c :: u) = ((exponentSign t).1, c :: u) := by
  have hnone (c : CodePoint) (u : Text) (hc : (Text.digit? c).isSome) :
      exponentSign (c :: u) = (false, c :: u) := by
    rw [exponentSign.eq_def]
    split
    · next heq =>
      rw [(List.cons.inj heq).1] at hc
      contradiction
    · next heq =>
      rw [(List.cons.inj heq).1] at hc
      contradiction
    · rfl
  rw [exponentSign.eq_def]
  split
  · exact ⟨[.char '-'], rfl, fun _ _ _ => rfl⟩
  · exact ⟨[.char '+'], rfl, fun _ _ _ => rfl⟩
  · exact ⟨[], rfl, hnone⟩

/-- The text of an exponent, if there is one, is read again in front of what ends a number. -/
theorem exists_exponent {power : Option Int} (h : exponent? t = (power, rest)) :
    ∃ x, t = x ++ rest ∧ NoDigit x ∧ x.head? ≠ some (.char '.') ∧
      ∀ r, r.head?.all endsNumber → exponent? (x ++ r) = (power, r) := by
  have hnone (t : Text) (h : (none, t) = (power, rest)) : ∃ x, t = x ++ rest ∧ NoDigit x ∧
      x.head? ≠ some (.char '.') ∧
        ∀ r, r.head?.all endsNumber → exponent? (x ++ r) = (power, r) := by
    obtain ⟨rfl, rfl⟩ := Prod.mk.inj h
    exact ⟨[], rfl, noDigit_nil, by simp, fun r hr => exponent?_of_endsNumber hr⟩
  cases t with
  | nil => exact hnone [] h
  | cons e t =>
    rw [exponent?_cons] at h
    split at h
    · next he =>
      obtain ⟨s, hs, hsign⟩ := exists_exponentSign t
      obtain ⟨ds, rest', hspan, ht, _, hdigits⟩ := exists_spanDigits (exponentSign t).2
      simp only [hspan] at h
      split at h
      · exact hnone _ h
      · next hne =>
        obtain ⟨rfl, rfl⟩ := Prod.mk.inj h
        have hfirst : NoDigit (e :: (s ++ ds)) ∧
            (e :: (s ++ ds)).head? ≠ some (.char '.') := by
          rcases he with rfl | rfl <;> exact ⟨noDigit_cons rfl, by simp⟩
        refine ⟨e :: (s ++ ds), ?_, hfirst.1, hfirst.2, fun r hr => ?_⟩
        · rw [List.cons_append, List.append_assoc, ← ht, ← hs]
        · -- The sign belongs to the exponent because a digit is behind it.
          obtain ⟨c, ds, rfl⟩ := List.exists_cons_of_ne_nil hne
          have hspan' := spanDigits_append_of_noDigit hdigits (noDigit_of_endsNumber hr)
          rw [List.cons_append] at hspan'
          rw [List.cons_append, List.append_assoc, List.cons_append, exponent?_cons, if_pos he,
            hsign c (ds ++ r) (hdigits c List.mem_cons_self)]
          simp only [hspan', if_neg hne]
    · exact hnone _ h

theorem ofDigits_lt (ds : Text) : ofDigits ds < 10 ^ ds.length := by
  rw [ofDigits]
  cases h : Text.toNat? ds with
  | none => exact Nat.pow_pos (by decide)
  | some n => exact Text.toNat?_lt h

theorem NoDigit.append {x : Text} (hx : NoDigit x) (ht : NoDigit t) : NoDigit (x ++ t) := by
  cases x with
  | nil => exact ht
  | cons c x => exact hx

theorem head?_append_ne {x : Text} {c : CodePoint} (hx : x.head? ≠ some c)
    (ht : t.head? ≠ some c) : (x ++ t).head? ≠ some c := by
  cases x with
  | nil => exact ht
  | cons e x => exact hx

/-- An unsigned number that was read is read again in front of what ends it. -/
theorem exists_readUnsigned {negative : Bool} {start : Text}
    (h : readUnsigned negative start t = .ok (v, rest)) :
    ∃ c x, t = c :: x ++ rest ∧ (Text.digit? c).isSome ∧
      (∀ s r, r.head?.all endsNumber → readUnsigned negative s (c :: x ++ r) = .ok (v, r)) ∧
      ((∃ d, v = .double d) ∨
        ∃ i : Int, v = .int i ∧ (Text.ofNat i.natAbs).length ≤ Text.maxDigits) := by
  cases hw : wholeDigits t with | mk whole r₁ =>
  cases hf : fraction r₁ with | mk decimals r₂ =>
  cases he : exponent? r₂ with | mk power r₃ =>
  simp only [readUnsigned, hw, hf, he] at h
  split at h
  · contradiction
  next hne =>
  obtain ⟨rfl, hdigits, hwhole⟩ := exists_wholeDigits hw
  obtain ⟨xf, rfl, hxf, hfraction⟩ := exists_fraction hf
  obtain ⟨xe, rfl, hxe, hpoint, hexponent⟩ := exists_exponent he
  obtain ⟨c, x, rfl⟩ := List.exists_cons_of_ne_nil hne
  -- The three parts are read one after the other.
  have hparts (r : Text) (hr : r.head?.all endsNumber) :
      wholeDigits (c :: x ++ (xf ++ (xe ++ r))) = (c :: x, xf ++ (xe ++ r)) ∧
        fraction (xf ++ (xe ++ r)) = (decimals, xe ++ r) ∧ exponent? (xe ++ r) = (power, r) := by
    have hend := hxe.append (noDigit_of_endsNumber hr)
    refine ⟨hwhole hne _ (hxf.append hend), hfraction _ hend (head?_append_ne hpoint ?_),
      hexponent r hr⟩
    intro hdot
    rw [hdot] at hr
    exact absurd hr (by decide)
  have hdigit := hdigits c List.mem_cons_self
  split at h
  · next hinteger =>
    split at h
    · contradiction
    · next hlength =>
      obtain ⟨rfl, rfl⟩ := Prod.mk.inj (Except.ok.inj h)
      refine ⟨c, x ++ (xf ++ xe), by simp, hdigit, fun s r hr => ?_, .inr ⟨_, rfl, ?_⟩⟩
      · obtain ⟨h₁, h₂, h₃⟩ := hparts r hr
        have htext : c :: (x ++ (xf ++ xe)) ++ r = c :: x ++ (xf ++ (xe ++ r)) := by simp
        simp only [htext, readUnsigned, h₁, h₂, h₃, if_neg hne, if_pos hinteger, if_neg hlength]
      · have hvalue : (if negative then -(ofDigits (c :: x) : Int) else ofDigits (c :: x)).natAbs =
            ofDigits (c :: x) := by
          split <;> simp
        rw [hvalue]
        exact Nat.le_trans (Text.length_ofNat_le (Nat.succ_pos _) (ofDigits_lt _))
          (Nat.not_lt.1 hlength)
  · next hdouble =>
    obtain ⟨rfl, rfl⟩ := Prod.mk.inj (Except.ok.inj h)
    refine ⟨c, x ++ (xf ++ xe), by simp, hdigit, fun s r hr => ?_, .inl ⟨_, rfl⟩⟩
    obtain ⟨h₁, h₂, h₃⟩ := hparts r hr
    have htext : c :: (x ++ (xf ++ xe)) ++ r = c :: x ++ (xf ++ (xe ++ r)) := by simp
    simp only [htext, readUnsigned, h₁, h₂, h₃, if_neg hne, if_neg hdouble]

theorem readNumber_of_isSome (hc : (Text.digit? c).isSome) (t : Text) :
    readNumber (c :: t) = readUnsigned false (c :: t) (c :: t) := by
  rw [readNumber.eq_def]
  split
  · next heq =>
    rw [(List.cons.inj heq).1] at hc
    contradiction
  · rfl

/-- A number that was read is read again in front of what ends it. -/
theorem exists_readNumber (h : readNumber t = .ok (v, rest)) :
    ∃ x, t = x ++ rest ∧ (∀ d r, r.head?.all endsNumber → Reads d (x ++ r) v r) ∧
      ((∃ d, v = .double d) ∨
        ∃ i : Int, v = .int i ∧ (Text.ofNat i.natAbs).length ≤ Text.maxDigits) := by
  have hreads {s : Text} {c : CodePoint} {x : Text} (hs : s = [] ∨ s = [.char '-'])
      (hc : (Text.digit? c).isSome)
      (hread : ∀ r, r.head?.all endsNumber → readNumber (s ++ c :: (x ++ r)) = .ok (v, r))
      (d : Nat) (r : Text) (hr : r.head?.all endsNumber) : Reads d (s ++ c :: x ++ r) v r := by
    refine reads_of_readValue (by simp) fun fuel => ?_
    rw [List.append_assoc, List.cons_append, readValue_number hs hc, hread r hr]
  rw [readNumber.eq_def] at h
  split at h
  · obtain ⟨c, x, rfl, hc, hread, hv⟩ := exists_readUnsigned h
    exact ⟨[.char '-'] ++ c :: x, rfl,
      hreads (s := [.char '-']) (.inr rfl) hc fun r hr => hread _ r hr, hv⟩
  · obtain ⟨c, x, rfl, hc, hread, hv⟩ := exists_readUnsigned h
    refine ⟨c :: x, rfl, hreads (s := []) (.inl rfl) hc fun r hr => ?_, hv⟩
    rw [List.nil_append, readNumber_of_isSome hc]
    exact hread _ r hr

end Depot.Json
