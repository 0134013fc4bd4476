import Depot.Proofs.Json.Spelling
import Depot.Proofs.Results

/-!
# What is beyond the reader

Where a text is no JSON, the reader tells a fault and its place. Besides, it does not read
values that are nested too deep, and no integers with too many digits. Either shows in the
text: it has more brackets than may lie around each other, or more digits in a row than are
read (`shows_of_error`). So a text with neither is read, or its fault is told
(`exists_fault_of_parseFile`).
-/

namespace Depot.Json

variable {d : Nat} {t r : Text} {e : Refusal}

/-- How many brackets of a text open a list or an object, those in strings included. -/
def openings (t : Text) : Nat := t.countP fun c : CodePoint => c = '[' || c = '{'

/-- More digits stand in a row in the text than are read of an integer. -/
def HasManyDigits (t : Text) : Prop :=
  ∃ ds, ds <:+: t ∧ Text.maxDigits < ds.length ∧ ∀ c ∈ ds, (Text.digit? c).isSome

/-- What a refusal shows of the text that is refused, at a place where values may be nested
    so deep. -/
def Shows (d : Nat) (t : Text) : Refusal → Prop
  | .fault .. => True
  | .tooManyDigits _ => HasManyDigits t
  | .tooDeep _ => d < openings t

theorem Shows.of_suffix (h : Shows d r e) (hr : r <:+ t) : Shows d t e := by
  cases e with
  | fault => trivial
  | tooManyDigits n =>
    obtain ⟨ds, hds, hmany⟩ := h
    exact ⟨ds, hds.trans hr.isInfix, hmany⟩
  | tooDeep => exact Nat.lt_of_lt_of_le h hr.sublist.countP_le

/-- A bracket lets values be nested less deep, and is one more. -/
theorem Shows.opening {c : CodePoint} (hc : c = .char '[' ∨ c = .char '{')
    (h : Shows d r e) (hr : r <:+ t) : Shows (d + 1) (c :: t) e := by
  cases e with
  | fault => trivial
  | tooManyDigits n => exact h.of_suffix (hr.trans (List.suffix_cons ..))
  | tooDeep =>
    have hle : openings r ≤ openings t := hr.sublist.countP_le
    have hcount : openings (c :: t) = openings t + 1 := by
      rw [openings, List.countP_cons_of_pos (by simpa using hc), openings]
    have hlt : d < openings r := h
    rw [Shows, hcount]
    omega

/-- Where nothing may be nested any more, a bracket is one too many. -/
theorem shows_tooDeep {c : CodePoint} {container : Container}
    (hc : c = .char '[' ∨ c = .char '{') : Shows 0 (c :: t) (.tooDeep container) := by
  rw [Shows, openings, List.countP_cons_of_pos (by simpa using hc)]
  exact Nat.zero_lt_succ _

theorem skip_suffix (t : Text) : skip t <:+ t := List.dropWhile_suffix _

/-! ## Parts -/

theorem shows_of_refuse {α : Type} {fault : Fault} {here : Text}
    (h : (refuse fault here : Step α) = .error e) : Shows d t e := by
  cases h
  trivial

/-- Of a string only faults are told. -/
theorem shows_of_readPieces {opening : Text} (h : readPieces opening r = .error e) :
    Shows d t e := by
  fun_induction readPieces opening r with
  | case2 => contradiction
  | case5 _ _ _ _ _ _ _ _ ih => exact ih (error_of_map h)
  | case8 _ _ _ _ _ _ ih => exact ih (error_of_map h)
  | case10 _ _ _ _ _ _ _ _ ih => exact ih (error_of_map h)
  | _ => exact shows_of_refuse h

theorem shows_of_readString (h : readString r = .error e) : Shows d t e :=
  shows_of_readPieces (error_of_map h)

theorem shows_of_readUnsigned {negative : Bool} {start : Text} (hr : r <:+ t)
    (h : readUnsigned negative start r = .error e) : Shows d t e := by
  cases hwhole : wholeDigits r with
  | mk whole rest =>
  obtain ⟨rfl, hdigits, _⟩ := exists_wholeDigits hwhole
  rw [readUnsigned, hwhole] at h
  dsimp only at h
  split at h
  · exact shows_of_refuse h
  split at h
  · split at h
    · next hmax =>
      cases h
      exact ⟨whole, (List.infix_append [] whole rest).trans hr.isInfix, hmax, hdigits⟩
    · contradiction
  · contradiction

theorem shows_of_readNumber (h : readNumber t = .error e) : Shows d t e := by
  rw [readNumber.eq_def] at h
  split at h
  · exact shows_of_readUnsigned (List.suffix_cons ..) h
  · exact shows_of_readUnsigned (List.suffix_refl t) h

/-! ## Values -/

/-- What has been read leaves the end of the text. -/
theorem suffix_of_readValue {v : Json} {fuel : Nat} (h : readValue d fuel t = .ok (v, r)) :
    r <:+ t := by
  obtain ⟨x, rfl, _⟩ := (exists_spells fuel).1 d t v r h
  exact List.suffix_append x r

/-! ### One step of a reader

What the readers below it refuse is taken to show in the text that they are given. -/

section

variable {fuel : Nat}
  (hvalue : ∀ {d t e}, readValue d fuel t = .error e → Shows d t e)
  (hitems : ∀ {d t e}, readItems d fuel t = .error e → Shows d t e)
  (hmembers : ∀ {d t e}, readMembers d fuel t = .error e → Shows d t e)

include hitems hmembers in
theorem shows_of_readValue (h : readValue d (fuel + 1) t = .error e) : Shows d t e := by
  cases t with
  | nil => exact shows_of_refuse h
  | cons c t =>
    by_cases hq : c = '"'
    · subst hq
      exact shows_of_readString (error_of_map h)
    -- An opening bracket is refused where nothing may be nested any more, and otherwise
    -- what is refused stands behind it.
    by_cases hl : c = '['
    · subst hl
      cases d with
      | zero =>
        cases h
        exact shows_tooDeep (.inl rfl)
      | succ d =>
        rw [readValue] at h
        split at h
        · contradiction
        · exact (hitems (error_of_map h)).opening (.inl rfl) (skip_suffix t)
    by_cases ho : c = '{'
    · subst ho
      cases d with
      | zero =>
        cases h
        exact shows_tooDeep (.inr rfl)
      | succ d =>
        rw [readValue] at h
        split at h
        · contradiction
        · exact (hmembers (error_of_map h)).opening (.inr rfl) (skip_suffix t)
    rw [readValue_cons hq hl ho] at h
    split at h
    · contradiction
    · exact shows_of_readNumber h

include hvalue hitems in
theorem shows_of_readItems (h : readItems d (fuel + 1) t = .error e) : Shows d t e := by
  rw [readItems] at h
  split at h
  · next hv =>
    cases h
    exact hvalue hv
  next v r hv =>
  have hr := suffix_of_readValue hv
  split at h
  · contradiction
  · next r' hr' =>
    have hrest : skip r' <:+ t := (skip_suffix r').trans ((List.suffix_cons ..).trans
      (hr' ▸ (skip_suffix r).trans hr))
    exact (hitems (error_of_map h)).of_suffix hrest
  · exact shows_of_refuse h

include hvalue hmembers in
theorem shows_of_readMembers (h : readMembers d (fuel + 1) t = .error e) : Shows d t e := by
  rw [readMembers.eq_def] at h
  simp only at h
  split at h
  case h_2 => exact shows_of_refuse h
  next u =>
  split at h
  · next hk =>
    cases h
    exact shows_of_readString hk
  -- Whatever is refused from here on stands in an end of the text.
  next k r₁ hk =>
  obtain ⟨s, rfl, _⟩ := exists_readString hk
  have hr₁ : r₁ <:+ '"' :: (s ++ r₁) := (List.suffix_append s r₁).trans (List.suffix_cons ..)
  split at h
  case h_2 => exact shows_of_refuse h
  next r₂ hcolon =>
  have hr₂ : skip r₂ <:+ '"' :: (s ++ r₁) := ((skip_suffix r₂).trans
    (List.suffix_cons ..)).trans (hcolon ▸ (skip_suffix r₁).trans hr₁)
  split at h
  · next hv =>
    cases h
    exact (hvalue hv).of_suffix hr₂
  next v r₃ hv =>
  have hr₃ := (suffix_of_readValue hv).trans hr₂
  split at h
  · contradiction
  · next r₄ hcomma =>
    have hr₄ : skip r₄ <:+ '"' :: (s ++ r₁) := ((skip_suffix r₄).trans
      (List.suffix_cons ..)).trans (hcomma ▸ (skip_suffix r₃).trans hr₃)
    exact (hmembers (error_of_map h)).of_suffix hr₄
  · exact shows_of_refuse h

end

/-- Whatever is refused besides faults shows in the text. -/
theorem shows_of_error (fuel : Nat) :
    (∀ d t e, readValue d fuel t = .error e → Shows d t e) ∧
    (∀ d t e, readItems d fuel t = .error e → Shows d t e) ∧
    (∀ d t e, readMembers d fuel t = .error e → Shows d t e) := by
  induction fuel with
  | zero =>
    exact ⟨fun _ _ _ h => shows_of_refuse h, fun _ _ _ h => shows_of_refuse h,
      fun _ _ _ h => shows_of_refuse h⟩
  | succ fuel ih =>
    obtain ⟨hvalue, hitems, hmembers⟩ := ih
    exact ⟨fun _ _ _ h => shows_of_readValue (hitems _ _ _) (hmembers _ _ _) h,
      fun _ _ _ h => shows_of_readItems (hvalue _ _ _) (hitems _ _ _) h,
      fun _ _ _ h => shows_of_readMembers (hvalue _ _ _) (hmembers _ _ _) h⟩

/-! ## Whole texts -/

theorem shows_of_readAll (h : readAll t = .error e) : Shows maxDepth t e := by
  rw [readAll] at h
  split at h
  · next hvalue =>
    cases h
    exact ((shows_of_error _).1 _ _ _ hvalue).of_suffix (skip_suffix t)
  · split at h
    · contradiction
    · cases h
      trivial

/-- A text that has no more opening brackets than may lie around each other and no more
    digits in a row than are read is refused for a fault only. -/
theorem exists_fault_of_parse {e : ReadError} (h : parse t = .error e)
    (hopen : openings t ≤ maxDepth) (hdigits : ¬HasManyDigits t) :
    ∃ fault place, e = .syntaxFault fault place := by
  have hread : read t = .error e := error_of_map h
  rw [read] at hread
  split at hread
  · contradiction
  · exact ⟨_, _, (Except.error.inj hread).symm⟩
  · next hall => exact absurd (shows_of_readAll hall) hdigits
  · next hall => exact absurd (shows_of_readAll hall) (Nat.not_lt.2 hopen)

theorem exists_fault_of_parseFile {e : ReadError} (h : parseFile t = .error e)
    (hopen : openings t ≤ maxDepth) (hdigits : ¬HasManyDigits t) :
    ∃ fault place, e = .syntaxFault fault place := by
  rw [parseFile] at h
  split at h
  · exact ⟨_, _, (Except.error.inj h).symm⟩
  · exact exists_fault_of_parse h hopen hdigits

/-! ## Ends of lines -/

/-- The ends of lines are no brackets. -/
theorem openings_unifyLines (t : Text) : openings (Text.unifyLines t) = openings t := by
  rw [openings, openings]
  fun_induction Text.unifyLines t with
  | case1 t ih | case2 t _ ih => simpa using ih
  | case3 c t _ _ ih => rw [List.countP_cons, List.countP_cons, ih]
  | case4 => rfl

/-- Digits in front of a text with unified ends of lines are in front of the text. -/
theorem prefix_of_prefix_unifyLines {ds : Text} (h : ds <+: Text.unifyLines t)
    (hdigits : ∀ c ∈ ds, (Text.digit? c).isSome) : ds <+: t := by
  fun_induction Text.unifyLines t generalizing ds with
  | case1 | case2 =>
    cases ds with
    | nil => exact List.nil_prefix
    | cons d ds =>
      have hd := hdigits d List.mem_cons_self
      obtain ⟨rfl, _⟩ := List.cons_prefix_cons.1 h
      contradiction
  | case3 c t _ _ ih =>
    cases ds with
    | nil => exact List.nil_prefix
    | cons d ds =>
      obtain ⟨rfl, hds⟩ := List.cons_prefix_cons.1 h
      exact List.cons_prefix_cons.2 ⟨rfl, ih hds fun c hc => hdigits c (List.mem_cons_of_mem _ hc)⟩
  | case4 => exact h

theorem infix_of_infix_unifyLines {ds : Text} (h : ds <:+: Text.unifyLines t)
    (hdigits : ∀ c ∈ ds, (Text.digit? c).isSome) : ds <:+: t := by
  -- A break is no digit, so the row starts at the next character or further on.
  fun_induction Text.unifyLines t with
  | case1 t ih =>
    rcases List.infix_cons_iff.1 h with hfront | hrest
    · rw [← Text.unifyLines.eq_1] at hfront
      exact (prefix_of_prefix_unifyLines hfront hdigits).isInfix
    · exact (ih hrest).trans ((List.suffix_cons ..).trans (List.suffix_cons ..)).isInfix
  | case2 t hnext ih =>
    rcases List.infix_cons_iff.1 h with hfront | hrest
    · rw [← Text.unifyLines.eq_2 t hnext] at hfront
      exact (prefix_of_prefix_unifyLines hfront hdigits).isInfix
    · exact (ih hrest).trans (List.suffix_cons ..).isInfix
  | case3 c t hboth hone ih =>
    rcases List.infix_cons_iff.1 h with hfront | hrest
    · rw [← Text.unifyLines.eq_3 c t hboth hone] at hfront
      exact (prefix_of_prefix_unifyLines hfront hdigits).isInfix
    · exact (ih hrest).trans (List.suffix_cons ..).isInfix
  | case4 => exact h

theorem HasManyDigits.of_unifyLines (h : HasManyDigits (Text.unifyLines t)) : HasManyDigits t := by
  obtain ⟨ds, hds, hmany, hdigits⟩ := h
  exact ⟨ds, infix_of_infix_unifyLines hds hdigits, hmany, hdigits⟩

end Depot.Json
