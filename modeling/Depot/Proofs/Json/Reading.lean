import Depot.Json.Reader

/-!
# Reading JSON part by part

`Reads d t v rest`: in front of the text `t` stands the value `v`, nested at
most `d` deep, and `rest` is the text behind it. The relation is put together
as the text is: what is read of a list or an object follows from what is read of
its items or members, each in front of the text that comes next
(`Reads.list`, `ReadsMembers.cons` and so on). Blanks may stand wherever the
reader skips them.

A value may also be refused. `Gives d t rest r` covers both: `r` is the value, or the reason
for which it is refused. What comes of a list or an object follows from what comes of its
parts (`ItemsGive.cons`, `Gives.list` and so on).

The reader counts its steps and every step is paid for by a character, so that
twice the length of a text is always enough. A whole text that is read in this
way is what `Json.read` gives (`read_of_reads`).
-/

namespace Depot.Json

/-- What comes of the value in front of `t`: it is read, and `rest` is behind it, or it is
    refused. -/
def Gives (d : Nat) (t rest : Text) (r : Except Refusal Json) : Prop :=
  ∀ fuel, 2 * t.length ≤ fuel → readValue d fuel (skip t) = r.map fun v => (v, rest)

/-- What comes of the items of a list in front of `t`, up to its closing bracket. -/
def ItemsGive (d : Nat) (t rest : Text) (rs : Except Refusal (List Json)) : Prop :=
  ∀ fuel, 2 * t.length < fuel → readItems d fuel (skip t) = rs.map fun vs => (vs, rest)

/-- What comes of the members of an object in front of `t`, up to its closing brace. -/
def MembersGive (d : Nat) (t rest : Text) (rs : Except Refusal (List (Text × Json))) : Prop :=
  ∀ fuel, 2 * t.length < fuel → readMembers d fuel (skip t) = rs.map fun ms => (ms, rest)

/-- In front of `t` stands the value `v`, and `rest` is behind it. -/
structure Reads (d : Nat) (t : Text) (v : Json) (rest : Text) : Prop where
  shorter : rest.length < t.length
  read : Gives d t rest (.ok v)

/-- In front of `t` stand the items `vs` of a list and its closing bracket. -/
structure ReadsItems (d : Nat) (t : Text) (vs : List Json) (rest : Text) : Prop where
  shorter : rest.length < t.length
  read : ItemsGive d t rest (.ok vs)

/-- In front of `t` stand the members `ms` of an object and its closing brace. -/
structure ReadsMembers (d : Nat) (t : Text) (ms : List (Text × Json)) (rest : Text) :
    Prop where
  shorter : rest.length < t.length
  read : MembersGive d t rest (.ok ms)

/-- The reason is no fault of the text. -/
def Refusal.IsLimit : Refusal → Prop
  | .fault .. => False
  | .tooManyDigits _ | .tooDeep _ => True

/-- In front of `t` stands the rest of a string that spells `s`, with its closing
    quote. -/
structure ReadsString (t s rest : Text) : Prop where
  shorter : rest.length < t.length
  read : readString t = .ok (s, rest)

variable {d : Nat} {t b k s rest : Text} {v : Json} {vs : List Json}
  {ms : List (Text × Json)} {r : Except Refusal Json} {rs : Except Refusal (List Json)}
  {rm : Except Refusal (List (Text × Json))}

/-! ## Blanks -/

theorem length_skip_le (t : Text) : (skip t).length ≤ t.length :=
  (List.dropWhile_suffix _).length_le

theorem skip_append {b : Text} (hb : ∀ c ∈ b, isSpace c) (t : Text) : skip (b ++ t) = skip t :=
  List.dropWhile_append_of_pos hb

theorem length_lt_of_skip_eq_cons {c : CodePoint} {r : Text} (h : skip t = c :: r) :
    r.length < t.length := by
  have := length_skip_le t
  rw [h, List.length_cons] at this
  omega

section

variable (hb : ∀ c ∈ b, isSpace c)

include hb

theorem Gives.blank (h : Gives d t rest r) : Gives d (b ++ t) rest r := fun fuel hf => by
  rw [skip_append hb]
  rw [List.length_append] at hf
  exact h fuel (by omega)

theorem ItemsGive.blank (h : ItemsGive d t rest rs) : ItemsGive d (b ++ t) rest rs :=
  fun fuel hf => by
    rw [skip_append hb]
    rw [List.length_append] at hf
    exact h fuel (by omega)

theorem MembersGive.blank (h : MembersGive d t rest rm) : MembersGive d (b ++ t) rest rm :=
  fun fuel hf => by
    rw [skip_append hb]
    rw [List.length_append] at hf
    exact h fuel (by omega)

omit hb in
theorem length_lt_append (h : rest.length < t.length) (b : Text) :
    rest.length < (b ++ t).length := by
  rw [List.length_append]
  omega

/-- Blanks in front of a value are skipped. -/
theorem Reads.blank (h : Reads d t v rest) : Reads d (b ++ t) v rest :=
  ⟨length_lt_append h.shorter b, .blank hb h.read⟩

/-- Blanks in front of the items of a list are skipped. -/
theorem ReadsItems.blank (h : ReadsItems d t vs rest) : ReadsItems d (b ++ t) vs rest :=
  ⟨length_lt_append h.shorter b, .blank hb h.read⟩

/-- Blanks in front of the members of an object are skipped. -/
theorem ReadsMembers.blank (h : ReadsMembers d t ms rest) : ReadsMembers d (b ++ t) ms rest :=
  ⟨length_lt_append h.shorter b, .blank hb h.read⟩

end

/-! ## Strings -/

/-- A text that stands between quotes as it is: without quotes, backslashes and
    control characters. -/
def IsPlain (t : Text) : Prop := ∀ c ∈ t, c ≠ '"' ∧ c ≠ '\\' ∧ ¬c < ' '

instance (t : Text) : Decidable (IsPlain t) :=
  inferInstanceAs (Decidable (∀ c ∈ t, c ≠ '"' ∧ c ≠ '\\' ∧ ¬c < ' '))

theorem readPieces_char {c : CodePoint} (hq : c ≠ '"') (hb : c ≠ '\\') (hc : ¬c < ' ')
    (opening t : Text) :
    readPieces opening (c :: t) =
      (readPieces opening t).map fun p => (.char c :: p.1, p.2) := by
  rw [readPieces.eq_def]
  split <;> simp_all

theorem ofPieces_chars (t : Text) : ofPieces (t.map .char) = t := by
  induction t with
  | nil => rfl
  | cons c t ih => rw [List.map_cons, ofPieces, ih]

theorem readPieces_of_isPlain {s : Text} (hs : IsPlain s) (opening rest : Text) :
    readPieces opening (s ++ .char '"' :: rest) = .ok (s.map .char, rest) := by
  induction s with
  | nil => rfl
  | cons c s ih =>
    obtain ⟨hq, hb, hc⟩ := hs c List.mem_cons_self
    rw [List.cons_append, readPieces_char hq hb hc, ih fun c hc => hs c (List.mem_cons_of_mem _ hc)]
    rfl

/-- A plain text spells itself. -/
theorem readsString_of_isPlain {s : Text} (hs : IsPlain s) (rest : Text) :
    ReadsString (s ++ .char '"' :: rest) s rest where
  shorter := by
    rw [List.length_append, List.length_cons]
    omega
  read := by
    rw [readString, readPieces_of_isPlain hs]
    exact congrArg (fun s => Except.ok (s, rest)) (ofPieces_chars s)

/-- A value that is a string. -/
theorem Reads.text (h : ReadsString t s rest) : Reads d ('"' :: t) (.text s) rest where
  shorter := Nat.lt_succ_of_lt h.shorter
  read
    | 0, hf => absurd hf (by simp)
    | fuel + 1, _ => by
      change (readString t).map (fun p => (Json.text p.1, p.2)) = _
      rw [h.read]
      rfl

/-! ## Lists -/

/-- The empty list. -/
theorem Reads.emptyList (h : skip t = .char ']' :: rest) :
    Reads (d + 1) ('[' :: t) (.list []) rest where
  shorter := Nat.lt_succ_of_lt (length_lt_of_skip_eq_cons h)
  read
    | 0, hf => absurd hf (by simp)
    | fuel + 1, _ => by
      rw [show skip (.char '[' :: t) = .char '[' :: t from rfl, readValue, h]
      rfl

theorem readItems_bracket (fuel : Nat) (t : Text) :
    ∃ n, readItems d fuel (']' :: t) = .error (.fault .value n) := by
  rcases fuel with _ | _ | fuel
  · exact ⟨_, rfl⟩
  · exact ⟨_, rfl⟩
  · exact ⟨_, rfl⟩

/-- A list with items. They are not refused for a fault, as the bracket of an empty list
    would be. -/
theorem Gives.list (h : ItemsGive d t rest rs) (hlimit : ∀ e, rs = .error e → e.IsLimit) :
    Gives (d + 1) ('[' :: t) rest (rs.map .list) := by
  intro fuel hf
  rw [List.length_cons] at hf
  obtain ⟨fuel, rfl⟩ := Nat.exists_eq_add_one_of_ne_zero (by omega : fuel ≠ 0)
  have hread := h fuel (by omega)
  rw [show skip (.char '[' :: t) = .char '[' :: t from rfl, readValue]
  split
  · next u hu =>
    obtain ⟨n, hn⟩ := readItems_bracket (d := d) fuel u
    rw [hu, hn] at hread
    cases rs with
    | error e => exact (hlimit _ (congrArg Except.error (Except.error.inj hread).symm)).elim
    | ok vs => contradiction
  · rw [hread]
    cases rs <;> rfl

theorem Reads.list (h : ReadsItems d t vs rest) : Reads (d + 1) ('[' :: t) (.list vs) rest :=
  ⟨Nat.lt_succ_of_lt h.shorter, Gives.list h.read nofun⟩

/-- The last item of a list. -/
theorem ItemsGive.last {r₁ : Text} (h : Gives d t r₁ r) (hr : skip r₁ = .char ']' :: rest) :
    ItemsGive d t rest (r.map fun v => [v]) := by
  intro fuel hf
  obtain ⟨fuel, rfl⟩ := Nat.exists_eq_add_one_of_ne_zero (Nat.ne_zero_of_lt hf)
  rw [readItems, h fuel (by omega)]
  cases r with
  | error e => rfl
  | ok v => simp only [Except.map, hr]

theorem ReadsItems.last {r : Text} (h : Reads d t v r) (hr : skip r = .char ']' :: rest) :
    ReadsItems d t [v] rest :=
  ⟨Nat.lt_trans (length_lt_of_skip_eq_cons hr) h.shorter, .last h.read hr⟩

/-- An item of a list in front of others. -/
theorem ItemsGive.cons {r₁ r₂ : Text} (h : Gives d t r₁ r) (hshorter : r₁.length < t.length)
    (hr : skip r₁ = .char ',' :: r₂) (hs : ItemsGive d r₂ rest rs) :
    ItemsGive d t rest (do return (← r) :: (← rs)) := by
  intro fuel hf
  obtain ⟨fuel, rfl⟩ := Nat.exists_eq_add_one_of_ne_zero (Nat.ne_zero_of_lt hf)
  have hlt := Nat.lt_trans (length_lt_of_skip_eq_cons hr) hshorter
  rw [readItems, h fuel (by omega)]
  cases r with
  | error e => rfl
  | ok v =>
    simp only [Except.map, hr, hs fuel (by omega)]
    cases rs <;> rfl

theorem ReadsItems.cons {r r' : Text} (h : Reads d t v r) (hr : skip r = .char ',' :: r')
    (hs : ReadsItems d r' vs rest) : ReadsItems d t (v :: vs) rest :=
  ⟨Nat.lt_trans hs.shorter (Nat.lt_trans (length_lt_of_skip_eq_cons hr) h.shorter),
    .cons h.read h.shorter hr hs.read⟩

/-! ## Objects -/

/-- The empty object. -/
theorem Reads.emptyObject (h : skip t = .char '}' :: rest) :
    Reads (d + 1) ('{' :: t) (.object []) rest where
  shorter := Nat.lt_succ_of_lt (length_lt_of_skip_eq_cons h)
  read
    | 0, hf => absurd hf (by simp)
    | fuel + 1, _ => by
      rw [show skip (.char '{' :: t) = .char '{' :: t from rfl, readValue, h]
      rfl

theorem readMembers_brace (fuel : Nat) (t : Text) :
    ∃ n, readMembers d fuel ('}' :: t) = .error (.fault .key n) := by
  cases fuel <;> exact ⟨_, rfl⟩

/-- An object with members. They are not refused for a fault, as the brace of an empty object
    would be. -/
theorem Gives.object (h : MembersGive d t rest rm) (hlimit : ∀ e, rm = .error e → e.IsLimit) :
    Gives (d + 1) ('{' :: t) rest (rm.map .object) := by
  intro fuel hf
  rw [List.length_cons] at hf
  obtain ⟨fuel, rfl⟩ := Nat.exists_eq_add_one_of_ne_zero (by omega : fuel ≠ 0)
  have hread := h fuel (by omega)
  rw [show skip (.char '{' :: t) = .char '{' :: t from rfl, readValue]
  split
  · next u hu =>
    obtain ⟨n, hn⟩ := readMembers_brace (d := d) fuel u
    rw [hu, hn] at hread
    cases rm with
    | error e => exact (hlimit _ (congrArg Except.error (Except.error.inj hread).symm)).elim
    | ok ms => contradiction
  · rw [hread]
    cases rm <;> rfl

theorem Reads.object (h : ReadsMembers d t ms rest) :
    Reads (d + 1) ('{' :: t) (.object ms) rest :=
  ⟨Nat.lt_succ_of_lt h.shorter, Gives.object h.read nofun⟩

section

variable {r₁ r₂ r₃ r₄ : Text} (hk : ReadsString t k r₁) (h₁ : skip r₁ = .char ':' :: r₂)

include hk h₁

/-- A key and a colon take characters. -/
theorem length_lt_of_key : r₂.length < ('"' :: t : Text).length := by
  have := hk.shorter
  have := length_lt_of_skip_eq_cons h₁
  rw [List.length_cons]
  omega

/-- The last member of an object. -/
theorem MembersGive.last (hv : Gives d r₂ r₃ r) (h₃ : skip r₃ = .char '}' :: rest) :
    MembersGive d ('"' :: t) rest (r.map fun v => [(k, v)]) := by
  intro fuel hf
  obtain ⟨fuel, rfl⟩ := Nat.exists_eq_add_one_of_ne_zero (Nat.ne_zero_of_lt hf)
  have := length_lt_of_key hk h₁
  rw [show skip (.char '"' :: t) = .char '"' :: t from rfl, readMembers, hk.read]
  simp only [h₁, hv fuel (by omega)]
  cases r with
  | error e => rfl
  | ok v => simp only [Except.map, h₃]

theorem ReadsMembers.last (hv : Reads d r₂ v r₃) (h₃ : skip r₃ = .char '}' :: rest) :
    ReadsMembers d ('"' :: t) [(k, v)] rest where
  shorter := Nat.lt_trans (Nat.lt_trans (length_lt_of_skip_eq_cons h₃) hv.shorter)
    (length_lt_of_key hk h₁)
  read := .last hk h₁ hv.read h₃

/-- A member of an object in front of others. -/
theorem MembersGive.cons (hv : Gives d r₂ r₃ r) (hshorter : r₃.length < r₂.length)
    (h₃ : skip r₃ = .char ',' :: r₄) (hs : MembersGive d r₄ rest rm) :
    MembersGive d ('"' :: t) rest (do return (k, ← r) :: (← rm)) := by
  intro fuel hf
  obtain ⟨fuel, rfl⟩ := Nat.exists_eq_add_one_of_ne_zero (Nat.ne_zero_of_lt hf)
  have := length_lt_of_key hk h₁
  have := length_lt_of_skip_eq_cons h₃
  rw [show skip (.char '"' :: t) = .char '"' :: t from rfl, readMembers, hk.read]
  simp only [h₁, hv fuel (by omega)]
  cases r with
  | error e => rfl
  | ok v =>
    simp only [Except.map, h₃, hs fuel (by omega)]
    cases rm <;> rfl

theorem ReadsMembers.cons (hv : Reads d r₂ v r₃) (h₃ : skip r₃ = .char ',' :: r₄)
    (hs : ReadsMembers d r₄ ms rest) : ReadsMembers d ('"' :: t) ((k, v) :: ms) rest where
  shorter := Nat.lt_trans hs.shorter (Nat.lt_trans (length_lt_of_skip_eq_cons h₃)
    (Nat.lt_trans hv.shorter (length_lt_of_key hk h₁)))
  read := .cons hk h₁ hv.read hv.shorter h₃ hs.read

end

/-! ## Whole texts -/

/-- A text with one value in it is read as this value. -/
theorem read_of_reads (h : Reads maxDepth t v rest) (hrest : skip rest = []) :
    Json.read t = .ok v := by
  simp only [Json.read, readAll, h.read (2 * t.length + 2) (by omega), Except.map, hrest, if_true]

/-- A text has one value in front of it. -/
theorem Reads.unique {v' : Json} {rest' : Text} (h : Reads d t v rest)
    (h' : Reads d t v' rest') : v = v' ∧ rest = rest' := by
  have := (h.read _ (Nat.le_refl _)).symm.trans (h'.read _ (Nat.le_refl _))
  exact Prod.mk.inj (Except.ok.inj this)

/-! ## What is refused -/

/-- A member with a value that is refused. -/
theorem readMembers_of_error {fuel : Nat} {e : Refusal} {r r' : Text}
    (hk : readString t = .ok (k, r)) (hr : skip r = .char ':' :: r')
    (hv : readValue d fuel (skip r') = .error e) :
    readMembers d (fuel + 1) ('"' :: t) = .error e := by
  simp only [readMembers, hk, hr, hv]

/-- An object with a first member that is refused. -/
theorem readValue_object_of_error {fuel : Nat} {e : Refusal} (ht : skip t = .char '"' :: rest)
    (h : readMembers d fuel ('"' :: rest) = .error e) :
    readValue (d + 1) (fuel + 1) ('{' :: t) = .error e := by
  rw [readValue, ht]
  split
  · next heq => cases heq
  · rw [h]
    rfl

/-- A list with a first item, an object, that is refused. -/
theorem readValue_list_of_error {fuel : Nat} {e : Refusal} (ht : skip t = .char '{' :: rest)
    (h : readValue d fuel ('{' :: rest) = .error e) :
    readValue (d + 1) (fuel + 2) ('[' :: t) = .error e := by
  rw [readValue, ht]
  split
  · next heq => cases heq
  · rw [readItems, h]
    rfl

/-- A text is refused for an integer with too many digits as soon as the reader refuses its
    value, however many steps it may take beyond some. -/
theorem parse_of_tooManyDigits {n k : Nat} (hk : k ≤ 2 * t.length + 2)
    (h : ∀ fuel, readValue maxDepth (fuel + k) (skip t) = .error (.tooManyDigits n)) :
    Json.parse t = .error (.tooManyDigits n) := by
  obtain ⟨fuel, hfuel⟩ := Nat.exists_eq_add_of_le' hk
  rw [Json.parse, Json.read, readAll, hfuel, h]
  rfl

end Depot.Json
