import Depot.Proofs.Json.Members
import Depot.Proofs.Json.Parts
import Depot.Proofs.Json.RoundTrip

/-!
# Texts that spell a value

`Spells d x v`: whatever ends the text `x`, it is read as the value `v`, nested at most `d`
deep. Wherever the reader gives a value, the text that it has read spells it
(`exists_spells`), and what the text stands for is faithful as soon as it has no doubles and
no halves of surrogate pairs in it (`Spells.faithful`).
-/

namespace Depot.Json

variable {d d' e fuel : Nat} {t b x y z k s rest : Text} {v w : Json} {vs : List Json}
  {ms : List (Text × Json)}

/-! ## Values that are read without loss -/

/-- Values without doubles and without halves of surrogate pairs. -/
inductive IsExact : Json → Prop
  | null : IsExact .null
  | bool (b : Bool) : IsExact (.bool b)
  | int (i : Int) : IsExact (.int i)
  | text {t : Text} (h : ∀ c ∈ t, c.isHalf = false) : IsExact (.text t)
  | list {vs : List Json} (h : ∀ v ∈ vs, IsExact v) : IsExact (.list vs)
  | object {ms : List (Text × Json)} (hk : ∀ m ∈ ms, ∀ c ∈ m.1, c.isHalf = false)
      (h : ∀ m ∈ ms, IsExact m.2) : IsExact (.object ms)

/-! ## Blanks -/

/-- A text of blanks. -/
def Blanks (b : Text) : Prop := ∀ c ∈ b, isSpace c

theorem exists_blanks (t : Text) : ∃ b, Blanks b ∧ t = b ++ skip t :=
  ⟨t.takeWhile isSpace, fun _ hc => List.mem_takeWhile_imp hc,
    List.takeWhile_append_dropWhile.symm⟩

/-- Blanks and what ends a number end a number. -/
theorem Blanks.endsNumber_append (hb : Blanks b) (ht : t.head?.all endsNumber) :
    (b ++ t).head?.all endsNumber := by
  cases b with
  | nil => exact ht
  | cons c b =>
    have hc := hb c List.mem_cons_self
    simp [endsNumber, hc]

/-! ## Spellings -/

/-- Whatever ends the text `x`, the value `v` is read of it, nested at most `d` deep. -/
structure Spells (d : Nat) (x : Text) (v : Json) : Prop where
  reads : ∀ d' r, d ≤ d' → r.head?.all endsNumber → Reads d' (x ++ r) v r
  faithful : IsExact v.collapse → Faithful d v.collapse

/-- The text spells the items of a list and its closing bracket. -/
inductive SpellsItems (d : Nat) : Text → List Json → Prop
  | last {b x b' : Text} {v : Json} (hb : Blanks b) (hx : Spells d x v) (hb' : Blanks b') :
      SpellsItems d (b ++ (x ++ (b' ++ [.char ']']))) [v]
  | cons {b x b' z : Text} {v : Json} {vs : List Json} (hb : Blanks b) (hx : Spells d x v)
      (hb' : Blanks b') (hz : SpellsItems d z vs) :
      SpellsItems d (b ++ (x ++ (b' ++ .char ',' :: z))) (v :: vs)

/-- The text spells a key and the colon behind it. -/
inductive SpellsKey (k : Text) : Text → Prop
  | intro {b s b' b'' : Text} (hb : Blanks b) (hs : ∀ r, ReadsString (s ++ r) k r)
      (hb' : Blanks b') (hb'' : Blanks b'') :
      SpellsKey k (b ++ .char '"' :: (s ++ (b' ++ .char ':' :: b'')))

/-- The text spells the members of an object and its closing brace. -/
inductive SpellsMembers (d : Nat) : Text → List (Text × Json) → Prop
  | last {y x b k : Text} {v : Json} (hy : SpellsKey k y) (hx : Spells d x v) (hb : Blanks b) :
      SpellsMembers d (y ++ (x ++ (b ++ [.char '}']))) [(k, v)]
  | cons {y x b z k : Text} {v : Json} {ms : List (Text × Json)} (hy : SpellsKey k y)
      (hx : Spells d x v) (hb : Blanks b) (hz : SpellsMembers d z ms) :
      SpellsMembers d (y ++ (x ++ (b ++ .char ',' :: z))) ((k, v) :: ms)

theorem Spells.blank (h : Spells d x v) (hb : Blanks b) : Spells d (b ++ x) v where
  reads d' r hd hr := by
    rw [List.append_assoc]
    exact (h.reads d' r hd hr).blank hb
  faithful := h.faithful

theorem SpellsItems.blank (h : SpellsItems d z vs) (hb : Blanks b) :
    SpellsItems d (b ++ z) vs := by
  have happend {b' : Text} (hb' : Blanks b') : Blanks (b ++ b') :=
    List.forall_mem_append.2 ⟨hb, hb'⟩
  cases h with
  | last hb' hx hb'' =>
    rw [← List.append_assoc]
    exact .last (happend hb') hx hb''
  | cons hb' hx hb'' hz =>
    rw [← List.append_assoc]
    exact .cons (happend hb') hx hb'' hz

theorem SpellsKey.blank (h : SpellsKey k y) (hb : Blanks b) : SpellsKey k (b ++ y) := by
  cases h with
  | intro hb' hs hb₁ hb₂ =>
    rw [← List.append_assoc]
    exact .intro (List.forall_mem_append.2 ⟨hb, hb'⟩) hs hb₁ hb₂

theorem SpellsMembers.blank (h : SpellsMembers d z ms) (hb : Blanks b) :
    SpellsMembers d (b ++ z) ms := by
  cases h with
  | last hy hx hb' =>
    rw [← List.append_assoc]
    exact .last (hy.blank hb) hx hb'
  | cons hy hx hb' hz =>
    rw [← List.append_assoc]
    exact .cons (hy.blank hb) hx hb' hz

/-! ## Spellings are read -/

theorem SpellsItems.reads (h : SpellsItems d z vs) (hd : d ≤ d') (r : Text) :
    ReadsItems d' (z ++ r) vs r := by
  induction h with
  | last hb hx hb' =>
    simp only [List.append_assoc]
    refine .blank hb (.last (hx.reads d' _ hd (hb'.endsNumber_append rfl)) ?_)
    rw [skip_append hb']
    rfl
  | cons hb hx hb' _ ih =>
    simp only [List.append_assoc]
    refine .blank hb (.cons (hx.reads d' _ hd (hb'.endsNumber_append rfl)) ?_ ih)
    rw [skip_append hb']
    rfl

theorem SpellsMembers.reads (h : SpellsMembers d z ms) (hd : d ≤ d') (r : Text) :
    ReadsMembers d' (z ++ r) ms r := by
  -- What closes the members, or parts them, ends a number in front of it.
  induction h with
  | last hy hx hb =>
    cases hy with
    | intro hb₁ hs hb₂ hb₃ =>
      have hv := hx.reads d' _ hd (hb.endsNumber_append (t := .char '}' :: r) rfl)
      simp only [List.append_assoc, List.cons_append]
      refine .blank hb₁ (.last (hs _) ?_ (hv.blank hb₃) ?_)
      · rw [skip_append hb₂]
        rfl
      · rw [skip_append hb]
        rfl
  | @cons _ _ _ z _ _ _ hy hx hb _ ih =>
    cases hy with
    | intro hb₁ hs hb₂ hb₃ =>
      have hv := hx.reads d' _ hd (hb.endsNumber_append (t := .char ',' :: (z ++ r)) rfl)
      simp only [List.append_assoc, List.cons_append]
      refine .blank hb₁ (.cons (hs _) ?_ (hv.blank hb₃) ?_ ih)
      · rw [skip_append hb₂]
        rfl
      · rw [skip_append hb]
        rfl

theorem SpellsItems.exists_spells_of_mem (h : SpellsItems d z vs) (hv : v ∈ vs) :
    ∃ x, Spells d x v := by
  induction h with
  | last _ hx _ =>
    obtain rfl := List.mem_singleton.1 hv
    exact ⟨_, hx⟩
  | cons _ hx _ _ ih =>
    rcases List.mem_cons.1 hv with rfl | hv
    · exact ⟨_, hx⟩
    · exact ih hv

theorem SpellsMembers.exists_spells_of_mem {m : Text × Json} (h : SpellsMembers d z ms)
    (hm : m ∈ ms) : ∃ x, Spells d x m.2 := by
  induction h with
  | last _ hx _ =>
    obtain rfl := List.mem_singleton.1 hm
    exact ⟨_, hx⟩
  | cons _ hx _ _ ih =>
    rcases List.mem_cons.1 hm with rfl | hm
    · exact ⟨_, hx⟩
    · exact ih hm

theorem Spells.text (hs : ∀ r, ReadsString (x ++ r) s r) : Spells d ('"' :: x) (.text s) where
  reads _ r _ _ := .text (hs r)
  faithful h := by
    cases h with
    | text h => exact .text h

theorem Spells.emptyList (hb : Blanks b) :
    Spells (d + 1) ('[' :: (b ++ [.char ']'])) (.list []) where
  reads d' r hd _ := by
    obtain ⟨d', rfl⟩ := Nat.exists_eq_add_one_of_ne_zero (Nat.ne_zero_of_lt hd)
    rw [List.cons_append, List.append_assoc]
    exact .emptyList (skip_append hb _)
  faithful _ := .list (List.forall_mem_nil _)

theorem Spells.emptyObject (hb : Blanks b) :
    Spells (d + 1) ('{' :: (b ++ [.char '}'])) (.object []) where
  reads d' r hd _ := by
    obtain ⟨d', rfl⟩ := Nat.exists_eq_add_one_of_ne_zero (Nat.ne_zero_of_lt hd)
    rw [List.cons_append, List.append_assoc]
    exact .emptyObject (skip_append hb _)
  faithful _ := .object (List.forall_mem_nil _) List.nodup_nil (List.forall_mem_nil _)

theorem Spells.list (h : SpellsItems d z vs) : Spells (d + 1) ('[' :: z) (.list vs) where
  reads d' r hd _ := by
    obtain ⟨d', rfl⟩ := Nat.exists_eq_add_one_of_ne_zero (Nat.ne_zero_of_lt hd)
    exact .list (h.reads (Nat.le_of_succ_le_succ hd) r)
  faithful hexact := by
    rw [collapse, collapseItems_eq_map] at hexact ⊢
    cases hexact with
    | list hexact =>
      refine .list fun v hv => ?_
      obtain ⟨w, hw, rfl⟩ := List.mem_map.1 hv
      obtain ⟨x, hx⟩ := h.exists_spells_of_mem hw
      exact hx.faithful (hexact _ hv)

theorem Spells.object (h : SpellsMembers d z ms) : Spells (d + 1) ('{' :: z) (.object ms) where
  reads d' r hd _ := by
    obtain ⟨d', rfl⟩ := Nat.exists_eq_add_one_of_ne_zero (Nat.ne_zero_of_lt hd)
    exact .object (h.reads (Nat.le_of_succ_le_succ hd) r)
  faithful hexact := by
    rw [collapse, collapseMembers_eq_map] at hexact ⊢
    cases hexact with
    | object hk hexact =>
      refine .object hk (nodup_ofMembers _) fun m hm => ?_
      obtain ⟨m', hm', rfl⟩ := List.mem_map.1 (mem_of_mem_ofMembers hm)
      obtain ⟨x, hx⟩ := h.exists_spells_of_mem hm'
      exact hx.faithful (hexact _ hm)

theorem spells_word (hw : (x, v) ∈ words) (hx : ∀ d r, Reads d (x ++ r) v r) : Spells d x v where
  reads d' r _ _ := hx d' r
  faithful h := by
    simp only [words, List.mem_cons, List.not_mem_nil, or_false, Prod.mk.injEq] at hw
    rcases hw with ⟨_, rfl⟩ | ⟨_, rfl⟩ | ⟨_, rfl⟩ | ⟨_, rfl⟩ | ⟨_, rfl⟩ | ⟨_, rfl⟩
    · exact .null
    · exact .bool true
    · exact .bool false
    all_goals cases h

theorem spells_number (hx : ∀ d r, r.head?.all endsNumber → Reads d (x ++ r) v r)
    (hv : (∃ a, v = .double a) ∨
      ∃ i : Int, v = .int i ∧ (Text.ofNat i.natAbs).length ≤ Text.maxDigits) :
    Spells d x v where
  reads d' r _ hr := hx d' r hr
  faithful h := by
    obtain ⟨a, rfl⟩ | ⟨i, rfl, hi⟩ := hv
    · cases h
    · exact .int hi

theorem Faithful.mono (h : Faithful d v) (hd : d ≤ d') : Faithful d' v := by
  induction h generalizing d' with
  | null => exact .null
  | bool b => exact .bool b
  | int h => exact .int h
  | text h => exact .text h
  | list _ ih =>
    obtain ⟨d', rfl⟩ := Nat.exists_eq_add_one_of_ne_zero (Nat.ne_zero_of_lt hd)
    exact .list fun v hv => ih v hv (Nat.le_of_succ_le_succ hd)
  | object hk distinct _ ih =>
    obtain ⟨d', rfl⟩ := Nat.exists_eq_add_one_of_ne_zero (Nat.ne_zero_of_lt hd)
    exact .object hk distinct fun m hm => ih m hm (Nat.le_of_succ_le_succ hd)

/-- What is written of a faithful value spells it. -/
theorem Faithful.spells_render (h : Faithful d v) : Spells d (v.render .compact) v where
  reads d' r hd hr := by
    have hread := (h.mono hd).reads isPlain_compact 0 r hr
    rwa [← List.nil_append r, renderBefore_append] at hread
  faithful _ := by rwa [h.collapse_eq]

/-! ## What is read is spelled -/

/-- The ways in which a value is read, and what is read for it. -/
inductive ReadCase (fuel : Nat) : Nat → Text → Json → Text → Prop
  | text {d : Nat} {t s rest : Text} (h : readString t = .ok (s, rest)) :
      ReadCase fuel d ('"' :: t) (.text s) rest
  | emptyList {d : Nat} {t rest : Text} (h : skip t = .char ']' :: rest) :
      ReadCase fuel (d + 1) ('[' :: t) (.list []) rest
  | list {d : Nat} {t rest : Text} {vs : List Json}
      (h : readItems d fuel (skip t) = .ok (vs, rest)) :
      ReadCase fuel (d + 1) ('[' :: t) (.list vs) rest
  | emptyObject {d : Nat} {t rest : Text} (h : skip t = .char '}' :: rest) :
      ReadCase fuel (d + 1) ('{' :: t) (.object []) rest
  | object {d : Nat} {t rest : Text} {ms : List (Text × Json)}
      (h : readMembers d fuel (skip t) = .ok (ms, rest)) :
      ReadCase fuel (d + 1) ('{' :: t) (.object ms) rest
  | word {d : Nat} {t rest : Text} {v : Json} (h : word? t = some (v, rest)) :
      ReadCase fuel d t v rest
  | number {d : Nat} {t rest : Text} {v : Json} (h : readNumber t = .ok (v, rest)) :
      ReadCase fuel d t v rest

theorem readCase_of_readValue (h : readValue d (fuel + 1) t = .ok (v, rest)) :
    ReadCase fuel d t v rest := by
  cases t with
  | nil => cases h
  | cons c t =>
    -- Three kinds of values show by their first character; of the others words are tried first.
    by_cases hq : c = '"'
    · subst hq
      obtain ⟨s, r, hs, heq⟩ := exists_of_map_eq_ok h
      obtain ⟨rfl, rfl⟩ := Prod.mk.inj heq
      exact .text hs
    by_cases hl : c = '['
    · subst hl
      cases d with
      | zero => cases h
      | succ d =>
        rw [readValue] at h
        split at h
        · next r hr =>
          obtain ⟨rfl, rfl⟩ := Prod.mk.inj (Except.ok.inj h)
          exact .emptyList hr
        · obtain ⟨vs, r, hvs, heq⟩ := exists_of_map_eq_ok h
          obtain ⟨rfl, rfl⟩ := Prod.mk.inj heq
          exact .list hvs
    by_cases ho : c = '{'
    · subst ho
      cases d with
      | zero => cases h
      | succ d =>
        rw [readValue] at h
        split at h
        · next r hr =>
          obtain ⟨rfl, rfl⟩ := Prod.mk.inj (Except.ok.inj h)
          exact .emptyObject hr
        · obtain ⟨ms, r, hms, heq⟩ := exists_of_map_eq_ok h
          obtain ⟨rfl, rfl⟩ := Prod.mk.inj heq
          exact .object hms
    rw [readValue_cons hq hl ho] at h
    split at h
    · next hword =>
      obtain rfl := Except.ok.inj h
      exact .word hword
    · exact .number h

/-! ### One step of a reader

What a step leaves to the readers below it is taken as spelled. -/

section

variable
  (hvalue : ∀ {d t v rest}, readValue d fuel t = .ok (v, rest) → ∃ x, t = x ++ rest ∧ Spells d x v)
  (hitems : ∀ {d t vs rest}, readItems d fuel t = .ok (vs, rest) →
    ∃ z, t = z ++ rest ∧ SpellsItems d z vs)
  (hmembers : ∀ {d t ms rest}, readMembers d fuel t = .ok (ms, rest) →
    ∃ z, t = z ++ rest ∧ SpellsMembers d z ms)

include hitems hmembers in
theorem exists_spells_of_readCase (h : ReadCase fuel d t v rest) :
    ∃ x, t = x ++ rest ∧ Spells d x v := by
  cases h with
  | text h =>
    obtain ⟨x, rfl, hx⟩ := exists_readString h
    exact ⟨'"' :: x, rfl, .text hx⟩
  | @emptyList d t _ h =>
    obtain ⟨b, hb, ht⟩ := exists_blanks t
    rw [ht, h]
    exact ⟨'[' :: (b ++ [.char ']']), by simp, .emptyList hb⟩
  | @list d t _ vs h =>
    -- The blanks behind the bracket belong to the first item.
    obtain ⟨b, hb, ht⟩ := exists_blanks t
    obtain ⟨z, hz, hspells⟩ := hitems h
    rw [ht, hz]
    exact ⟨'[' :: (b ++ z), by simp, .list (hspells.blank hb)⟩
  | @emptyObject d t _ h =>
    obtain ⟨b, hb, ht⟩ := exists_blanks t
    rw [ht, h]
    exact ⟨'{' :: (b ++ [.char '}']), by simp, .emptyObject hb⟩
  | @object d t _ ms h =>
    obtain ⟨b, hb, ht⟩ := exists_blanks t
    obtain ⟨z, hz, hspells⟩ := hmembers h
    rw [ht, hz]
    exact ⟨'{' :: (b ++ z), by simp, .object (hspells.blank hb)⟩
  | word h =>
    obtain ⟨x, hw, ht, hx⟩ := exists_word h
    exact ⟨x, ht, spells_word hw hx⟩
  | number h =>
    obtain ⟨x, ht, hx, hv⟩ := exists_readNumber h
    exact ⟨x, ht, spells_number hx hv⟩

include hvalue hitems in
theorem exists_spellsItems_of_readItems (h : readItems d (fuel + 1) t = .ok (vs, rest)) :
    ∃ z, t = z ++ rest ∧ SpellsItems d z vs := by
  rw [readItems] at h
  split at h
  · contradiction
  next v r hv =>
  obtain ⟨x, rfl, hx⟩ := hvalue hv
  obtain ⟨b, hb, hr⟩ := exists_blanks r
  -- A bracket behind the value ends the list, a comma goes on with it.
  split at h
  · next r' hr' =>
    obtain ⟨rfl, rfl⟩ := Prod.mk.inj (Except.ok.inj h)
    rw [hr, hr']
    exact ⟨[] ++ (x ++ (b ++ [.char ']'])), by simp, .last (List.forall_mem_nil _) hx hb⟩
  · next r' hr' =>
    obtain ⟨vs, r'', hvs, heq⟩ := exists_of_map_eq_ok h
    obtain ⟨rfl, rfl⟩ := Prod.mk.inj heq
    obtain ⟨b', hb', ht'⟩ := exists_blanks r'
    obtain ⟨z, hz, hspells⟩ := hitems hvs
    rw [hr, hr', ht', hz]
    exact ⟨[] ++ (x ++ (b ++ .char ',' :: (b' ++ z))), by simp,
      .cons (List.forall_mem_nil _) hx hb (hspells.blank hb')⟩
  · contradiction

include hvalue hmembers in
theorem exists_spellsMembers_of_readMembers (h : readMembers d (fuel + 1) t = .ok (ms, rest)) :
    ∃ z, t = z ++ rest ∧ SpellsMembers d z ms := by
  rw [readMembers.eq_def] at h
  simp only at h
  split at h
  case h_2 => contradiction
  next u =>
  split at h
  · contradiction
  next k r₁ hk =>
  obtain ⟨s, rfl, hs⟩ := exists_readString hk
  obtain ⟨b₁, hb₁, hr₁⟩ := exists_blanks r₁
  split at h
  case h_2 => contradiction
  next r₂ hcolon =>
  obtain ⟨b₂, hb₂, hr₂⟩ := exists_blanks r₂
  split at h
  · contradiction
  next v r₃ hv =>
  obtain ⟨x, hx', hx⟩ := hvalue hv
  obtain ⟨b₃, hb₃, hr₃⟩ := exists_blanks r₃
  have hkey := SpellsKey.intro (List.forall_mem_nil _) hs hb₁ hb₂
  rw [hr₁, hcolon, hr₂, hx', hr₃]
  -- As with items: a brace behind the value, or a comma and more members.
  split at h
  · next r₄ hbrace =>
    obtain ⟨rfl, rfl⟩ := Prod.mk.inj (Except.ok.inj h)
    rw [hbrace]
    exact ⟨_, by simp, .last hkey hx hb₃⟩
  · next r₄ hcomma =>
    obtain ⟨ms, r₅, hms, heq⟩ := exists_of_map_eq_ok h
    obtain ⟨rfl, rfl⟩ := Prod.mk.inj heq
    obtain ⟨b₄, hb₄, hr₄⟩ := exists_blanks r₄
    obtain ⟨z, hz, hspells⟩ := hmembers hms
    rw [hcomma, hr₄, hz]
    exact ⟨_, by simp, .cons hkey hx hb₃ (hspells.blank hb₄)⟩
  · contradiction

end

/-- What has been read of a text spells what was read, whatever comes next. -/
theorem exists_spells (fuel : Nat) :
    (∀ d t v rest, readValue d fuel t = .ok (v, rest) → ∃ x, t = x ++ rest ∧ Spells d x v) ∧
    (∀ d t vs rest, readItems d fuel t = .ok (vs, rest) →
      ∃ z, t = z ++ rest ∧ SpellsItems d z vs) ∧
    (∀ d t ms rest, readMembers d fuel t = .ok (ms, rest) →
      ∃ z, t = z ++ rest ∧ SpellsMembers d z ms) := by
  -- The readers call each other, each with one step less: one induction for the three.
  induction fuel with
  | zero => exact ⟨fun _ _ _ _ h => (nomatch h), fun _ _ _ _ h => (nomatch h),
      fun _ _ _ _ h => (nomatch h)⟩
  | succ fuel ih =>
    obtain ⟨hvalue, hitems, hmembers⟩ := ih
    exact ⟨fun _ _ _ _ h => exists_spells_of_readCase (hitems _ _ _ _) (hmembers _ _ _ _)
        (readCase_of_readValue h),
      fun _ _ _ _ h => exists_spellsItems_of_readItems (hvalue _ _ _ _) (hitems _ _ _ _) h,
      fun _ _ _ _ h => exists_spellsMembers_of_readMembers (hvalue _ _ _ _) (hmembers _ _ _ _) h⟩

/-! ## Whole texts -/

/-- A text that is read as a value is the text of the value with blanks around it. -/
theorem exists_spells_of_read (h : Json.read t = .ok v) :
    ∃ b x b', t = b ++ (x ++ b') ∧ Blanks b ∧ Blanks b' ∧ Spells maxDepth x v := by
  cases hvalue : readValue maxDepth (2 * t.length + 2) (skip t) with
  | error e => cases e <;> simp [Json.read, readAll, hvalue] at h
  | ok q =>
    obtain ⟨u, rest⟩ := q
    by_cases hrest : skip rest = []
    · simp only [Json.read, readAll, hvalue, if_pos hrest] at h
      obtain rfl := Except.ok.inj h
      obtain ⟨x, hx, hspells⟩ := (exists_spells _).1 _ _ _ _ hvalue
      obtain ⟨b, hb, ht⟩ := exists_blanks t
      obtain ⟨b', hb', hr⟩ := exists_blanks rest
      rw [hrest, List.append_nil] at hr
      exact ⟨b, x, b', by rw [ht, hx, hr], hb, hb', hspells⟩
    · simp [Json.read, readAll, hvalue, if_neg hrest] at h

theorem exists_spells_of_parse (h : Json.parse t = .ok v) :
    ∃ b x b' w, t = b ++ (x ++ b') ∧ Blanks b ∧ Blanks b' ∧ Spells maxDepth x w ∧
      w.collapse = v := by
  rw [Json.parse] at h
  cases hread : Json.read t with
  | error e =>
    rw [hread] at h
    contradiction
  | ok w =>
    rw [hread] at h
    obtain ⟨b, x, b', ht, hb, hb', hx⟩ := exists_spells_of_read hread
    exact ⟨b, x, b', w, ht, hb, hb', hx, Except.ok.inj h⟩

/-- The text of a value, with blanks around it, stands for the value with repeated keys
    collapsed. -/
theorem Spells.parse_blanks (h : Spells d x v) (hd : d ≤ maxDepth) {b b' : Text} (hb : Blanks b)
    (hb' : Blanks b') : Json.parse (b ++ (x ++ b')) = .ok v.collapse := by
  have hend := hb'.endsNumber_append (t := []) rfl
  have hskip := skip_append hb' []
  rw [List.append_nil] at hend hskip
  rw [Json.parse, read_of_reads ((h.reads maxDepth b' hd hend).blank hb) hskip]
  rfl

theorem Spells.parse (h : Spells d x v) (hd : d ≤ maxDepth) : Json.parse x = .ok v.collapse := by
  have hparse := h.parse_blanks hd (List.forall_mem_nil _) (List.forall_mem_nil _)
  rwa [List.nil_append, List.append_nil] at hparse

end Depot.Json
