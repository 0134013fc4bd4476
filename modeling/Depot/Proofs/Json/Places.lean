import Depot.Proofs.Json.Spelling

/-!
# Places in JSON texts

A value inside another one has a place of its own in every text of the other one, where the
text of any value may stand instead (`Holds`). What is held by what a value holds is held by
the value itself (`Holds.trans`), and so the place of a value deep inside follows from one
step into a list (`holds_list`) or an object (`holds_object`) after the other.

What a text stands for has one item or member in such a place. It is the only one to depend on
what is in the place (`exists_holds_list`, `exists_holds_renamed`, `exists_holds_object`).
-/

namespace Depot.Json

variable {d fuel : Nat} {t x z k rest : Text} {v : Json} {vs : List Json}
  {ms : List (Text × Json)}

/-! ## Values inside other values -/

/-- In the text `x` of the value `f v` the value `v` has a place of its own, where the text of
    any other value may stand instead. -/
def HasSlot (d : Nat) (x : Text) (f : Json → Json) (e : Nat) (v : Json) : Prop :=
  ∃ pre y post, x = pre ++ (y ++ post) ∧ Spells e y v ∧
    ∀ y' w, Spells e y' w → Spells d (pre ++ (y' ++ post)) (f w)

/-- The value `f v` holds the value `v` inside `n` lists and objects: in every text of it there
    is a place for `v`. -/
def Holds (n : Nat) (f : Json → Json) (v : Json) : Prop :=
  ∀ d x, Spells (d + n) x (f v) → HasSlot (d + n) x f d v

/-- What is held by a value is held by what holds that value. -/
theorem Holds.trans {f g : Json → Json} {m n : Nat} (h : Holds n f (g v)) (h' : Holds m g v) :
    Holds (m + n) (fun w => f (g w)) v := by
  intro d x hx
  rw [← Nat.add_assoc] at hx ⊢
  obtain ⟨pre, y, post, rfl, hy, hfill⟩ := h (d + m) x hx
  obtain ⟨pre', y', post', rfl, hy', hfill'⟩ := h' d y hy
  have hassoc (u : Text) : pre ++ pre' ++ (u ++ (post' ++ post)) =
      pre ++ (pre' ++ (u ++ post') ++ post) := by simp
  refine ⟨pre ++ pre', y', post' ++ post, (hassoc y').symm, hy', fun u w hu => ?_⟩
  rw [hassoc]
  exact hfill _ _ (hfill' u w hu)

theorem SpellsItems.exists_slot {before after : List Json} (h : SpellsItems d z vs)
    (hvs : vs = before ++ v :: after) :
    ∃ pre y post, z = pre ++ (y ++ post) ∧ Spells d y v ∧
      ∀ y' w, Spells d y' w → SpellsItems d (pre ++ (y' ++ post)) (before ++ w :: after) := by
  induction h generalizing before with
  | @last b x b' u hb hx hb' =>
    cases before with
    | nil =>
      obtain ⟨rfl, rfl⟩ := List.cons.inj hvs
      exact ⟨b, x, _, rfl, hx, fun y w hy => .last hb hy hb'⟩
    | cons v' before => simp at hvs
  | @cons b x b' z u vs hb hx hb' hz ih =>
    cases before with
    | nil =>
      obtain ⟨rfl, rfl⟩ := List.cons.inj hvs
      exact ⟨b, x, _, rfl, hx, fun y w hy => .cons hb hy hb' hz⟩
    | cons v' before =>
      obtain ⟨rfl, htail⟩ := List.cons.inj hvs
      obtain ⟨pre, y, post, rfl, hy, hfill⟩ := ih htail
      refine ⟨b ++ (x ++ (b' ++ .char ',' :: pre)), y, post, by simp, hy, fun y' w hy' => ?_⟩
      have hcons := SpellsItems.cons hb hx hb' (hfill y' w hy')
      simpa only [List.append_assoc, List.cons_append] using hcons

theorem SpellsMembers.exists_slot {before after : List (Text × Json)}
    (h : SpellsMembers d z ms) (hms : ms = before ++ (k, v) :: after) :
    ∃ pre y post, z = pre ++ (y ++ post) ∧ Spells d y v ∧
      ∀ y' w, Spells d y' w →
        SpellsMembers d (pre ++ (y' ++ post)) (before ++ (k, w) :: after) := by
  induction h generalizing before with
  | @last y x b k' u hy hx hb =>
    cases before with
    | nil =>
      obtain ⟨heq, rfl⟩ := List.cons.inj hms
      obtain ⟨rfl, rfl⟩ := Prod.mk.inj heq
      exact ⟨y, x, _, rfl, hx, fun y' w hy' => .last hy hy' hb⟩
    | cons m before => simp at hms
  | @cons y x b z k' u ms hy hx hb hz ih =>
    cases before with
    | nil =>
      obtain ⟨heq, rfl⟩ := List.cons.inj hms
      obtain ⟨rfl, rfl⟩ := Prod.mk.inj heq
      exact ⟨y, x, _, rfl, hx, fun y' w hy' => .cons hy hy' hb hz⟩
    | cons m before =>
      obtain ⟨rfl, htail⟩ := List.cons.inj hms
      obtain ⟨pre, y', post, rfl, hy', hfill⟩ := ih htail
      refine ⟨y ++ (x ++ (b ++ .char ',' :: pre)), y', post, by simp, hy', fun u w hu => ?_⟩
      have hcons := SpellsMembers.cons hy hx hb (hfill u w hu)
      simpa only [List.append_assoc, List.cons_append] using hcons

theorem Spells.exists_readCase (h : Spells d x v) :
    ∃ fuel b t, Blanks b ∧ x = b ++ t ∧ ReadCase fuel d t v [] := by
  have hread := (h.reads d [] (Nat.le_refl d) rfl).read (2 * x.length + 1) (by simp)
  rw [List.append_nil] at hread
  obtain ⟨b, hb, hx⟩ := exists_blanks x
  exact ⟨_, b, skip x, hb, hx, readCase_of_readValue hread⟩

/-- What is read as a word or as a number has no values in it. -/
theorem not_word_or_number (hv : (∃ vs, v = .list vs) ∨ ∃ ms, v = .object ms) :
    word? t ≠ some (v, rest) ∧ readNumber t ≠ .ok (v, rest) := by
  constructor
  · intro h
    obtain ⟨w, hw, _⟩ := exists_word h
    rcases hv with ⟨vs, rfl⟩ | ⟨ms, rfl⟩ <;> simp [words] at hw
  · intro h
    obtain ⟨_, _, _, ⟨a, rfl⟩ | ⟨i, rfl, _⟩⟩ := exists_readNumber h <;> simp at hv

/-- A list holds its items. -/
theorem holds_list (before after : List Json) (v : Json) :
    Holds 1 (fun w => .list (before ++ w :: after)) v := by
  intro d x (h : Spells (d + 1) x (.list (before ++ v :: after)))
  obtain ⟨fuel, b, t, hb, rfl, hcase⟩ := h.exists_readCase
  generalize hvs : before ++ v :: after = vs at hcase
  cases hcase with
  | emptyList => simp at hvs
  | word h => exact absurd h (not_word_or_number (.inl ⟨_, rfl⟩)).1
  | number h => exact absurd h (not_word_or_number (.inl ⟨_, rfl⟩)).2
  | @list _ u _ _ h =>
    obtain ⟨b', hb', hu⟩ := exists_blanks u
    obtain ⟨z, hz, hitems⟩ := (exists_spells fuel).2.1 _ _ _ _ h
    rw [List.append_nil] at hz
    obtain ⟨pre, y, post, rfl, hy, hfill⟩ := hitems.exists_slot hvs.symm
    rw [hu, hz]
    refine ⟨b ++ .char '[' :: (b' ++ pre), y, post, by simp, hy, fun y' w hy' => ?_⟩
    have hlist := (Spells.list ((hfill y' w hy').blank hb')).blank hb
    simpa only [List.append_assoc, List.cons_append] using hlist

/-- An object holds the values of its members. -/
theorem holds_object (before after : List (Text × Json)) (k : Text) (v : Json) :
    Holds 1 (fun w => .object (before ++ (k, w) :: after)) v := by
  intro d x (h : Spells (d + 1) x (.object (before ++ (k, v) :: after)))
  obtain ⟨fuel, b, t, hb, rfl, hcase⟩ := h.exists_readCase
  generalize hms : before ++ (k, v) :: after = ms at hcase
  cases hcase with
  | emptyObject => simp at hms
  | word h => exact absurd h (not_word_or_number (.inr ⟨_, rfl⟩)).1
  | number h => exact absurd h (not_word_or_number (.inr ⟨_, rfl⟩)).2
  | @object _ u _ _ h =>
    obtain ⟨b', hb', hu⟩ := exists_blanks u
    obtain ⟨z, hz, hmembers⟩ := (exists_spells fuel).2.2 _ _ _ _ h
    rw [List.append_nil] at hz
    obtain ⟨pre, y, post, rfl, hy, hfill⟩ := hmembers.exists_slot hms.symm
    rw [hu, hz]
    refine ⟨b ++ .char '{' :: (b' ++ pre), y, post, by simp, hy, fun y' w hy' => ?_⟩
    have hobject := (Spells.object ((hfill y' w hy').blank hb')).blank hb
    simpa only [List.append_assoc, List.cons_append] using hobject

/-! ## What counts of a value -/

/-- The item of a list is the only one to depend on what the list holds there. -/
theorem exists_holds_list {us : List Json} {u : Json} {i : Nat} (hv : v.collapse = .list us)
    (hu : us[i]? = some u) : ∃ f w, v = f w ∧ w.collapse = u ∧ Holds 1 f w ∧
      ∀ w', (f w').collapse = .list (us.set i w'.collapse) := by
  obtain ⟨vs, rfl, rfl⟩ := collapse_eq_list hv
  rw [List.getElem?_map, Option.map_eq_some_iff] at hu
  obtain ⟨w, hw, rfl⟩ := hu
  obtain ⟨hi, rfl⟩ := List.getElem?_eq_some_iff.1 hw
  have hvs : vs = vs.take i ++ vs[i] :: vs.drop (i + 1) := by
    rw [← List.drop_eq_getElem_cons hi, List.take_append_drop]
  refine ⟨fun w => .list (vs.take i ++ w :: vs.drop (i + 1)), vs[i], congrArg _ hvs, rfl,
    holds_list _ _ _, fun w' => ?_⟩
  rw [collapse, collapseItems_eq_map, ← List.map_set, List.set_eq_take_append_cons_drop,
    if_pos hi]

/-- Of an object whose keys are renamed, the value for a key is the only one to depend on what
    the object holds in the place that counts. -/
theorem exists_holds_renamed {f : Text → Text} {u : Json} (hv : v.collapse = .object ms)
    (hu : find? k (renamed f ms) = some u) : ∃ g w, v = g w ∧ w.collapse = u ∧ Holds 1 g w ∧
      ∀ w', ∃ ms', (g w').collapse = .object ms' ∧ ∀ other, find? other (renamed f ms') =
        if other = k then some w'.collapse else find? other (renamed f ms) := by
  obtain ⟨ms, rfl, rfl⟩ := collapse_eq_object hv
  obtain ⟨before, k', w, after, rfl, hw, hother⟩ := exists_of_find?_renamed hu
  exact ⟨fun w => .object (before ++ (k', w) :: after), w, rfl, hw, holds_object _ _ _ _,
    fun w' => ⟨_, rfl, hother w'⟩⟩

/-- The value for a key of an object is held by every value that stands for the object. -/
theorem exists_holds_object {u : Json} (hv : v.collapse = .object ms)
    (hu : find? k ms = some u) : ∃ g w, v = g w ∧ w.collapse = u ∧ Holds 1 g w ∧
      ∀ w', ∃ ms', (g w').collapse = .object ms' ∧ find? k ms' = some w'.collapse := by
  have hid {ms : List (Text × Json)} {v : Json} (hv : v.collapse = .object ms) :
      renamed id ms = ms := by
    obtain ⟨ms, _, rfl⟩ := collapse_eq_object hv
    exact renamed_id ms
  rw [← hid hv] at hu
  obtain ⟨g, w, hg, hw, hholds, hfill⟩ := exists_holds_renamed hv hu
  refine ⟨g, w, hg, hw, hholds, fun w' => ?_⟩
  obtain ⟨ms', hms', hother⟩ := hfill w'
  refine ⟨ms', hms', ?_⟩
  rw [← hid hms', hother, if_pos rfl]

end Depot.Json
