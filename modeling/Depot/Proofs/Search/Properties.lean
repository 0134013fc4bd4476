import Depot.Proofs.Results
import Depot.Search.Query

/-!
# Reading property lists

A property can be written as `key=value` in a list when its key is not empty and has no
`=` and no `;`, and its value has no `;` (`Property.IsWritable`). The value may have any
number of `=`, for a piece is cut at its first one.

A property list is read exactly (`Property.parseList_exact`): reading and writing undo each
other, every piece needs a key in front of an `=`, and the first piece without one is what a
refusal quotes. The empty text is the empty list, and not a list of one empty piece.
-/

namespace Depot.Search.Property

/-! ## One property -/

/-- The property is found again where it is written in a list. -/
structure IsWritable (p : Property) : Prop where
  /-- There is a key. -/
  key : p.key ≠ []
  /-- The key ends at the first `=`. -/
  cut : .char '=' ∉ p.key
  /-- The key goes into one piece. -/
  whole : .char ';' ∉ p.key
  /-- The value goes into one piece. -/
  value : .char ';' ∉ p.value

/-- The piece has an `=`, and something in front of it. -/
def IsPair (piece : Text) : Prop := .char '=' ∈ piece ∧ ¬Text.startsWith '=' piece

instance (piece : Text) : Decidable (IsPair piece) := inferInstanceAs (Decidable (_ ∧ _))

theorem startsWith_iff_of_cut {piece key value : Text}
    (h : Text.cut '=' piece = some (key, value)) : Text.startsWith '=' piece ↔ key = [] := by
  have hpiece := Text.append_of_cut h
  have hkey := Text.not_mem_of_cut h
  rw [Text.startsWith, decide_eq_true_iff, hpiece]
  cases key with
  | nil => simp
  | cons c key =>
    refine iff_of_false (fun hc => hkey ?_) (List.cons_ne_nil c key)
    rw [List.cons_append, List.head?_cons, Option.some.injEq] at hc
    exact hc ▸ List.mem_cons_self

/-- What a piece is read as is what it writes. -/
theorem parse_eq_ok_iff {piece : Text} {p : Property} :
    parse piece = .ok p ↔ p.key ≠ [] ∧ .char '=' ∉ p.key ∧ p.written = piece := by
  constructor
  · intro h
    rw [parse] at h
    split at h
    · next key value hcut =>
      split at h
      · contradiction
      · next hkey =>
        obtain rfl := Except.ok.inj h
        exact ⟨hkey, Text.not_mem_of_cut hcut, (Text.append_of_cut hcut).symm⟩
    · contradiction
  · rintro ⟨hkey, heq, rfl⟩
    simp only [parse, written, Text.cut_append_cons heq, if_neg hkey]

/-- A piece is refused when it is no pair, and it is quoted as it is. -/
theorem parse_eq_error_iff {piece : Text} {m : Malformed} :
    parse piece = .error m ↔ m.fragment = piece ∧ ¬IsPair piece := by
  have hquoted : (.error ⟨piece⟩ : Except Malformed Property) = .error m ↔
      m.fragment = piece :=
    ⟨fun h => Except.error.inj h ▸ rfl, fun h => h ▸ rfl⟩
  rw [parse, IsPair]
  cases hcut : Text.cut '=' piece with
  | none =>
    have hmem := Text.cut_eq_none_iff.1 hcut
    simp only [hquoted, hmem, false_and, not_false_eq_true, and_true]
  | some s =>
    have hmem : .char '=' ∈ piece := by
      rw [Text.append_of_cut hcut]
      exact List.mem_append_right _ List.mem_cons_self
    simp only [hmem, true_and, not_not, startsWith_iff_of_cut hcut]
    by_cases hkey : s.1 = []
    · simp only [hkey, if_true, hquoted, and_true]
    · simp only [hkey, if_false, reduceCtorEq, and_false]

theorem exists_parse_iff {piece : Text} : (∃ p, parse piece = .ok p) ↔ IsPair piece := by
  cases h : parse piece with
  | error m => exact iff_of_false nofun (parse_eq_error_iff.1 h).2
  | ok p =>
    -- A piece that was no pair would have been refused.
    refine iff_of_true ⟨p, rfl⟩ (Decidable.not_not.1 fun hpair => ?_)
    rw [parse_eq_error_iff.2 ⟨rfl, hpair⟩] at h
    contradiction

/-! ## Lists -/

theorem not_mem_written_iff {p : Property} :
    .char ';' ∉ p.written ↔ .char ';' ∉ p.key ∧ .char ';' ∉ p.value := by
  simp [written, not_or]

theorem written_ne_nil (p : Property) : p.written ≠ [] := by simp [written]

/-- The properties that are read from a text are those from which it is written. -/
theorem parseList_eq_ok_iff {t : Text} {ps : List Property} :
    parseList t = .ok ps ↔ (∀ p ∈ ps, p.IsWritable) ∧ writtenList ps = t := by
  have hnil : ∀ {qs : List Property}, writtenList qs = [] ↔ qs = [] := fun {qs} => by
    rw [writtenList, Text.joined_eq_nil_iff (by simp [written_ne_nil]), List.map_eq_nil_iff]
  rw [parseList]
  split
  · next ht =>
    subst ht
    rw [hnil]
    constructor
    · intro h
      obtain rfl := Except.ok.inj h
      exact ⟨List.forall_mem_nil _, rfl⟩
    · rintro ⟨-, rfl⟩
      rfl
  · next ht =>
    rw [mapM_eq_ok_iff_map (P := fun p => p.key ≠ [] ∧ .char '=' ∉ p.key) fun _ _ => by
      rw [parse_eq_ok_iff, and_assoc]]
    constructor
    · rintro ⟨hps, hmap⟩
      refine ⟨fun p hp => ?_, ?_⟩
      · -- The pieces have no `;`, so neither do the parts they are made of.
        have hpiece : p.written ∈ Text.pieces ';' t := hmap ▸ List.mem_map_of_mem hp
        obtain ⟨hkey, hvalue⟩ := not_mem_written_iff.1 (Text.not_mem_of_mem_pieces hpiece)
        exact ⟨(hps p hp).1, (hps p hp).2, hkey, hvalue⟩
      · rw [writtenList, hmap]
        exact Text.intercalate_pieces ';' t
    · rintro ⟨hps, rfl⟩
      refine ⟨fun p hp => ⟨(hps p hp).key, (hps p hp).cut⟩, (Text.pieces_joined ?_ ?_).symm⟩
      · rw [Ne, List.map_eq_nil_iff, ← hnil]
        exact ht
      · intro u hu
        obtain ⟨p, hp, rfl⟩ := List.mem_map.1 hu
        exact not_mem_written_iff.2 ⟨(hps p hp).whole, (hps p hp).value⟩

theorem exists_parseList_iff {t : Text} :
    (∃ ps, parseList t = .ok ps) ↔ t = [] ∨ ∀ piece ∈ Text.pieces ';' t, IsPair piece := by
  rw [parseList]
  split
  · next ht => exact iff_of_true ⟨[], rfl⟩ (.inl ht)
  · next ht => simp only [exists_mapM_eq_ok_iff, exists_parse_iff, ht, false_or]

/-- A list is refused for its first piece that is no pair. -/
theorem parseList_eq_error_iff {t : Text} {m : Malformed} :
    parseList t = .error m ↔ t ≠ [] ∧ ∃ before after,
      Text.pieces ';' t = before ++ m.fragment :: after ∧ (∀ piece ∈ before, IsPair piece) ∧
        ¬IsPair m.fragment := by
  rw [parseList]
  split
  · next ht => exact iff_of_false nofun fun h => h.1 ht
  · next ht =>
    simp only [mapM_eq_error_iff, exists_parse_iff, parse_eq_error_iff, ne_eq, ht,
      not_false_eq_true, true_and]
    constructor
    · rintro ⟨before, _, after, hpieces, hbefore, rfl, hpair⟩
      exact ⟨before, after, hpieces, hbefore, hpair⟩
    · rintro ⟨before, after, hpieces, hbefore, hpair⟩
      exact ⟨before, m.fragment, after, hpieces, hbefore, rfl, hpair⟩

/-- A text is read as a property list when it is empty or all of its pieces are pairs, and
    then the properties are those from which it is written. The refusal of any other text
    quotes the first piece that is no pair. No conditions come of a list that is refused,
    and no search for files. -/
theorem parseList_exact (t : Text) :
    ((∃ ps, parseList t = .ok ps) ↔ t = [] ∨ ∀ piece ∈ Text.pieces ';' t, IsPair piece) ∧
    (∀ ps, parseList t = .ok ps ↔ (∀ p ∈ ps, p.IsWritable) ∧ writtenList ps = t) ∧
    (∀ m, parseList t = .error m ↔ t ≠ [] ∧ ∃ before after,
      Text.pieces ';' t = before ++ m.fragment :: after ∧ (∀ piece ∈ before, IsPair piece) ∧
        ¬IsPair m.fragment) ∧
    ∀ m, ((parseList t).map clauses = .error m ↔ parseList t = .error m) ∧
      ∀ pattern recursive fields,
        Query.files pattern recursive t fields = .error m ↔ parseList t = .error m := by
  refine ⟨exists_parseList_iff, fun _ => parseList_eq_ok_iff, fun _ => parseList_eq_error_iff,
    fun m => ⟨⟨error_of_map, fun h => by rw [h]; rfl⟩, fun pattern recursive fields => ?_⟩⟩
  rw [Query.files]
  exact bind_pure_eq_error_iff

-- A value may have the character that ends the key, and the empty text is no empty piece.
example : parseList "a=b=c;a=" = .ok [⟨"a", "b=c"⟩, ⟨"a", []⟩] ∧
    parseList "a=b;" = .error ⟨[]⟩ ∧ parseList [] = .ok [] := by decide

end Depot.Search.Property
