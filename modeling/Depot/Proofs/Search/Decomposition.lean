import Depot.Proofs.Glob
import Depot.Search.Query

/-!
# Patterns and their locations

A pattern stands for the texts `path/name` of items, its locations for pairs of
a path and a name. The two agree (`matches_fullPath_iff_spells_or`): the last
slash of an item is either the last slash of the pattern (`Pattern.Spells`), or
it is in the run of a `*` of the last segment, and then the pattern is cut at
this `*`. The first case is the direct location, but for patterns without slash:
their direct location is in the root (`matches_direct_iff_or`), and so it counts
for nothing below the root (`matches_fullPath_iff`).

Which of these cuts a search lists is another matter: see
`Depot.Proofs.Search.Files` and `Depot.Proofs.Search.Folders`.
-/

namespace Depot.Search

open Glob

/-- Path and name of an item in one text. -/
def Item.fullPath (i : Item) : Text := i.path ++ .char '/' :: i.name

namespace Pattern

/-- The last segment of a pattern: the text behind its last slash. -/
def lastSegment (p : Text) : Text :=
  match Text.cutLast '/' p with
  | some (_, name) => name
  | none => p

/-- A pattern without its last segment: the text up to its last slash. -/
def folderPart (p : Text) : Text :=
  match Text.cutLast '/' p with
  | some (path, _) => path ++ [.char '/']
  | none => []

/-- The last slash of a pattern is the one between path and name of an item. -/
def Spells (p : Text) (i : Item) : Prop :=
  ∃ path name, Text.cutLast '/' p = some (path, name) ∧ (⟨path, name⟩ : Location).Matches i

/-! ## The last segment -/

theorem folderPart_append_lastSegment (p : Text) : folderPart p ++ lastSegment p = p := by
  rw [folderPart, lastSegment]
  cases h : Text.cutLast '/' p with
  | none => rfl
  | some s =>
    rw [Text.append_of_cutLast h]
    exact List.append_assoc _ _ _

theorem slash_not_mem_lastSegment (p : Text) : .char '/' ∉ lastSegment p := by
  rw [lastSegment]
  cases h : Text.cutLast '/' p with
  | none => exact Text.cutLast_eq_none_iff.1 h
  | some s => exact Text.not_mem_of_cutLast h

/-- A pattern without slash is its own last segment. -/
theorem lastSegment_of_not_mem {p : Text} (h : .char '/' ∉ p) :
    lastSegment p = p ∧ folderPart p = [] := by
  rw [lastSegment, folderPart, Text.cutLast_eq_none_iff.2 h]
  exact ⟨rfl, rfl⟩

theorem slash_mem_of_folderPart_eq_append {p u v : Text} (hv : v ≠ [])
    (h : folderPart p = u ++ v) : .char '/' ∈ v := by
  rw [folderPart] at h
  cases hc : Text.cutLast '/' p with
  | none =>
    rw [hc] at h
    exact absurd (List.append_eq_nil_iff.1 h.symm).2 hv
  | some s =>
    rw [hc] at h
    have hend : Text.endsWith '/' (u ++ v) := Text.endsWith_iff.2 ⟨s.1, h.symm⟩
    rw [Text.endsWith_append _ _ hv] at hend
    obtain ⟨w, rfl⟩ := Text.endsWith_iff.1 hend
    exact List.mem_append_right w List.mem_cons_self

/-- A part of a pattern without slash is a part of its last segment. -/
theorem eq_append_cons_iff {p u v : Text} {c : CodePoint} (hc : c ≠ .char '/')
    (hv : .char '/' ∉ v) :
    p = u ++ c :: v ↔ ∃ u', u = folderPart p ++ u' ∧ lastSegment p = u' ++ c :: v := by
  constructor
  · intro h
    rw [← folderPart_append_lastSegment p] at h
    rcases List.append_eq_append_iff.1 h with ⟨a, ha, hl⟩ | ⟨a, ha, hl⟩
    · exact ⟨a, ha, hl⟩
    · by_cases hne : a = []
      · subst hne
        exact ⟨[], by simpa using ha.symm, hl.symm⟩
      · -- The part would reach over the last slash.
        have hs := List.mem_append_left (lastSegment p)
          (slash_mem_of_folderPart_eq_append hne ha)
        rw [← hl] at hs
        rcases List.mem_cons.1 hs with hs | hs
        · exact absurd hs.symm hc
        · exact absurd hs hv
  · rintro ⟨u', rfl, hl⟩
    rw [List.append_assoc, ← hl, folderPart_append_lastSegment]

/-- A bare `*` can be cut in one way. -/
theorem eq_nil_of_lone_star {u v : Text} (h : [star] = u ++ star :: v) : u = [] ∧ v = [] := by
  cases u with
  | nil => exact ⟨rfl, (List.cons.inj h).2.symm⟩
  | cons c u => exact absurd (List.cons.inj h).2 (by simp)

/-- What ends in a character other than the slash ends in it with its last
    segment. -/
theorem lastSegment_concat (p : Text) {c : CodePoint} (hc : c ≠ .char '/') :
    lastSegment (p ++ [c]) = lastSegment p ++ [c] ∧ folderPart (p ++ [c]) = folderPart p := by
  rw [lastSegment, folderPart, lastSegment, folderPart, Text.cutLast_concat hc]
  cases Text.cutLast '/' p <;> exact ⟨rfl, rfl⟩

theorem Spells.slash_mem {p : Text} {i : Item} (h : Spells p i) : .char '/' ∈ p := by
  obtain ⟨path, name, hcut, -⟩ := h
  rw [Text.append_of_cutLast hcut]
  exact List.mem_append_right path List.mem_cons_self

/-- A `*` at the end of a pattern leaves the names of the items it spells open. -/
theorem spells_concat_star_iff {p : Text} {i : Item} :
    Spells (p ++ [star]) i ↔ ∃ n b, i.name = n ++ b ∧ Spells p ⟨i.path, n⟩ := by
  rw [Spells, Text.cutLast_concat (by decide)]
  constructor
  · rintro ⟨path, name, hcut, hpath, hname⟩
    obtain ⟨s, hs, h⟩ := Option.map_eq_some_iff.1 hcut
    obtain ⟨rfl, rfl⟩ := Prod.mk.inj h
    obtain ⟨n, b, hi, hn⟩ := matches_append_star_iff.1 hname
    exact ⟨n, b, hi, s.1, s.2, hs, hpath, hn⟩
  · rintro ⟨n, b, hi, path, name, hs, hpath, hn⟩
    refine ⟨path, name ++ [star], by rw [hs, Option.map_some], hpath, ?_⟩
    exact matches_append_star_iff.2 ⟨n, b, hi, hn⟩

end Pattern

namespace Location

/-! ## Locations and full paths -/

theorem matches_rootPath_iff {t : Text} : Glob.Matches AnyChar rootPath t ↔ t = rootPath := by
  constructor
  · intro h
    obtain ⟨t', rfl, h'⟩ := (matches_cons_iff (by decide)).1 h
    rw [matches_nil_iff.1 h']
    rfl
  · rintro rfl
    exact Matches.refl_of_not_mem (by decide)

theorem name_direct (p : Text) : (direct p).name = Pattern.lastSegment p := by
  rw [direct, Pattern.lastSegment]
  cases Text.cutLast '/' p <;> rfl

/-- The direct location of a pattern is at its own last slash, or in the root when
    it has no slash. -/
theorem matches_direct_iff_or {p : Text} {i : Item} :
    (direct p).Matches i ↔
      (i.path = rootPath ∧ .char '/' ∉ p ∧ Glob.Matches AnyChar p i.name) ∨ Pattern.Spells p i := by
  rw [direct, Pattern.Spells]
  -- Without a slash the location is in the root, and nothing is spelled out.
  cases h : Text.cutLast '/' p with
  | none =>
    have hp : .char '/' ∉ p := Text.cutLast_eq_none_iff.1 h
    constructor
    · exact fun hm => .inl ⟨matches_rootPath_iff.1 hm.1, hp, hm.2⟩
    · rintro (⟨hi, -, hm⟩ | ⟨_, _, h, _⟩)
      · exact ⟨matches_rootPath_iff.2 hi, hm⟩
      · exact absurd h (by simp)
  | some s =>
    constructor
    · exact fun hm => .inr ⟨s.1, s.2, rfl, hm⟩
    · rintro (⟨-, hp, -⟩ | ⟨path, name, h', hm⟩)
      · rw [Text.cutLast_eq_none_iff.2 hp] at h
        exact absurd h (by simp)
      · obtain rfl := Option.some.inj h'
        exact hm

/-- A pattern without slash has only the root for its direct path, and no item
    below the root is there. -/
theorem matches_direct_iff {p : Text} {i : Item} (hi : i.path ≠ rootPath) :
    (direct p).Matches i ↔ Pattern.Spells p i := by
  rw [matches_direct_iff_or]
  exact or_iff_right fun h => hi h.1

/-- A pattern matches an item by its own last slash, or by a cut at a `*` of its
    last segment. -/
theorem matches_fullPath_iff_spells_or {p : Text} {i : Item} (hn : .char '/' ∉ i.name) :
    Glob.Matches AnyChar p i.fullPath ↔ Pattern.Spells p i ∨
      ∃ u v, Pattern.lastSegment p = u ++ star :: v ∧
        (⟨Pattern.folderPart p ++ u ++ [star], star :: v⟩ : Location).Matches i := by
  rw [Item.fullPath, matches_append_cons_iff (by decide)]
  -- Whatever gives the name of the item has no slash.
  have no_slash {v : Text} (hv : Glob.Matches AnyChar v i.name) : .char '/' ∉ v :=
    fun h => hn (hv.mem (by decide) h)
  constructor
  · rintro (⟨u, v, rfl, hu, hv⟩ | ⟨u, v, hp, hu, hv⟩)
    · exact .inl ⟨u, v, Text.cutLast_append_cons (no_slash hv) u, hu, hv⟩
    · have hv' : .char '/' ∉ v := fun h => no_slash hv (List.mem_cons_of_mem _ h)
      obtain ⟨u', rfl, hl⟩ := (Pattern.eq_append_cons_iff (by decide) hv').1 hp
      exact .inr ⟨u', v, hl, hu, hv⟩
  · rintro (⟨u, v, hp, hu, hv⟩ | ⟨u, v, hl, hu, hv⟩)
    · exact .inl ⟨u, v, Text.append_of_cutLast hp, hu, hv⟩
    · refine .inr ⟨Pattern.folderPart p ++ u, v, ?_, hu, hv⟩
      rw [List.append_assoc, ← hl, Pattern.folderPart_append_lastSegment]

/-- A pattern matches an item below the root by its direct location, or by a cut
    at a `*` of its last segment. -/
theorem matches_fullPath_iff {p : Text} {i : Item} (hi : i.path ≠ rootPath)
    (hn : .char '/' ∉ i.name) :
    Glob.Matches AnyChar p i.fullPath ↔ (direct p).Matches i ∨
      ∃ u v, Pattern.lastSegment p = u ++ star :: v ∧
        (⟨Pattern.folderPart p ++ u ++ [star], star :: v⟩ : Location).Matches i := by
  rw [matches_direct_iff hi, matches_fullPath_iff_spells_or hn]

/-- With runs that hold no slash, a pattern matches the items whose path and name
    are matched by what is before and behind its last slash. -/
theorem matches_noSlash_fullPath_iff {p : Text} {i : Item} (hn : .char '/' ∉ i.name) :
    Glob.Matches NoSlash p i.fullPath ↔ ∃ path name, Text.cutLast '/' p = some (path, name) ∧
      Glob.Matches NoSlash path i.path ∧ Glob.Matches NoSlash name i.name := by
  rw [Item.fullPath, matches_append_cons_iff_of_not (by decide) (by simp [NoSlash])]
  constructor
  · rintro ⟨u, v, rfl, hu, hv⟩
    exact ⟨u, v, Text.cutLast_append_cons (fun h => hn (hv.mem (by decide) h)) u, hu, hv⟩
  · rintro ⟨u, v, hp, hu, hv⟩
    exact ⟨u, v, Text.append_of_cutLast hp, hu, hv⟩

/-! ## Places of a star -/

theorem mem_splits_iff {before t a b : Text} :
    (a, b) ∈ splits before t ↔
      ∃ u v, t = u ++ star :: v ∧ a = before ++ u ++ [star] ∧ b = star :: v := by
  induction t generalizing before with
  | nil => simp [splits]
  | cons c t ih =>
    rw [splits, List.mem_append, ih]
    -- The first cut of the text is at its first character, if that is a star.
    constructor
    · rintro (h | ⟨u, v, rfl, rfl, rfl⟩)
      · by_cases hc : c = star
        · rw [if_pos hc, List.mem_singleton] at h
          obtain ⟨rfl, rfl⟩ := Prod.mk.inj h
          exact ⟨[], t, by rw [hc]; rfl, by rw [hc, List.append_nil], by rw [hc]⟩
        · rw [if_neg hc] at h
          exact absurd h List.not_mem_nil
      · exact ⟨c :: u, v, rfl, by simp, rfl⟩
    · rintro ⟨u, v, ht, rfl, rfl⟩
      cases u with
      | nil =>
        obtain ⟨rfl, rfl⟩ := List.cons.inj ht
        exact .inl (by simp)
      | cons d u =>
        obtain ⟨rfl, rfl⟩ := List.cons.inj ht
        exact .inr ⟨u, v, rfl, by simp, rfl⟩

end Location

end Depot.Search
