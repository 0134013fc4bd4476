import Depot.Proofs.Search.Files
import Depot.Proofs.Search.Folders
import Depot.Proofs.Search.Rendering

/-!
# Items in the root of a repository

The path of the items in the root of a repository is `.`, and a glob on paths takes
this for a text like any other. A pattern therefore finds an item `name` of the
root in two ways: by its name, or by its full path `./name`, as it finds an item
in any other folder. The second way is the one in which `*/name` and `.*name` come
to `name`, which they do not match.

`Query.finds_in_root` says for each search which items of the root it finds:

* without recursion the full path has to be matched slash by slash;
* with recursion it has to be found in the sense of `Pattern.Finds`, where a
  pattern with nothing before its only slash counts as what is behind it
  (`Pattern.withoutLoneSlash`);
* a search for folders excludes the root in one condition alone, that of the two
  bare `*`, so `*/*` finds nothing in the root; and when the folders of a pattern
  come to nothing, as those of `a/../name` do, its last segment is all there is.

What the exclusion does is read off the condition as it is rendered
(`Satisfies`, `Location.satisfies_toJson_iff`).
-/

namespace Depot.Search

open Glob

/-! ## What a condition asks of an item -/

/-- What an operator and its operand ask of a text. -/
def Compares (operator value t : Text) : Prop :=
  operator = "$match" ∧ Glob.Matches AnyChar value t ∨ operator = "$ne" ∧ t ≠ value ∨
    operator = "$eq" ∧ t = value

/-- What a member of a condition asks of the fields of an item. -/
def Meets (field : Text → Text) (m : Text × Json) : Prop :=
  ∃ operator value, m.2 = comparison operator value ∧ Compares operator value (field m.1)

/-- The fields of an item meet everything that a condition has under `$and`. -/
def Satisfies (field : Text → Text) (condition : Json) : Prop :=
  ∃ members, condition = .object [(Text.ofString "$and", .list [.object members])] ∧
    ∀ m ∈ members, Meets field m

/-- The fields of an item of a type. -/
def Item.field (itemType : Text) (i : Item) (key : Text) : Text :=
  if key = "path" then i.path
  else if key = "name" then i.name
  else if key = "type" then itemType
  else []

/-- An item of the type that a filter asks for satisfies one of its conditions. -/
def Filter.Selects (f : Filter) (i : Item) : Prop :=
  ∃ condition ∈ f.locations.map (Location.toJson f.itemType),
    Satisfies (i.field f.itemType) condition

theorem meets_constraint_iff {field : Text → Text} {key operator value : Text} :
    Meets field (constraint key operator value) ↔ Compares operator value (field key) := by
  constructor
  · rintro ⟨operator', value', h, hm⟩
    obtain ⟨rfl, rfl⟩ : operator = operator' ∧ value = value' := by
      simpa [constraint, comparison] using h
    exact hm
  · exact fun h => ⟨operator, value, rfl, h⟩

theorem satisfies_iff {field : Text → Text} {members : List (Text × Json)} :
    Satisfies field (.object [(Text.ofString "$and", .list [.object members])]) ↔
      ∀ m ∈ members, Meets field m := by
  constructor
  · rintro ⟨members', h, hm⟩
    obtain rfl : members = members' := by simpa using h
    exact hm
  · exact fun h => ⟨members, rfl, h⟩

theorem compares_match_iff {value t : Text} :
    Compares "$match" value t ↔ Glob.Matches AnyChar value t := by
  have hne : Text.ofString "$match" ≠ "$ne" := by decide
  have heq : Text.ofString "$match" ≠ "$eq" := by decide
  simp [Compares, hne, heq]

theorem compares_ne_iff {value t : Text} : Compares "$ne" value t ↔ t ≠ value := by
  have hmatch : Text.ofString "$ne" ≠ "$match" := by decide
  have heq : Text.ofString "$ne" ≠ "$eq" := by decide
  simp [Compares, hmatch, heq]

theorem compares_eq_iff {value t : Text} : Compares "$eq" value t ↔ t = value := by
  have hmatch : Text.ofString "$eq" ≠ "$match" := by decide
  have hne : Text.ofString "$eq" ≠ "$ne" := by decide
  simp [Compares, hmatch, hne]

/-- The condition of a location asks for its path and its name; the root is
    excluded for folders at the two bare `*`. -/
theorem Location.satisfies_toJson_iff {itemType : Text} {l : Location} {i : Item} :
    Satisfies (i.field itemType) (l.toJson itemType) ↔
      l.Matches i ∧ ¬(itemType = folderType ∧ l = ⟨"*", "*"⟩ ∧ i.path = rootPath) := by
  have hpath : Meets (i.field itemType) (constraint "path" "$match" l.path) ↔
      Glob.Matches AnyChar l.path i.path := by
    rw [meets_constraint_iff, compares_match_iff]
    rfl
  have hname : Meets (i.field itemType) (constraint "name" "$match" l.name) ↔
      Glob.Matches AnyChar l.name i.name := by
    rw [meets_constraint_iff, compares_match_iff]
    rfl
  have hroot : (∀ m ∈ if itemType = "folder" ∧ l = ⟨"*", "*"⟩ then
        [constraint "path" "$ne" "."] else [], Meets (i.field itemType) m) ↔
      ¬(itemType = folderType ∧ l = ⟨"*", "*"⟩ ∧ i.path = rootPath) := by
    rw [← and_assoc, not_and]
    split
    · next h =>
      rw [List.forall_mem_singleton, meets_constraint_iff, compares_ne_iff]
      exact ⟨fun hne _ => hne, fun hne => hne h⟩
    · next h => exact iff_of_true (fun _ hm => absurd hm List.not_mem_nil) fun h' => absurd h' h
  have htype : ∀ m ∈ if itemType = [] then [] else [constraint "type" "$eq" itemType],
      Meets (i.field itemType) m := by
    split
    · exact fun _ hm => absurd hm List.not_mem_nil
    · rw [List.forall_mem_singleton, meets_constraint_iff, compares_eq_iff]
      rfl
  rw [toJson, satisfies_iff, List.forall_mem_cons, List.forall_mem_append, List.forall_mem_cons,
    hpath, hname, hroot]
  constructor
  · rintro ⟨hp, hr, hn, -⟩
    exact ⟨⟨hp, hn⟩, hr⟩
  · rintro ⟨⟨hp, hn⟩, hr⟩
    exact ⟨hp, hr, hn, htype⟩

/-! ## Locations and the root -/

theorem Pattern.slash_not_mem_of_matches {p t : Text} (ht : .char '/' ∉ t)
    (h : Glob.Matches AnyChar p t) : .char '/' ∉ p :=
  fun hp => ht (h.mem (by decide) hp)

/-- With folder and name free of slashes, a pattern spells out the one between them
    when no run takes it. -/
theorem Pattern.spells_iff_matches_noSlash {p : Text} {i : Item} (hpath : .char '/' ∉ i.path)
    (hn : .char '/' ∉ i.name) : Spells p i ↔ Glob.Matches NoSlash p i.fullPath := by
  rw [Location.matches_noSlash_fullPath_iff hn]
  simp only [Spells, Location.Matches, matches_noSlash_iff hpath, matches_noSlash_iff hn]

namespace Location

variable {p : Text} {i : Item}

/-- A pattern in the root has the two bare `*` for its direct location in one form. -/
theorem direct_eq_stars_iff : direct p = ⟨"*", "*"⟩ ↔ p = "*/*" := by
  constructor
  · intro h
    rw [direct] at h
    cases hcut : Text.cutLast '/' p with
    | none =>
      rw [hcut] at h
      have hpath : rootPath = "*" := (Location.mk.inj h).1
      exact absurd hpath (by decide)
    | some s =>
      rw [hcut] at h
      obtain ⟨hpath, hname⟩ := Location.mk.inj h
      rw [Text.append_of_cutLast hcut, hpath, hname]
      rfl
  · rintro rfl
    decide

variable (hi : i.path = rootPath)

include hi

/-- The root is no folder without a name. -/
theorem not_matches_of_path_nil {name : Text} : ¬(⟨[], name⟩ : Location).Matches i := by
  intro h
  have hempty := matches_nil_iff.1 h.1
  rw [hi] at hempty
  exact absurd hempty (by decide)

/-- The root is in no other folder. -/
theorem not_matches_of_slash_mem {l : Location} (hl : .char '/' ∈ l.path) : ¬l.Matches i := by
  intro h
  have hs := h.1.mem (by decide) hl
  rw [hi] at hs
  exact absurd hs (by decide)

/-- What is joined to a path is in the root when the path comes to nothing. -/
theorem matches_join_root_iff {path s name : Text} (hs : IsClean s) (hslash : .char '/' ∉ s) :
    (⟨join path s, name⟩ : Location).Matches i ↔
      simplify path = rootPath ∧ (⟨s, name⟩ : Location).Matches i := by
  by_cases hp : simplify path = rootPath
  · rw [join_of_simplify_eq_rootPath hs hslash hp]
    exact (and_iff_right hp).symm
  · exact iff_of_false (not_matches_of_slash_mem hi (slash_mem_join hs hslash hp))
      fun h => hp h.1

variable (hn : .char '/' ∉ i.name)

include hn

/-- In the root, the direct location is for the names that the pattern matches and
    for the full paths that it matches slash by slash. -/
theorem matches_direct_root_iff :
    (direct p).Matches i ↔
      Glob.Matches AnyChar p i.name ∨ Glob.Matches NoSlash p i.fullPath := by
  have hpath : .char '/' ∉ i.path := by
    rw [hi]
    decide
  rw [matches_direct_iff_or, Pattern.spells_iff_matches_noSlash hpath hn]
  refine or_congr_left ⟨fun h => h.2.2, fun h => ⟨hi, ?_, h⟩⟩
  exact Pattern.slash_not_mem_of_matches hn h

end Location

/-! ## Searches for files -/

/-- The pattern that a recursive search for files cuts: a slash with nothing
    before it and no other one behind it is left out, unless a bare `*` follows. -/
def Pattern.withoutLoneSlash (p : Text) : Text :=
  match Text.cutLast '/' p with
  | some (path, name) => if path = [] ∧ name ≠ [star] then name else p
  | none => p

namespace Location

section Files

variable {p : Text} {i : Item} (hi : i.path = rootPath)

include hi

/-- A recursive search for a pattern with nothing before its only slash cuts what is
    behind the slash. -/
theorem exists_mem_ofFilePattern_root_of_loneSlash {name : Text}
    (h : Text.cutLast '/' p = some ([], name)) (hname : name ≠ [star]) :
    (∃ l ∈ ofFilePattern p true, l.Matches i) ↔ Pattern.CutsAt name i := by
  have hstar : p ≠ [star] := fun hp => by
    rw [hp, Text.cutLast_eq_none_iff.2 (by decide)] at h
    exact absurd h (by simp)
  have hdirect : direct p = ⟨[], name⟩ := by rw [direct, h]
  obtain ⟨hlast, hfolder⟩ := Pattern.lastSegment_of_not_mem (Text.not_mem_of_cutLast h)
  rw [ofFilePattern, if_neg hstar, hdirect, h]
  simp only [cutsBetween_pieces, Bool.not_true, Bool.false_eq_true, if_false, if_neg hname,
    Pattern.CutsAt, hlast,
    hfolder]
  constructor
  · rintro ⟨l, hl, hm⟩
    -- The direct location has an empty path, which no item has.
    rcases List.mem_cons.1 hl with rfl | hl
    · exact absurd hm (not_matches_of_path_nil hi)
    · obtain ⟨⟨a, b⟩, hc, rfl⟩ := List.mem_map.1 hl
      obtain ⟨u, v, hu, hv, rfl, rfl⟩ := mem_cuts_iff.1 hc
      exact ⟨u, v, hu, fun h => absurd h hv, hm⟩
  · rintro ⟨u, v, hu, hv, hm⟩
    refine ⟨_, List.mem_cons_of_mem _ (List.mem_map.2 ⟨(u ++ [star], star :: v), ?_, rfl⟩), hm⟩
    exact mem_cuts_iff.2 ⟨u, v, hu, fun h => hname (hv h), rfl, rfl⟩

/-- Nothing in the root is found for a bare `*` behind a slash. -/
theorem exists_mem_ofFilePattern_root_of_slash_star (hp : p = "/*") :
    (∃ l ∈ ofFilePattern p true, l.Matches i) ↔ Pattern.Spells p i ∨ Pattern.CutsAt p i := by
  subst hp
  refine iff_of_false ?_ ?_
  · rintro ⟨l, hl, hm⟩
    rcases List.mem_cons.1 hl with rfl | hl
    · exact not_matches_of_path_nil hi hm
    · obtain rfl := List.mem_singleton.1 hl
      exact not_matches_of_slash_mem hi (by decide) hm
  · rintro (⟨path, name, hcut, hm⟩ | ⟨u, v, _, _, hm⟩)
    · obtain ⟨rfl, -⟩ := Prod.mk.inj (Option.some.inj hcut)
      exact not_matches_of_path_nil hi hm
    · refine not_matches_of_slash_mem hi ?_ hm
      exact List.mem_append_left _ (List.mem_append_left _ (by decide))

variable (hn : .char '/' ∉ i.name)

include hn

/-- Without recursion only the direct location is searched. -/
theorem exists_mem_ofFilePattern_false_root_iff :
    (∃ l ∈ ofFilePattern p false, l.Matches i) ↔
      Glob.Matches AnyChar p i.name ∨ Glob.Matches NoSlash p i.fullPath := by
  rw [← matches_direct_root_iff hi hn]
  simp [ofFilePattern_false]

/-- A recursive search finds the items of the root whose name the pattern matches,
    and those whose full path it is to find. -/
theorem exists_mem_ofFilePattern_true_root_iff :
    (∃ l ∈ ofFilePattern p true, l.Matches i) ↔
      Glob.Matches AnyChar p i.name ∨ Pattern.Finds (Pattern.withoutLoneSlash p) i.fullPath := by
  rw [Pattern.finds_iff hn, Pattern.withoutLoneSlash]
  have by_name : (i.path = rootPath ∧ .char '/' ∉ p ∧ Glob.Matches AnyChar p i.name) ↔
      Glob.Matches AnyChar p i.name :=
    ⟨fun h => h.2.2, fun h => ⟨hi, Pattern.slash_not_mem_of_matches hn h, h⟩⟩
  cases h : Text.cutLast '/' p with
  | none => rw [exists_mem_ofFilePattern_iff_or (by rw [h]; simp), by_name]
  | some s =>
    obtain ⟨path, name⟩ := s
    have hp := Text.append_of_cutLast h
    have hno_name : ¬Glob.Matches AnyChar p i.name := fun hm => by
      refine Pattern.slash_not_mem_of_matches hn hm ?_
      rw [hp]
      exact List.mem_append_right path List.mem_cons_self
    -- With nothing before its only slash, the pattern is searched for without it.
    by_cases hpath : path = []
    · subst hpath
      rw [or_iff_right hno_name]
      by_cases hname : name = [star]
      · subst hname
        rw [exists_mem_ofFilePattern_root_of_slash_star hi hp]
        simp
      · have hslash : .char '/' ∉ name := Text.not_mem_of_cutLast h
        simp only [hname, ne_eq, not_false_eq_true, and_self, if_true]
        rw [or_iff_right fun hs : Pattern.Spells name i => hslash hs.slash_mem]
        exact exists_mem_ofFilePattern_root_of_loneSlash hi h hname
    · rw [exists_mem_ofFilePattern_iff_or, by_name]
      · simp [hpath]
      · intro path' name' h'
        rw [h] at h'
        obtain ⟨rfl, rfl⟩ := Prod.mk.inj (Option.some.inj h')
        exact hpath

end Files

/-! ## Searches for folders -/

section Folders

variable {p : Text} {i : Item} (hi : i.path = rootPath) (hn : .char '/' ∉ i.name)

include hi hn

/-- The direct location, unless its condition excludes the root. -/
theorem matches_direct_root_ne_stars_iff :
    (direct p).Matches i ∧ direct p ≠ ⟨"*", "*"⟩ ↔
      Glob.Matches AnyChar p i.name ∨ p ≠ "*/*" ∧ Glob.Matches NoSlash p i.fullPath := by
  rw [matches_direct_root_iff hi hn, Ne, direct_eq_stars_iff]
  constructor
  · rintro ⟨hm | hm, hne⟩
    · exact .inl hm
    · exact .inr ⟨hne, hm⟩
  · rintro (hm | ⟨hne, hm⟩)
    · refine ⟨.inl hm, ?_⟩
      rintro rfl
      exact Pattern.slash_not_mem_of_matches hn hm (by decide)
    · exact ⟨.inr hm, hne⟩

/-- The cuts at the `*` of a last segment, unless the condition excludes the root:
    for folders that come to nothing they are those of the last segment alone. -/
theorem exists_join_root_iff :
    (∃ u v, Pattern.lastSegment p = u ++ star :: v ∧
      (⟨join (direct p).path (u ++ [star]), star :: v⟩ : Location).Matches i ∧
        (⟨join (direct p).path (u ++ [star]), star :: v⟩ : Location) ≠ ⟨"*", "*"⟩) ↔
      simplify (direct p).path = rootPath ∧ Pattern.lastSegment p ≠ [star] ∧
        Glob.Matches AnyChar (Pattern.lastSegment p) i.fullPath := by
  have hslash := Pattern.slash_not_mem_lastSegment p
  obtain ⟨hlast, hfolder⟩ := Pattern.lastSegment_of_not_mem hslash
  have hu {u v : Text} (h : Pattern.lastSegment p = u ++ star :: v) : .char '/' ∉ u ++ [star] :=
    slash_not_mem_concat_star fun hm => hslash (h ▸ List.mem_append_left _ hm)
  rw [matches_fullPath_iff_spells_or hn, hlast, hfolder,
    or_iff_right fun hs : Pattern.Spells (Pattern.lastSegment p) i => hslash hs.slash_mem]
  constructor
  · rintro ⟨u, v, h, hm, hne⟩
    obtain ⟨hp, hm⟩ := (matches_join_root_iff hi (isClean_concat_star u) (hu h)).1 hm
    refine ⟨hp, fun hstar => hne ?_, u, v, h, hm⟩
    obtain ⟨rfl, rfl⟩ := Pattern.eq_nil_of_lone_star (hstar.symm.trans h)
    rw [join_of_simplify_eq_rootPath (isClean_concat_star []) (hu h) hp]
    rfl
  · rintro ⟨hp, hstar, u, v, h, hm⟩
    refine ⟨u, v, h, (matches_join_root_iff hi (isClean_concat_star u) (hu h)).2 ⟨hp, hm⟩, ?_⟩
    rw [join_of_simplify_eq_rootPath (isClean_concat_star u) (hu h) hp]
    intro heq
    obtain ⟨hcut, hname⟩ := Location.mk.inj heq
    -- The two bare `*` are the two halves of a bare `*`.
    obtain rfl : u = [] := List.append_cancel_right (hcut.trans (List.nil_append _).symm)
    obtain rfl : v = [] := (List.cons.inj hname).2
    exact hstar h

end Folders

end Location

/-! ## Items found -/

/-- What a search for folders finds in the root: the condition of the two bare `*`
    leaves the root out. -/
theorem Pattern.ReadsFolders.selects_root_iff {p bare repo rest : Text}
    (hread : Pattern.ReadsFolders p bare repo rest) {i : Item} (hi : i.path = rootPath)
    (hn : .char '/' ∉ i.name) (fields : List Text) :
    ∃ f, (Query.folders p fields).source = .generated f ∧
      (f.Selects i ↔ Glob.Matches AnyChar rest i.name ∨
        (rest ≠ "*/*" ∧ Glob.Matches NoSlash rest i.fullPath) ∨
          (Location.simplify (Location.direct rest).path = rootPath ∧
            lastSegment rest ≠ [star] ∧ Glob.Matches AnyChar (lastSegment rest) i.fullPath)) := by
  refine ⟨_, hread.source_folders fields, ?_⟩
  have hmem {l : Location} := Location.mem_ofFolderPattern_iff_join hread.slash_not_mem
    hread.stripParens_pattern hread.not_endsWith_slash (l := l)
  have hselects {l : Location} :
      Satisfies (i.field folderType) (l.toJson folderType) ↔ l.Matches i ∧ l ≠ ⟨"*", "*"⟩ := by
    rw [Location.satisfies_toJson_iff]
    simp [hi]
  rw [← or_assoc, ← Location.matches_direct_root_ne_stars_iff hi hn,
    ← Location.exists_join_root_iff hi hn]
  constructor
  · rintro ⟨condition, hc, hs⟩
    obtain ⟨l, hl, rfl⟩ := List.mem_map.1 hc
    rcases hmem.1 hl with rfl | ⟨u, v, h, rfl⟩
    · exact .inl (hselects.1 hs)
    · exact .inr ⟨u, v, h, hselects.1 hs⟩
  · rintro (hs | ⟨u, v, h, hs⟩)
    · exact ⟨_, List.mem_map_of_mem (hmem.2 (.inl rfl)), hselects.2 hs⟩
    · exact ⟨_, List.mem_map_of_mem (hmem.2 (.inr ⟨u, v, h, rfl⟩)), hselects.2 hs⟩

/-- Which items of the root a pattern finds: those whose name it matches, and those
    whose full path it comes to, slash by slash without recursion, and with
    recursion like the full path of any item. A search for folders leaves out the
    pattern `*/*`; where the folders of the pattern come to nothing, it looks for its
    last segment. -/
theorem Query.finds_in_root (rest : Text) {i : Item} (hi : i.path = rootPath)
    (hn : .char '/' ∉ i.name) :
    ((∃ l ∈ Location.ofFilePattern rest false, l.Matches i) ↔
        Glob.Matches AnyChar rest i.name ∨ Glob.Matches NoSlash rest i.fullPath) ∧
      ((∃ l ∈ Location.ofFilePattern rest true, l.Matches i) ↔
        Glob.Matches AnyChar rest i.name ∨
          Pattern.Finds (Pattern.withoutLoneSlash rest) i.fullPath) ∧
      ∀ (p bare repo : Text) (fields : List Text), Pattern.ReadsFolders p bare repo rest →
        ∃ f, (Query.folders p fields).source = .generated f ∧
          (f.Selects i ↔ Glob.Matches AnyChar rest i.name ∨
            (rest ≠ "*/*" ∧ Glob.Matches NoSlash rest i.fullPath) ∨
              (Location.simplify (Location.direct rest).path = rootPath ∧
                Pattern.lastSegment rest ≠ [star] ∧
                  Glob.Matches AnyChar (Pattern.lastSegment rest) i.fullPath)) :=
  ⟨Location.exists_mem_ofFilePattern_false_root_iff hi hn,
    Location.exists_mem_ofFilePattern_true_root_iff hi hn,
    fun _ _ _ fields hread => hread.selects_root_iff hi hn fields⟩

/-- For `.*b` the search with recursion comes to `b` by its full path, the one
    without does not. -/
theorem Query.finds_in_root_dot :
    (⟨".", "b"⟩ : Item).path = rootPath ∧ .char '/' ∉ (⟨".", "b"⟩ : Item).name ∧
      (∃ l ∈ Location.ofFilePattern (".*b" : String) true, l.Matches ⟨".", "b"⟩) ∧
      ¬(∃ l ∈ Location.ofFilePattern (".*b" : String) false, l.Matches ⟨".", "b"⟩) ∧
      Pattern.ReadsFolders ("repo/(.*b)/" : String) ("repo/.*b" : String) ("repo" : String)
        (".*b" : String) ∧
      ∃ f, (Query.folders ("repo/(.*b)/" : String) []).source = .generated f ∧
        f.Selects ⟨".", "b"⟩ := by
  have hi : (⟨".", "b"⟩ : Item).path = rootPath := rfl
  have hn : .char '/' ∉ (⟨".", "b"⟩ : Item).name := by decide
  have hread : Pattern.ReadsFolders ("repo/(.*b)/" : String) ("repo/.*b" : String)
      ("repo" : String) (".*b" : String) :=
    ⟨⟨1, by decide⟩, by decide, by decide, .inr (by decide)⟩
  -- The run of the `*` is the slash.
  have hfull : Glob.Matches AnyChar (".*b" : String) (⟨".", "b"⟩ : Item).fullPath :=
    .char (by decide) (@Matches.star _ ['/'] _ _ (fun _ _ => trivial) (.char (by decide) .nil))
  have hname : ¬Glob.Matches AnyChar (".*b" : String) (⟨".", "b"⟩ : Item).name := fun h =>
    absurd (h.mem (c := .char '.') (by decide) (by decide)) (by decide)
  have hslash : ¬Glob.Matches NoSlash (".*b" : String) (⟨".", "b"⟩ : Item).fullPath := fun h =>
    absurd (h.count_eq (c := .char '/') (by decide) (by simp [NoSlash])) (by decide)
  obtain ⟨hflat, hdeep, hfolders⟩ := Query.finds_in_root (".*b" : String) hi hn
  obtain ⟨f, hf, hselects⟩ := hfolders _ _ _ [] hread
  refine ⟨hi, hn, hdeep.2 (.inr ⟨fun ho => ?_, fun _ => hfull⟩), ?_, hread, f, hf, ?_⟩
  · exact absurd ho.1 (by decide)
  · exact fun h => (hflat.1 h).elim hname hslash
  · exact hselects.2 (.inr (.inr ⟨by decide, by decide, hfull⟩))

/-- The pattern `*/x` does not match `x`, and yet each search for it finds the item
    `x` of the root, whose folder `.` is one that a `*` stands for. -/
theorem Query.finds_in_root_unmatched :
    ¬Glob.Matches AnyChar ("*/x" : String) ("x" : String) ∧
      (∀ recursive, ∃ l ∈ Location.ofFilePattern ("*/x" : String) recursive,
        l.Matches ⟨rootPath, "x"⟩) ∧
      ∃ f, (Query.folders ("repo/*/x" : String) []).source = .generated f ∧
        f.Selects ⟨rootPath, "x"⟩ := by
  have hm : (⟨"*", "x"⟩ : Location).Matches ⟨rootPath, "x"⟩ :=
    ⟨matches_star rootPath, Matches.refl_of_not_mem (by decide)⟩
  refine ⟨fun h => ?_, fun recursive => ⟨⟨"*", "x"⟩, ?_, hm⟩, ?_⟩
  · exact absurd (h.mem (c := .char '/') (by decide) (by decide)) (by decide)
  · cases recursive <;> decide
  · refine ⟨⟨"repo", [⟨"*", "x"⟩], [], folderType⟩, by decide, ?_⟩
    exact ⟨_, List.mem_singleton.2 rfl, Location.satisfies_toJson_iff.2 ⟨hm, by decide⟩⟩

end Depot.Search
