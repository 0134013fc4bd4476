import Depot.Proofs.Search.Decomposition
import Depot.Proofs.Search.Paths

/-!
# Searches for folders

A search for folders cuts its pattern at every `*` of the last segment
(`mem_ofFolderPattern_iff`), so it finds whatever the pattern matches
(`exists_mem_folders_iff`).

Each cut is joined to the folders before it, which puts the path in its shortest
form (`mem_ofFolderPattern_iff_join`). For folders with names of their own, neither
empty nor `.` nor `..`, this is to write one path behind the other.
-/

namespace Depot.Search

open Glob

namespace Location

/-! ## Searches for folders -/

theorem isClean_concat_star (u : Text) : IsClean (u ++ [star]) := by
  refine ⟨by simp, fun h => ?_, fun h => ?_⟩ <;>
    exact absurd (congrArg List.getLast? h) (by rw [List.getLast?_concat]; decide)

theorem slash_not_mem_concat_star {u : Text} (hu : .char '/' ∉ u) : .char '/' ∉ u ++ [star] := by
  rw [List.mem_append, not_or]
  exact ⟨hu, by decide⟩

/-- A cut at a `*` of the last segment goes on the folders before it. -/
theorem join_direct {p u : Text} (hclean : ∀ s ∈ (Text.pieces '/' p).dropLast, IsClean s)
    (hu : .char '/' ∉ u) :
    join (direct p).path (u ++ [star]) = Pattern.folderPart p ++ u ++ [star] := by
  have hs := isClean_concat_star u
  have hslash := slash_not_mem_concat_star hu
  cases h : Text.cutLast '/' p with
  | none =>
    rw [direct, Pattern.folderPart, h]
    exact join_rootPath hs hslash
  | some s =>
    have hpath : ∀ s' ∈ Text.pieces '/' s.1, IsClean s' := by
      have hname := Text.pieces_of_not_mem (Text.not_mem_of_cutLast h)
      rw [Text.append_of_cutLast h, Text.pieces_append_cons, hname, List.dropLast_concat] at hclean
      exact hclean
    rw [direct, Pattern.folderPart, h]
    rw [join_of_isClean hpath hs hslash, List.append_assoc, List.append_assoc]
    rfl

/-- The locations of the folders that a pattern with a repository stands for: the
    direct one, and for each `*` of the last segment what is joined to the folders
    before it. Parentheses in the repository say nothing. -/
theorem ofFolderPattern_eq {repo rest : Text} (hrepo : .char '/' ∉ repo)
    (hparens : Pattern.stripParens rest = rest)
    (hend : ¬Text.endsWith '/' (repo ++ .char '/' :: rest)) :
    ofFolderPattern (repo ++ .char '/' :: rest) =
      direct rest :: (splits [] (Pattern.lastSegment rest)).map fun s =>
        ⟨join (direct rest).path s.1, s.2⟩ := by
  have hstrip : Pattern.stripParens (repo ++ .char '/' :: rest) =
      Pattern.stripParens repo ++ .char '/' :: rest := by
    rw [List.append_cons, Pattern.stripParens_append, Pattern.stripParens_append, hparens,
      List.append_assoc]
    rfl
  have hrepo' : .char '/' ∉ Pattern.stripParens repo := fun h => hrepo (List.mem_filter.1 h).1
  have hsplit : Pattern.splitRepository (Pattern.stripParens repo ++ .char '/' :: rest) =
      (Pattern.stripParens repo, rest) := by
    rw [Pattern.splitRepository, Text.cut_append_cons hrepo']
    rfl
  rw [ofFolderPattern, if_neg hend, hstrip]
  simp only [List.mem_append, List.mem_cons, true_or, or_true, if_true, hsplit, name_direct]

theorem mem_ofFolderPattern_iff_join {repo rest : Text} (hrepo : .char '/' ∉ repo)
    (hparens : Pattern.stripParens (repo ++ .char '/' :: rest) = repo ++ .char '/' :: rest)
    (hend : ¬Text.endsWith '/' (repo ++ .char '/' :: rest)) {l : Location} :
    l ∈ ofFolderPattern (repo ++ .char '/' :: rest) ↔ l = direct rest ∨
      ∃ u v, Pattern.lastSegment rest = u ++ star :: v ∧
        l = ⟨join (direct rest).path (u ++ [star]), star :: v⟩ := by
  have hrest : Pattern.stripParens rest = rest :=
    List.filter_eq_self.2 fun c hc =>
      List.filter_eq_self.1 hparens c (List.mem_append_right repo (List.mem_cons_of_mem _ hc))
  rw [ofFolderPattern_eq hrepo hrest hend, List.mem_cons, List.mem_map]
  refine or_congr_right ⟨?_, ?_⟩
  · rintro ⟨⟨a, b⟩, hs, rfl⟩
    obtain ⟨u, v, h, rfl, rfl⟩ := mem_splits_iff.1 hs
    exact ⟨u, v, h, by rw [List.nil_append]⟩
  · rintro ⟨u, v, h, rfl⟩
    exact ⟨(u ++ [star], star :: v), mem_splits_iff.2 ⟨u, v, h, rfl, rfl⟩, rfl⟩

/-- The locations of the folders that a pattern with a repository stands for:
    the direct one, and a cut for each `*` of the last segment. -/
theorem mem_ofFolderPattern_iff {repo rest : Text} (hrepo : .char '/' ∉ repo)
    (hparens : Pattern.stripParens (repo ++ .char '/' :: rest) = repo ++ .char '/' :: rest)
    (hend : ¬Text.endsWith '/' (repo ++ .char '/' :: rest))
    (hclean : ∀ s ∈ (Text.pieces '/' rest).dropLast, IsClean s) {l : Location} :
    l ∈ ofFolderPattern (repo ++ .char '/' :: rest) ↔ l = direct rest ∨
      ∃ u v, Pattern.lastSegment rest = u ++ star :: v ∧
        l = ⟨Pattern.folderPart rest ++ u ++ [star], star :: v⟩ := by
  rw [mem_ofFolderPattern_iff_join hrepo hparens hend]
  have hjoin {u v : Text} (h : Pattern.lastSegment rest = u ++ star :: v) :
      join (direct rest).path (u ++ [star]) = Pattern.folderPart rest ++ u ++ [star] :=
    join_direct hclean fun hm =>
      Pattern.slash_not_mem_lastSegment rest (h ▸ List.mem_append_left _ hm)
  constructor
  · rintro (rfl | ⟨u, v, h, rfl⟩)
    · exact .inl rfl
    · exact .inr ⟨u, v, h, by rw [hjoin h]⟩
  · rintro (rfl | ⟨u, v, h, rfl⟩)
    · exact .inl rfl
    · exact .inr ⟨u, v, h, by rw [hjoin h]⟩

end Location

/-- A pattern `p` asks for the folders `rest` of a repository: without its
    parentheses and the slashes at its end it reads `repo/rest`, or `repo` alone,
    which asks for all folders. -/
structure Pattern.ReadsFolders (p bare repo rest : Text) : Prop where
  /-- What is left of the pattern. -/
  stripped : ∃ slashes, stripParens p = bare ++ Text.repeated slashes '/'
  bare_end : ¬Text.endsWith '/' bare
  slash_not_mem : .char '/' ∉ repo
  reads : bare = repo ∧ rest = [star] ∨ bare = repo ++ .char '/' :: rest

namespace Pattern.ReadsFolders

variable {p bare repo rest : Text} (h : Pattern.ReadsFolders p bare repo rest)

include h

theorem stripSlashes :
    ((stripParens p).reverse.dropWhile Text.isSlash).reverse = bare := by
  obtain ⟨slashes, hs⟩ := h.stripped
  have hall : ∀ c ∈ Text.repeated slashes '/', Text.isSlash c = true := fun c hc => by
    rw [List.eq_of_mem_replicate hc]
    rfl
  have hbare : bare.reverse.dropWhile Text.isSlash = bare.reverse := by
    rcases List.eq_nil_or_concat bare with rfl | ⟨q, c, rfl⟩
    · rfl
    · have hc : Text.isSlash c = false := by
        have := h.bare_end
        rw [List.concat_eq_append, Text.endsWith, List.getLast?_concat] at this
        simpa [Text.isSlash] using this
      simp [hc]
  rw [hs, List.reverse_append, List.dropWhile_append_of_pos, hbare, List.reverse_reverse]
  exact fun c hc => hall c (List.mem_reverse.1 hc)

/-- What is left of a pattern has no parentheses. -/
theorem stripParens_bare : stripParens bare = bare := by
  obtain ⟨slashes, hs⟩ := h.stripped
  refine List.filter_eq_self.2 fun c hc => ?_
  have hc : c ∈ stripParens p := hs ▸ List.mem_append_left _ hc
  exact (List.mem_filter.1 hc).2

theorem stripParens_pattern :
    stripParens (repo ++ .char '/' :: rest) = repo ++ .char '/' :: rest := by
  have hbare := h.stripParens_bare
  rcases h.reads with ⟨rfl, rfl⟩ | rfl
  · rw [stripParens_append, hbare]
    rfl
  · exact hbare

theorem not_endsWith_slash : ¬Text.endsWith '/' (repo ++ .char '/' :: rest) := by
  have hend := h.bare_end
  rcases h.reads with ⟨rfl, rfl⟩ | rfl
  · rw [Text.endsWith_append _ _ (List.cons_ne_nil _ _)]
    decide
  · exact hend

/-- The query for the folders that a pattern asks for. -/
theorem source_folders (fields : List Text) :
    (Query.folders p fields).source =
      .generated ⟨repo, Location.ofFolderPattern (repo ++ .char '/' :: rest), [], folderType⟩ := by
  have hsplit : splitRepository bare = (repo, if bare = repo then [] else rest) := by
    rcases h.reads with ⟨rfl, rfl⟩ | hb
    · rw [splitRepository, Text.cut_eq_none_iff.2 h.slash_not_mem, if_pos rfl]
      rfl
    · rw [if_neg (by rw [hb]; simp), hb, splitRepository, Text.cut_append_cons h.slash_not_mem]
      rfl
  -- A pattern for folders does not end with a slash, so something is left behind the repository.
  have hrest : rest ≠ [] := by
    rintro rfl
    exact h.not_endsWith_slash (by simp [Text.endsWith])
  have hboth : (if (if bare = repo then [] else rest) = [] then [star] else
      if bare = repo then [] else rest) = rest := by
    rcases h.reads with ⟨rfl, rfl⟩ | hb
    · simp
    · simp [hb, hrest]
  simp only [Query.folders, h.stripSlashes, hsplit, hboth]
  rw [List.append_assoc]
  rfl

end Pattern.ReadsFolders

/-- Below the root a search for folders is exact: some location of its query
    takes an item exactly when the pattern matches its full path. -/
theorem exists_mem_folders_iff {p bare repo rest : Text}
    (hread : Pattern.ReadsFolders p bare repo rest)
    (hclean : ∀ s ∈ (Text.pieces '/' rest).dropLast, Location.IsClean s) {i : Item}
    (hi : i.path ≠ rootPath) (hn : .char '/' ∉ i.name) (fields : List Text) :
    ∃ f, (Query.folders p fields).source = .generated f ∧
      ((∃ l ∈ f.locations, l.Matches i) ↔ Glob.Matches AnyChar rest i.fullPath) := by
  refine ⟨_, hread.source_folders fields, ?_⟩
  have hmem {l : Location} := Location.mem_ofFolderPattern_iff hread.slash_not_mem
    hread.stripParens_pattern hread.not_endsWith_slash hclean (l := l)
  rw [Location.matches_fullPath_iff hi hn]
  constructor
  · rintro ⟨l, hl, hm⟩
    rcases hmem.1 hl with rfl | ⟨u, v, h, rfl⟩
    · exact .inl hm
    · exact .inr ⟨u, v, h, hm⟩
  · rintro (hm | ⟨u, v, h, hm⟩)
    · exact ⟨_, hmem.2 (.inl rfl), hm⟩
    · exact ⟨_, hmem.2 (.inr ⟨u, v, h, rfl⟩), hm⟩

theorem exists_mem_folders_iff_library :
    Pattern.ReadsFolders ("repo/(a)/b*c*//" : String) ("repo/a/b*c*" : String)
        ("repo" : String) ("a/b*c*" : String) ∧
      (∀ s ∈ (Text.pieces '/' ("a/b*c*" : String)).dropLast, Location.IsClean s) ∧
      ("a/b1" : String) ≠ rootPath ∧ .char '/' ∉ Text.ofString "2c-d" ∧
      ∃ f, (Query.folders ("repo/(a)/b*c*//" : String) []).source = .generated f ∧
        ((∃ l ∈ f.locations, l.Matches ⟨"a/b1", "2c-d"⟩) ↔
          Glob.Matches AnyChar ("a/b*c*" : String) (⟨"a/b1", "2c-d"⟩ : Item).fullPath) := by
  have hread : Pattern.ReadsFolders ("repo/(a)/b*c*//" : String) ("repo/a/b*c*" : String)
      ("repo" : String) ("a/b*c*" : String) :=
    ⟨⟨2, by decide⟩, by decide, by decide, .inr (by decide)⟩
  have hclean : ∀ s ∈ (Text.pieces '/' ("a/b*c*" : String)).dropLast, Location.IsClean s := by
    intro s hs
    obtain rfl := List.mem_singleton.1 (show s ∈ [Text.ofString "a"] from hs)
    exact ⟨by decide, by decide, by decide⟩
  have hi : ("a/b1" : String) ≠ rootPath := by decide
  have hn : .char '/' ∉ Text.ofString "2c-d" := by decide
  exact ⟨hread, hclean, hi, hn, exists_mem_folders_iff hread hclean hi hn []⟩

end Depot.Search
