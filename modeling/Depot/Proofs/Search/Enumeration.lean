import Depot.Proofs.Search.Files
import Depot.Proofs.Search.Folders

/-!
# Every cut once

The locations that a search lists for a pattern are the direct one and cuts of the
pattern at a `*` of its last segment, which goes to both sides (`Location.cutAt`).
A cut can be undone: its path, without the `*` at its end, and its name make up the
pattern (`Location.IsCut`). No two cuts are the same, and none is the direct location
(`Location.enumerates_cuts`).

Which `*` are cut is said by their places in the last segment (`Glob.places`). A search
for folders goes by all of them, a recursive search for files by those of
`Pattern.innerPlaces` (`Location.enumerates`).
-/

namespace Depot

namespace Glob

/-! ## Places of a star -/

/-- The places of the `*` of a glob, from left to right. -/
def places (g : Text) : List Nat := (List.range g.length).filter fun k => g[k]? = some star

theorem mem_places_iff {g : Text} {k : Nat} : k ∈ places g ↔ g[k]? = some star := by
  rw [places, List.mem_filter, List.mem_range, decide_eq_true_iff, and_iff_right_iff_imp]
  exact fun h => (List.getElem?_eq_some_iff.1 h).1

theorem pairwise_places (g : Text) : (places g).Pairwise (· < ·) :=
  List.pairwise_lt_range.filter _

theorem places_cons (c : CodePoint) (g : Text) :
    places (c :: g) = (if c = star then [0] else []) ++ (places g).map (· + 1) := by
  rw [places, List.length_cons, List.range_succ_eq_map, List.filter_cons, List.filter_map]
  by_cases hc : c = star <;> simp [hc, places, Function.comp_def]

end Glob

namespace Search

open Glob

/-- The places of the `*` at which a search for files cuts a pattern: all in its last segment,
    but for one at the end of a segment that is more than this `*`. -/
def Pattern.innerPlaces (p : Text) : List Nat :=
  (places (lastSegment p)).filter fun k =>
    k + 1 ≠ (lastSegment p).length ∨ lastSegment p = [star]

namespace Location

variable {p : Text} {l : Location} {ks : List Nat} {k : Nat}

/-- The location that comes of cutting a pattern at a place of its last segment. What is
    there stays on both sides. -/
def cutAt (p : Text) (k : Nat) : Location :=
  ⟨Pattern.folderPart p ++ (Pattern.lastSegment p).take (k + 1), (Pattern.lastSegment p).drop k⟩

/-- A location is a cut of a pattern at one of its `*`. -/
structure IsCut (p : Text) (l : Location) : Prop where
  path_end : Text.endsWith star l.path
  name_start : Text.startsWith star l.name
  /-- The `*` was there once. -/
  glued : l.path.dropLast ++ l.name = p

/-- A list of locations goes through the cuts of a pattern at some places, after the direct
    location, and has each of them once. -/
structure Enumerates (p : Text) (ks : List Nat) (ls : List Location) : Prop where
  eq_cons : ls = direct p :: ks.map (cutAt p)
  isCut : ∀ l ∈ ls.tail, IsCut p l
  nodup : ls.Nodup

/-- The places of a `*` are found from left to right. -/
theorem splits_eq_map (before t : Text) :
    splits before t = (places t).map fun k => (before ++ t.take (k + 1), t.drop k) := by
  induction t generalizing before with
  | nil => rfl
  | cons c t ih =>
    rw [splits, ih, places_cons, List.map_append, List.map_map]
    congr 1
    · by_cases hc : c = star <;> simp [hc]
    · simp [Function.comp_def]

/-! ## Cuts -/

theorem isCut_cutAt (hk : (Pattern.lastSegment p)[k]? = some star) : IsCut p (cutAt p k) := by
  obtain ⟨hlt, hstar⟩ := List.getElem?_eq_some_iff.1 hk
  have hpath : (cutAt p k).path =
      (Pattern.folderPart p ++ (Pattern.lastSegment p).take k) ++ [star] := by
    rw [cutAt, List.take_succ_eq_append_getElem hlt, hstar, List.append_assoc]
  refine ⟨Text.endsWith_iff.2 ⟨_, hpath⟩, ?_, ?_⟩
  · simp [cutAt, Text.startsWith, hk]
  · rw [hpath, List.dropLast_concat, cutAt, List.append_assoc, List.take_append_drop,
      Pattern.folderPart_append_lastSegment]

/-- The direct location has the slash between path and name, or the root for its path. -/
theorem IsCut.ne_direct (h : IsCut p l) : l ≠ direct p := by
  rintro rfl
  obtain ⟨hend, -, hglued⟩ := h
  cases hcut : Text.cutLast '/' p with
  | none =>
    simp only [direct, hcut] at hend
    exact absurd hend (by decide)
  | some s =>
    simp only [direct, hcut] at hglued
    have hlength := congrArg List.length (hglued.trans (Text.append_of_cutLast hcut))
    rw [List.length_append, List.length_append, List.length_dropLast, List.length_cons] at hlength
    omega

/-- The further to the right a pattern is cut, the less is left for the name. -/
theorem cutAt_ne {k' : Nat} (hk : k < (Pattern.lastSegment p).length) (hlt : k < k') :
    cutAt p k ≠ cutAt p k' := by
  intro h
  have hlength := congrArg (fun l : Location => l.name.length) h
  simp only [cutAt, List.length_drop] at hlength
  omega

/-- Cuts at some of the `*` of the last segment, from left to right. -/
theorem enumerates_of_sublist (h : ks.Sublist (places (Pattern.lastSegment p))) :
    Enumerates p ks (direct p :: ks.map (cutAt p)) := by
  have hstar : ∀ k ∈ ks, (Pattern.lastSegment p)[k]? = some star := fun k hk =>
    mem_places_iff.1 (h.subset hk)
  have hcuts : ∀ l ∈ ks.map (cutAt p), IsCut p l := by
    rw [List.forall_mem_map]
    exact fun k hk => isCut_cutAt (hstar k hk)
  refine ⟨rfl, hcuts, List.nodup_cons.2 ⟨fun hd => (hcuts _ hd).ne_direct rfl, ?_⟩⟩
  rw [List.Nodup, List.pairwise_map]
  refine ((pairwise_places _).sublist h).imp_of_mem fun hk _ hlt => ?_
  exact cutAt_ne (List.getElem?_eq_some_iff.1 (hstar _ hk)).1 hlt

/-! ## Searches -/

theorem enumerates_files (hp : ∀ path name, Text.cutLast '/' p = some (path, name) → path ≠ [])
    (hstar : p ≠ [star]) : Enumerates p (Pattern.innerPlaces p) (ofFilePattern p true) := by
  have hcuts : ofFilePattern p true = direct p :: (Pattern.innerPlaces p).map (cutAt p) := by
    rw [ofFilePattern_true hp, if_neg hstar, splits_eq_map, List.filter_map, List.map_map,
      List.singleton_append, Pattern.innerPlaces]
    congr 2
    refine List.filter_congr fun k hk => ?_
    obtain ⟨hlt, hk⟩ := List.getElem?_eq_some_iff.1 (mem_places_iff.1 hk)
    -- The `*` is all that is left of the segment when it is the end of it.
    have hlast : (Pattern.lastSegment p).drop k = [star] ↔
        k + 1 = (Pattern.lastSegment p).length := by
      rw [List.drop_eq_getElem_cons hlt, hk, List.cons.injEq, List.drop_eq_nil_iff,
        and_iff_right rfl]
      omega
    simp [hlast]
  exact hcuts ▸ enumerates_of_sublist List.filter_sublist

theorem enumerates_folders {repo : Text} (hrepo : .char '/' ∉ repo)
    (hparens : Pattern.stripParens p = p) (hend : ¬Text.endsWith '/' (repo ++ .char '/' :: p))
    (hclean : ∀ s ∈ (Text.pieces '/' p).dropLast, IsClean s) :
    Enumerates p (places (Pattern.lastSegment p)) (ofFolderPattern (repo ++ .char '/' :: p)) := by
  have hcuts : ofFolderPattern (repo ++ .char '/' :: p) =
      direct p :: (places (Pattern.lastSegment p)).map (cutAt p) := by
    rw [ofFolderPattern_eq hrepo hparens hend, splits_eq_map, List.map_map]
    congr 1
    refine List.map_congr_left fun k hk => ?_
    obtain ⟨hlt, hk⟩ := List.getElem?_eq_some_iff.1 (mem_places_iff.1 hk)
    have hslash : .char '/' ∉ (Pattern.lastSegment p).take k := fun h =>
      Pattern.slash_not_mem_lastSegment p (List.mem_of_mem_take h)
    simp only [Function.comp_apply, List.nil_append, cutAt]
    rw [List.take_succ_eq_append_getElem hlt, hk, join_direct hclean hslash, List.append_assoc]
  exact hcuts ▸ enumerates_of_sublist (List.Sublist.refl _)

/-- What is found without recursion is found with it, in the root and below it. -/
theorem exists_mem_ofFilePattern_true {i : Item} (h : ∃ l ∈ ofFilePattern p false, l.Matches i) :
    ∃ l ∈ ofFilePattern p true, l.Matches i := by
  obtain ⟨l, hl, hm⟩ := h
  by_cases hstar : p = [star]
  · -- The direct location of a bare `*` is for the root alone.
    subst hstar
    obtain rfl := List.mem_singleton.1 hl
    exact ⟨⟨[star], [star]⟩, List.mem_singleton.2 rfl, matches_star _, hm.2⟩
  · rw [ofFilePattern_false, List.mem_singleton] at hl
    obtain ⟨ls, hls⟩ := exists_ofFilePattern_eq_cons hstar true
    exact ⟨l, hls ▸ hl ▸ List.mem_cons_self, hm⟩

/-- The searches for a pattern list the direct location, and behind it every cut once.
    A search for files that is not recursive lists the direct location alone, and finds
    nothing that the recursive one does not find. -/
theorem enumerates_cuts (p : Text) :
    (p ≠ [star] → (∀ path name, Text.cutLast '/' p = some (path, name) → path ≠ []) →
      Enumerates p (Pattern.innerPlaces p) (ofFilePattern p true)) ∧
    ofFilePattern p false = [direct p] ∧
    (∀ i : Item, (∃ l ∈ ofFilePattern p false, l.Matches i) →
      ∃ l ∈ ofFilePattern p true, l.Matches i) ∧
    ∀ repo : Text, .char '/' ∉ repo → p ≠ [] → .char '(' ∉ p → .char ')' ∉ p →
      ¬Text.endsWith '/' p → (∀ s ∈ (Text.pieces '/' p).dropLast, IsClean s) →
        Enumerates p (places (Pattern.lastSegment p))
          (ofFolderPattern (repo ++ .char '/' :: p)) := by
  refine ⟨fun hstar hp => enumerates_files hp hstar, ofFilePattern_false p,
    fun i => exists_mem_ofFilePattern_true, ?_⟩
  intro repo hrepo hne hopen hclose hend hclean
  have hparens : Pattern.stripParens p = p := by
    refine List.filter_eq_self.2 fun c hc => ?_
    have hc' : c ≠ '(' ∧ c ≠ ')' := ⟨fun h => hopen (h ▸ hc), fun h => hclose (h ▸ hc)⟩
    simpa using hc'
  refine enumerates_folders hrepo hparens ?_ hclean
  rwa [List.append_cons, Text.endsWith_append _ _ hne]

theorem enumerates_cuts_library :
    let p : Text := "lib/x*y**"
    p ≠ [star] ∧ (∀ path name, Text.cutLast '/' p = some (path, name) → path ≠ []) ∧
      Enumerates p [1, 3] (ofFilePattern p true) ∧
      (∃ l ∈ ofFilePattern p false, l.Matches ⟨"lib", "x-y"⟩) ∧
      (∃ l ∈ ofFilePattern p true, l.Matches ⟨"lib", "x-y"⟩) ∧
      .char '/' ∉ Text.ofString "repo" ∧ p ≠ [] ∧ .char '(' ∉ p ∧ .char ')' ∉ p ∧
      ¬Text.endsWith '/' p ∧ (∀ s ∈ (Text.pieces '/' p).dropLast, IsClean s) ∧
      Enumerates p [1, 3, 4] (ofFolderPattern ("repo" ++ .char '/' :: p)) := by
  intro p
  obtain ⟨files, -, found, folders⟩ := enumerates_cuts p
  have hstar : p ≠ [star] := by decide
  have hp : ∀ path name, Text.cutLast '/' p = some (path, name) → path ≠ [] := by
    intro path name h
    have hcut : Text.cutLast '/' p = some (Text.ofString "lib", Text.ofString "x*y**") := rfl
    rw [hcut] at h
    obtain ⟨rfl, -⟩ := Prod.mk.inj (Option.some.inj h)
    decide
  have hfound : ∃ l ∈ ofFilePattern p false, l.Matches ⟨"lib", "x-y"⟩ := by
    refine ⟨⟨"lib", "x*y**"⟩, by decide, Matches.refl_of_not_mem (by decide), ?_⟩
    -- The first `*` stands for `-`, the other two for nothing.
    have hname : Glob.Matches AnyChar "y**" "y" :=
      .char (by decide) ((matches_star []).append (matches_star []))
    exact .char (by decide) ((matches_star "-").append hname)
  have hrepo : .char '/' ∉ Text.ofString "repo" := by decide
  have hclean : ∀ s ∈ (Text.pieces '/' p).dropLast, IsClean s := by
    intro s hs
    obtain rfl := List.mem_singleton.1 (show s ∈ [Text.ofString "lib"] from hs)
    exact ⟨by decide, by decide, by decide⟩
  exact ⟨hstar, hp, files hstar hp, hfound, found _ hfound, hrepo, by decide, by decide, by decide,
    by decide, hclean,
    folders "repo" hrepo (by decide) (by decide) (by decide) (by decide) hclean⟩

end Location

end Search

end Depot
