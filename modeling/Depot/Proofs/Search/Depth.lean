import Depot.Proofs.Search.Decomposition

/-!
# Searches without recursion

A search for files that does not recurse keeps a pattern whole: it looks at one
location, the last slash of the pattern being the one between path and name
(`exists_mem_ofFilePattern_false_iff`). The `*` of the last segment are thereby
kept from leaving a folder, since a name has no slash.

The `*` of the folders before it are not, for the glob on the path has no notion
of folders. `ofFilePattern_false_finds` draws the line: for the patterns that
spell out their folders every item found lies where the pattern says, at its
depth, and any other pattern finds an item deeper down. The deeper item is the
pattern itself with its runs filled in (`Glob.fill`): slashes on the way to the
last folder, nothing in the name.
-/

namespace Depot

namespace Glob

/-! ## Filling in runs -/

/-- The text that a glob stands for when every `*` is one and the same run. -/
def fill (run g : Text) : Text := g.flatMap fun c => if c = star then run else [c]

variable {ok : CodePoint → Prop} {run : Text}

theorem matches_fill (h : ∀ c ∈ run, ok c) (g : Text) : Matches ok g (fill run g) := by
  induction g with
  | nil => exact .nil
  | cons c g ih =>
    rw [fill, List.flatMap_cons]
    by_cases hc : c = star
    · subst hc
      rw [if_pos rfl]
      exact .star h ih
    · rw [if_neg hc]
      exact .char hc ih

theorem count_fill {c : CodePoint} (hc : c ≠ star) (run g : Text) :
    (fill run g).count c = g.count c + g.count star * run.count c := by
  induction g with
  | nil => simp [fill]
  | cons d g ih =>
    rw [fill, List.flatMap_cons, List.count_append, ← fill, ih]
    by_cases hd : d = star
    · subst hd
      rw [if_pos rfl, List.count_cons_of_ne (Ne.symm hc), List.count_cons_self, Nat.succ_mul]
      omega
    · rw [if_neg hd, List.count_cons_of_ne hd, List.count_cons, List.count_cons]
      simp only [List.count_nil]
      omega

/-- A glob without `*` stands for nothing but itself. -/
theorem eq_of_matches_of_not_mem {g t : Text} (hg : star ∉ g) (h : Matches ok g t) : t = g := by
  induction h with
  | nil => rfl
  | char _ _ ih => rw [ih fun hm => hg (List.mem_cons_of_mem _ hm)]
  | star _ _ _ => exact absurd List.mem_cons_self hg

end Glob

namespace Search

open Glob

variable {p : Text} {i : Item}

namespace Location

/-- Below the root, a search without recursion finds what the pattern spells. -/
theorem exists_mem_ofFilePattern_false_iff (hi : i.path ≠ rootPath) :
    (∃ l ∈ ofFilePattern p false, l.Matches i) ↔ Pattern.Spells p i := by
  rw [← matches_direct_iff hi]
  simp [ofFilePattern_false]

end Location

namespace Pattern

/-- What a search without recursion finds for a pattern lies at the depth of the
    pattern: no run of a `*` leaves a folder. -/
def KeepsDepth (p : Text) : Prop :=
  ∀ i : Item, i.path ≠ rootPath → .char '/' ∉ i.name →
    (∃ l ∈ Location.ofFilePattern p false, l.Matches i) →
      Matches NoSlash p i.fullPath ∧ i.fullPath.count (.char '/') = p.count (.char '/')

theorem folderPart_of_cutLast {path name : Text} (h : Text.cutLast '/' p = some (path, name)) :
    folderPart p = path ++ [.char '/'] := by
  rw [folderPart, h]

theorem star_mem_folderPart_iff {path name : Text} (h : Text.cutLast '/' p = some (path, name)) :
    star ∈ folderPart p ↔ star ∈ path := by
  rw [folderPart_of_cutLast h, List.mem_append]
  exact or_iff_left (by decide)

/-- Folders that are spelled out leave nothing to a run, and names have no slash. -/
theorem matches_noSlash_of_spells (hstar : star ∉ folderPart p) (hn : .char '/' ∉ i.name)
    (h : Spells p i) : Matches NoSlash p i.fullPath := by
  obtain ⟨path, name, hcut, hpath, hname⟩ := h
  have hfree : star ∉ path := fun hm => hstar ((star_mem_folderPart_iff hcut).2 hm)
  have hsame : i.path = path := eq_of_matches_of_not_mem hfree hpath
  refine (Location.matches_noSlash_fullPath_iff hn).2 ⟨path, name, hcut, ?_, ?_⟩
  · rw [hsame]
    exact Matches.refl_of_not_mem hfree
  · exact (matches_noSlash_iff hn).2 hname

/-- A `*` on the way to the last folder may stand for a slash. -/
theorem exists_spells_deeper (hstar : star ∈ folderPart p) :
    ∃ i : Item, i.path ≠ rootPath ∧ .char '/' ∉ i.name ∧ Spells p i ∧
      p.count (.char '/') < i.fullPath.count (.char '/') := by
  obtain ⟨⟨path, name⟩, hcut⟩ : ∃ s, Text.cutLast '/' p = some s := by
    refine Option.ne_none_iff_exists'.1 fun h => ?_
    rw [folderPart, h] at hstar
    exact absurd hstar List.not_mem_nil
  -- Each `*` of the folders becomes a slash, those of the name become nothing.
  have hslash : (.char '/' : CodePoint) ≠ star := by decide
  have hname : name.count (.char '/') = 0 :=
    List.count_eq_zero.2 (Text.not_mem_of_cutLast hcut)
  have hpath : 0 < path.count star :=
    List.count_pos_iff.2 ((star_mem_folderPart_iff hcut).1 hstar)
  have hdeep : (fill ['/'] path).count (.char '/') = path.count (.char '/') + path.count star := by
    rw [count_fill hslash, List.count_singleton_self, Nat.mul_one]
  have hflat : (fill [] name).count (.char '/') = 0 := by
    rw [count_fill hslash, hname, List.count_nil, Nat.mul_zero]
  refine ⟨⟨fill ['/'] path, fill [] name⟩, ?_, ?_, ⟨path, name, hcut, ?_, ?_⟩, ?_⟩
  · intro (h : fill ['/'] path = rootPath)
    have hroot : rootPath.count (.char '/') = 0 := by decide
    rw [← h] at hroot
    omega
  · exact List.count_eq_zero.1 hflat
  · exact matches_fill (fun _ _ => trivial) path
  · exact matches_fill (fun _ _ => trivial) name
  · rw [Text.append_of_cutLast hcut, Item.fullPath]
    simp only [List.count_append, List.count_cons_self, hdeep, hflat, hname]
    omega

end Pattern

namespace Location

/-- Below the root a search without recursion finds the items whose folder is
    matched, with any runs, by the folders of the pattern, and whose name by its
    last segment. So it keeps to the depth of the pattern exactly when these
    folders are spelled out. -/
theorem ofFilePattern_false_finds (p : Text) :
    (∀ i : Item, i.path ≠ rootPath → .char '/' ∉ i.name →
      ((∃ l ∈ ofFilePattern p false, l.Matches i) ↔
        ∃ path name, Text.cutLast '/' p = some (path, name) ∧
          Glob.Matches AnyChar path i.path ∧ Glob.Matches NoSlash name i.name)) ∧
      (Pattern.KeepsDepth p ↔ star ∉ Pattern.folderPart p) := by
  refine ⟨fun i hi hn => ?_, ?_, ?_⟩
  · rw [exists_mem_ofFilePattern_false_iff hi]
    simp only [Pattern.Spells, Location.Matches, matches_noSlash_iff hn]
  · intro h hstar
    obtain ⟨i, hi, hn, hspells, hdeeper⟩ := Pattern.exists_spells_deeper hstar
    have hcount := (h i hi hn ((exists_mem_ofFilePattern_false_iff hi).2 hspells)).2
    omega
  · intro hstar i hi hn hfound
    have hm := Pattern.matches_noSlash_of_spells hstar hn
      ((exists_mem_ofFilePattern_false_iff hi).1 hfound)
    exact ⟨hm, hm.count_eq (c := .char '/') (by decide) (by simp [NoSlash])⟩

/-- Without recursion `*/x` finds `x` in the folder `a/b`, two folders down. -/
theorem ofFilePattern_false_finds_deeper :
    Text.ofString "a/b" ≠ rootPath ∧ .char '/' ∉ Text.ofString "x" ∧
      (∃ l ∈ ofFilePattern ("*/x" : String) false, l.Matches ⟨"a/b", "x"⟩) ∧
      ¬Glob.Matches NoSlash ("*/x" : String) (⟨"a/b", "x"⟩ : Item).fullPath := by
  refine ⟨by decide, by decide, ⟨⟨"*", "x"⟩, by decide, ?_, ?_⟩, fun h => ?_⟩
  · exact matches_star _
  · exact Matches.refl_of_not_mem (by decide)
  · exact absurd (h.count_eq (c := .char '/') (by decide) (by simp [NoSlash])) (by decide)

end Location

end Search

end Depot
