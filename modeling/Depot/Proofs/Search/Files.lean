import Depot.Proofs.Search.Decomposition
import Mathlib.Data.List.Basic

/-!
# Searches for files

A recursive search for files cuts the last segment of its pattern between the sections
that its `*` part, which is at every `*` but one at the very end (`cutsBetween_pieces`,
`mem_ofFilePattern_iff`). The run of that one therefore stays in the name of an item, and
this is the only way in which the search differs from the pattern: it finds what
`Pattern.Finds` says (`exists_mem_ofFilePattern_iff`).
-/

namespace Depot.Search

open Glob

namespace Pattern

/-- The last segment of a pattern ends in a `*` and is more than this `*`. -/
def EndsOpen (p : Text) : Prop := Text.endsWith star p ∧ lastSegment p ≠ [star]

/-- The texts that a search for files by a pattern is to find: those that the
    pattern matches, where the `*` at the end of a last segment stands for a text
    without slash unless it is the whole segment. -/
def Finds (p t : Text) : Prop :=
  (EndsOpen p → ∃ a b, t = a ++ b ∧ Matches AnyChar p.dropLast a ∧ .char '/' ∉ b) ∧
    (¬EndsOpen p → Matches AnyChar p t)

end Pattern

namespace Location

/-! ## Cuts -/

/-- The ways to cut a name at one of its `*`, given the part of the name before it. A `*` at
    the very end of the name is not cut. -/
def cuts (before : Text) : Text → List (Text × Text)
  | [] => []
  | c :: rest =>
    let here := if c = Glob.star ∧ rest ≠ [] then [(before ++ [c], c :: rest)] else []
    here ++ cuts (before ++ [c]) rest

/-- Without a `*` in front, the cuts are those of what comes after. -/
theorem cuts_append_cons {before t : Text} (ht : Glob.star ∉ t) (rest : Text) :
    cuts before (t ++ Glob.star :: rest) =
      (if rest = [] then [] else [(before ++ t ++ [Glob.star], Glob.star :: rest)]) ++
        cuts (before ++ t ++ [Glob.star]) rest := by
  induction t generalizing before with
  | nil => by_cases h : rest = [] <;> simp [cuts, h]
  | cons c t ih =>
    rw [List.mem_cons, not_or] at ht
    simp only [List.cons_append, cuts, Ne.symm ht.1, false_and, if_false, List.nil_append,
      ih ht.2, List.append_assoc]

theorem cuts_of_not_mem {before t : Text} (ht : Glob.star ∉ t) : cuts before t = [] := by
  induction t generalizing before with
  | nil => rfl
  | cons c t ih =>
    rw [List.mem_cons, not_or] at ht
    simp only [cuts, Ne.symm ht.1, false_and, if_false, List.nil_append, ih ht.2]

section

variable (t u : Text) (ts : List Text)

theorem cutAfter?_zero :
    cutAfter? (t :: u :: ts) 0 =
      if Text.joined [Glob.star] (u :: ts) = [] then none
      else some (t ++ [Glob.star], Glob.star :: Text.joined [Glob.star] (u :: ts)) := by
  have hlast : (0 = ts.length ∧ (u :: ts)[ts.length]? = some []) ↔
      Text.joined [Glob.star] (u :: ts) = [] := by
    cases ts with
    | nil => simp [Text.joined_singleton]
    | cons v ts => simp [Text.joined_cons_cons]
  simp only [cutAfter?, List.length_cons, Nat.add_sub_cancel, List.getElem?_cons_succ, hlast,
    List.take_succ_cons, List.take_zero, List.drop_succ_cons, List.drop_zero,
    Text.joined_singleton, List.singleton_append]

/-- Behind a later section the cut is that of the later sections. -/
theorem cutAfter?_succ {i : Nat} (hi : i < ts.length) :
    cutAfter? (t :: u :: ts) (i + 1) =
      (cutAfter? (u :: ts) i).map fun c => (t ++ [Glob.star] ++ c.1, c.2) := by
  have hlast : i + 1 = ts.length ↔ i = ts.length - 1 := by omega
  have hjoin : Text.joined [Glob.star] ((t :: u :: ts).take (i + 2)) =
      t ++ [Glob.star] ++ Text.joined [Glob.star] ((u :: ts).take (i + 1)) := by
    rw [List.take_succ_cons, List.take_succ_cons, Text.joined_cons_cons, List.append_assoc]
  simp only [cutAfter?, List.length_cons, Nat.add_sub_cancel, List.getElem?_cons_succ, hlast,
    hjoin, List.drop_succ_cons]
  split
  · rfl
  · simp only [Option.map_some, List.append_assoc]

/-- The first cut is behind the first section, unless nothing is left. The others are those
    of what is left. -/
theorem cutsBetween_cons_cons :
    cutsBetween (t :: u :: ts) =
      (if Text.joined [Glob.star] (u :: ts) = [] then []
        else [(t ++ [Glob.star], Glob.star :: Text.joined [Glob.star] (u :: ts))]) ++
      (cutsBetween (u :: ts)).map fun c => (t ++ [Glob.star] ++ c.1, c.2) := by
  have hrest : (List.range ts.length).filterMap (cutAfter? (t :: u :: ts) ∘ Nat.succ) =
      (cutsBetween (u :: ts)).map fun c => (t ++ [Glob.star] ++ c.1, c.2) := by
    rw [cutsBetween, List.map_filterMap]
    exact List.filterMap_congr fun i hi => cutAfter?_succ t u ts (List.mem_range.1 hi)
  rw [cutsBetween, List.length_cons, Nat.add_sub_cancel, List.length_cons,
    List.range_succ_eq_map, List.filterMap_cons, List.filterMap_map, hrest, cutAfter?_zero]
  split
  · next h => split at h <;> simp_all
  · next h => split at h <;> simp_all

end

/-- Cutting a name between its sections is cutting it at its `*`. -/
theorem cutsBetween_pieces (name : Text) :
    cutsBetween (Text.pieces Glob.star name) = cuts [] name := by
  -- By induction on the sections, with what has been passed before them.
  have key : ∀ sections : List Text, (∀ t ∈ sections, Glob.star ∉ t) → ∀ before : Text,
      (cutsBetween sections).map (fun c => (before ++ c.1, c.2)) =
        cuts before (Text.joined [Glob.star] sections) := by
    intro sections hsections
    induction sections with
    | nil => exact fun _ => rfl
    | cons t ts ih =>
      obtain ⟨ht, hts⟩ := List.forall_mem_cons.1 hsections
      intro before
      cases ts with
      | nil =>
        rw [Text.joined_singleton, cuts_of_not_mem ht]
        rfl
      | cons u ts =>
        have hrest := ih hts (before ++ t ++ [Glob.star])
        simp only [List.append_assoc] at hrest
        rw [Text.joined_cons_cons, List.singleton_append, cuts_append_cons ht,
          cutsBetween_cons_cons, List.map_append, List.map_map]
        simp only [Function.comp_def, List.append_assoc, hrest]
        split <;> rfl
  have hpieces := key (Text.pieces Glob.star name) (fun _ ht => Text.not_mem_of_mem_pieces ht) []
  simp only [List.nil_append, List.map_id'] at hpieces
  rw [hpieces]
  exact congrArg (cuts []) (Text.intercalate_pieces Glob.star name)

/-- A search for files leaves out the `*` at the very end. -/
theorem cuts_eq_filter (before t : Text) :
    cuts before t = (splits before t).filter fun s => s.2 ≠ [Glob.star] := by
  induction t generalizing before with
  | nil => rfl
  | cons c t ih =>
    rw [cuts, splits, List.filter_append, ih]
    congr 1
    by_cases hc : c = star <;> by_cases ht : t = [] <;> simp [hc, ht]

theorem mem_cuts_iff {before t a b : Text} :
    (a, b) ∈ cuts before t ↔
      ∃ u v, t = u ++ star :: v ∧ v ≠ [] ∧ a = before ++ u ++ [star] ∧ b = star :: v := by
  rw [cuts_eq_filter, List.mem_filter, mem_splits_iff]
  constructor
  · rintro ⟨⟨u, v, rfl, rfl, rfl⟩, hv⟩
    exact ⟨u, v, rfl, by simpa using hv, rfl, rfl⟩
  · rintro ⟨u, v, rfl, hv, rfl, rfl⟩
    exact ⟨⟨u, v, rfl, rfl, rfl⟩, by simpa using hv⟩

/-! ## Open ends -/

/-- A `*` at the end of a last segment leaves the name of an item open. -/
theorem exists_append_iff_exists_name {p : Text} {i : Item} (hn : .char '/' ∉ i.name) :
    (∃ a b, i.fullPath = a ++ b ∧ Glob.Matches AnyChar p a ∧ .char '/' ∉ b) ↔
      ∃ n b, i.name = n ++ b ∧ Glob.Matches AnyChar p (⟨i.path, n⟩ : Item).fullPath := by
  constructor
  · rintro ⟨a, b, hab, ha, hb⟩
    -- The last slash of the item is before the open end.
    rcases List.append_eq_append_iff.1 hab with ⟨q, rfl, hq⟩ | ⟨q, _, hq⟩
    · cases q with
      | nil =>
        rw [List.nil_append] at hq
        exact absurd (hq ▸ List.mem_cons_self) hb
      | cons c n =>
        obtain ⟨rfl, hname⟩ := List.cons.inj hq
        exact ⟨n, b, hname, ha⟩
    · exact absurd (hq ▸ List.mem_append_right q List.mem_cons_self) hb
  · rintro ⟨n, b, hname, ha⟩
    refine ⟨_, b, ?_, ha, fun h => hn (hname ▸ List.mem_append_right n h)⟩
    rw [Item.fullPath, Item.fullPath, hname, List.append_assoc, List.cons_append]

end Location

namespace Pattern

variable {p : Text} {i : Item}

/-- A search for files cuts the pattern at a `*` of its last segment where the
    item lies. -/
def CutsAt (p : Text) (i : Item) : Prop :=
  ∃ u v, lastSegment p = u ++ star :: v ∧ (v = [] → lastSegment p = [star]) ∧
    (⟨folderPart p ++ u ++ [star], star :: v⟩ : Location).Matches i

/-- A pattern with an open end is a pattern with a `*` behind it. -/
theorem EndsOpen.dropLast_append (h : EndsOpen p) : p.dropLast ++ [star] = p := by
  have hne : p ≠ [] := fun hp => absurd h.1 (by rw [hp]; decide)
  have hlast : p.getLast hne = star := by
    have := of_decide_eq_true h.1
    rw [List.getLast?_eq_some_getLast hne] at this
    exact Option.some.inj this
  exact hlast ▸ List.dropLast_concat_getLast hne

variable (hn : .char '/' ∉ i.name)

include hn

/-- Without an open end, no cut is left out. -/
theorem matches_iff_of_not_endsOpen (ho : ¬EndsOpen p) :
    Matches AnyChar p i.fullPath ↔ Spells p i ∨ CutsAt p i := by
  rw [Location.matches_fullPath_iff_spells_or hn]
  refine or_congr_right ⟨?_, fun ⟨u, v, h, _, hm⟩ => ⟨u, v, h, hm⟩⟩
  rintro ⟨u, v, h, hm⟩
  refine ⟨u, v, h, ?_, hm⟩
  rintro rfl
  refine Decidable.byContradiction fun hne => ho ⟨Text.endsWith_iff.2 ⟨folderPart p ++ u, ?_⟩, hne⟩
  rw [List.append_assoc, ← h, folderPart_append_lastSegment]

/-- With an open end, the cuts are those of the pattern before it. -/
theorem exists_name_iff_of_endsOpen {g : Text} (hg : p = g ++ [star]) (ho : EndsOpen p) :
    (∃ n b, i.name = n ++ b ∧ Matches AnyChar g (⟨i.path, n⟩ : Item).fullPath) ↔
      Spells p i ∨ CutsAt p i := by
  obtain ⟨hlast, hfolder⟩ := lastSegment_concat g (c := star) (by decide)
  rw [← hg] at hlast hfolder
  have below {n b : Text} (h : i.name = n ++ b) :
      Matches AnyChar g (⟨i.path, n⟩ : Item).fullPath ↔ _ :=
    Location.matches_fullPath_iff_spells_or (i := ⟨i.path, n⟩)
      fun hs => hn (h ▸ List.mem_append_left b hs)
  -- The cuts of the pattern are those before its last star: at that star it is not cut.
  constructor
  · rintro ⟨n, b, hname, hm⟩
    rcases (below hname).1 hm with hm | ⟨u, v, h, hm⟩
    · exact .inl (hg ▸ spells_concat_star_iff.2 ⟨n, b, hname, hm⟩)
    · refine .inr ⟨u, v ++ [star], ?_, fun h => absurd h (by simp), hfolder ▸ hm.1, ?_⟩
      · rw [hlast, h, List.append_assoc, List.cons_append]
      · exact matches_append_star_iff.2 ⟨n, b, hname, hm.2⟩
  · rintro (hm | ⟨u, v, h, hv, hm⟩)
    · obtain ⟨n, b, hname, hs⟩ := spells_concat_star_iff.1 (hg ▸ hm)
      exact ⟨n, b, hname, (below hname).2 (.inl hs)⟩
    · have hne : v ≠ [] := fun h => ho.2 (hv h)
      rcases List.eq_nil_or_concat v with rfl | ⟨v, c, rfl⟩
      · exact absurd rfl hne
      rw [hlast, List.concat_eq_append, ← List.cons_append, ← List.append_assoc] at h
      obtain ⟨hu, hc⟩ := List.append_inj' h rfl
      obtain rfl := (List.cons.inj hc).1
      rw [List.concat_eq_append, ← List.cons_append] at hm
      obtain ⟨n, b, hname, hb⟩ := matches_append_star_iff.1 hm.2
      exact ⟨n, b, hname, (below hname).2 (.inr ⟨u, v, hu, hfolder ▸ hm.1, hb⟩)⟩

/-- What a pattern is to find lies where it spells out, or where it is cut. -/
theorem finds_iff : Finds p i.fullPath ↔ Spells p i ∨ CutsAt p i := by
  by_cases ho : EndsOpen p
  · rw [← exists_name_iff_of_endsOpen hn ho.dropLast_append.symm ho,
      ← Location.exists_append_iff_exists_name hn]
    exact ⟨fun h => h.1 ho, fun h => ⟨fun _ => h, fun h' => absurd ho h'⟩⟩
  · rw [← matches_iff_of_not_endsOpen hn ho]
    exact ⟨fun h => h.2 ho, fun h => ⟨fun h' => absurd h' ho, fun _ => h⟩⟩

end Pattern

namespace Location

/-! ## Locations of a pattern -/

section Files

-- Only a pattern such as `/name`, whose last slash has nothing before it, is left out.
variable {p : Text} (hp : ∀ path name, Text.cutLast '/' p = some (path, name) → path ≠ [])

include hp

theorem enter_folder :
    enter (((Text.cutLast '/' p).map (·.1)).getD []) = Pattern.folderPart p := by
  rw [Pattern.folderPart]
  cases h : Text.cutLast '/' p with
  | none => rfl
  | some s => exact if_neg (hp s.1 s.2 h)

/-- The locations of the files that a pattern stands for: the direct one, but for a
    bare `*`, and a cut at each `*` of the last segment but one at the end of a longer
    segment. -/
theorem ofFilePattern_true :
    ofFilePattern p true = (if p = [star] then [] else [direct p]) ++
      ((splits [] (Pattern.lastSegment p)).filter fun s : Text × Text =>
        s.2 ≠ [star] ∨ Pattern.lastSegment p = [star]).map fun s =>
          ⟨Pattern.folderPart p ++ s.1, s.2⟩ := by
  by_cases hstar : p = [star]
  · subst hstar
    rfl
  rw [ofFilePattern, if_neg hstar, if_neg hstar]
  simp only [Bool.not_true, Bool.false_eq_true, if_false, name_direct]
  by_cases hname : Pattern.lastSegment p = [star]
  · -- The last segment is a `*`, and the path has a slash before it.
    have hfolder : ((Text.cutLast '/' p).map (·.1)).getD [] ++ ("/*" : Text) =
        Pattern.folderPart p ++ [star] := by
      have hmem : Text.cutLast '/' p ≠ none := by
        intro h
        refine hstar ?_
        rw [← hname, Pattern.lastSegment, h]
      obtain ⟨s, hs⟩ := Option.ne_none_iff_exists'.1 hmem
      rw [Pattern.folderPart, hs]
      exact (List.append_assoc s.1 [.char '/'] [star]).symm
    rw [if_pos hname, hfolder, hname]
    rfl
  · rw [if_neg hname, enter_folder hp, cutsBetween_pieces, cuts_eq_filter]
    simp only [hname, or_false]
    rfl

theorem mem_ofFilePattern_iff {l : Location} :
    l ∈ ofFilePattern p true ↔ (p ≠ [star] ∧ l = direct p) ∨
      ∃ u v, Pattern.lastSegment p = u ++ star :: v ∧
        (v = [] → Pattern.lastSegment p = [star]) ∧
          l = ⟨Pattern.folderPart p ++ u ++ [star], star :: v⟩ := by
  have hdirect : l ∈ (if p = [star] then [] else [direct p]) ↔ p ≠ [star] ∧ l = direct p := by
    by_cases hstar : p = [star] <;> simp [hstar]
  rw [ofFilePattern_true hp, List.mem_append, List.mem_map, hdirect]
  refine or_congr_right ⟨?_, ?_⟩
  · rintro ⟨⟨a, b⟩, hs, rfl⟩
    obtain ⟨hs, hv⟩ := List.mem_filter.1 hs
    obtain ⟨u, v, h, rfl, rfl⟩ := mem_splits_iff.1 hs
    refine ⟨u, v, h, fun hnil => ?_, by simp⟩
    simpa [hnil] using hv
  · rintro ⟨u, v, h, hv, rfl⟩
    refine ⟨(u ++ [star], star :: v), List.mem_filter.2 ⟨?_, ?_⟩, by simp⟩
    · exact mem_splits_iff.2 ⟨u, v, h, rfl, rfl⟩
    · by_cases hnil : v = []
      · simp [hv hnil]
      · simp [hnil]

variable {i : Item}

/-- Beside the items that its pattern is to find, a search for files finds those
    in the root that the pattern matches by their name. -/
theorem exists_mem_ofFilePattern_iff_or :
    (∃ l ∈ ofFilePattern p true, l.Matches i) ↔
      (i.path = rootPath ∧ .char '/' ∉ p ∧ Glob.Matches AnyChar p i.name) ∨
        Pattern.Spells p i ∨ Pattern.CutsAt p i := by
  rw [← or_assoc, ← matches_direct_iff_or]
  constructor
  · rintro ⟨l, hl, hm⟩
    rcases (mem_ofFilePattern_iff hp).1 hl with ⟨_, rfl⟩ | ⟨u, v, h, hv, rfl⟩
    · exact .inl hm
    · exact .inr ⟨u, v, h, hv, hm⟩
  · rintro (hm | ⟨u, v, h, hv, hm⟩)
    · by_cases hstar : p = [star]
      · -- A bare `*` stands for every folder, the root among them.
        subst hstar
        exact ⟨⟨[star], [star]⟩, List.mem_singleton.2 rfl, matches_star _, hm.2⟩
      · exact ⟨_, (mem_ofFilePattern_iff hp).2 (.inl ⟨hstar, rfl⟩), hm⟩
    · exact ⟨_, (mem_ofFilePattern_iff hp).2 (.inr ⟨u, v, h, hv, rfl⟩), hm⟩

variable (hi : i.path ≠ rootPath) (hn : .char '/' ∉ i.name)

include hi hn

/-- Without an open end, a search for files finds what the pattern matches. -/
theorem exists_mem_ofFilePattern_of_not_endsOpen (ho : ¬Pattern.EndsOpen p) :
    (∃ l ∈ ofFilePattern p true, l.Matches i) ↔ Glob.Matches AnyChar p i.fullPath := by
  rw [exists_mem_ofFilePattern_iff_or hp, Pattern.matches_iff_of_not_endsOpen hn ho]
  exact or_iff_right fun h => hi h.1

/-- With an open end, a search for files finds the items with a name that begins
    as the rest of the pattern says. -/
theorem exists_mem_ofFilePattern_of_endsOpen {g : Text} (hg : p = g ++ [star])
    (ho : Pattern.EndsOpen p) :
    (∃ l ∈ ofFilePattern p true, l.Matches i) ↔
      ∃ n b, i.name = n ++ b ∧ Glob.Matches AnyChar g (⟨i.path, n⟩ : Item).fullPath := by
  rw [exists_mem_ofFilePattern_iff_or hp, Pattern.exists_name_iff_of_endsOpen hn hg ho]
  exact or_iff_right fun h => hi h.1

/-- Below the root a recursive search for files is exact: some location of the
    pattern takes an item exactly when the pattern is to find it. -/
theorem exists_mem_ofFilePattern_iff :
    (∃ l ∈ ofFilePattern p true, l.Matches i) ↔ Pattern.Finds p i.fullPath := by
  by_cases ho : Pattern.EndsOpen p
  · have hne : p ≠ [] := fun h => absurd ho.1 (by rw [h]; decide)
    have hlast : p.getLast hne = star := by
      have := of_decide_eq_true ho.1
      rw [List.getLast?_eq_some_getLast hne] at this
      exact Option.some.inj this
    have hg : p = p.dropLast ++ [star] := hlast ▸ (List.dropLast_concat_getLast hne).symm
    rw [exists_mem_ofFilePattern_of_endsOpen hp hi hn hg ho, ← exists_append_iff_exists_name hn]
    exact ⟨fun h => ⟨fun _ => h, fun h' => absurd ho h'⟩, fun h => h.1 ho⟩
  · rw [exists_mem_ofFilePattern_of_not_endsOpen hp hi hn ho]
    exact ⟨fun h => ⟨fun h' => absurd h' ho, fun _ => h⟩, fun h => h.2 ho⟩

end Files

theorem exists_mem_ofFilePattern_iff_library :
    (∀ path name, Text.cutLast '/' ("lib/x*y**" : String) = some (path, name) → path ≠ []) ∧
      ("lib/x1" : String) ≠ rootPath ∧ .char '/' ∉ Text.ofString "zy-2.jar" ∧
      ((∃ l ∈ ofFilePattern ("lib/x*y**" : String) true, l.Matches ⟨"lib/x1", "zy-2.jar"⟩) ↔
        Pattern.Finds ("lib/x*y**" : String) (⟨"lib/x1", "zy-2.jar"⟩ : Item).fullPath) := by
  have hp : ∀ path name, Text.cutLast '/' ("lib/x*y**" : String) = some (path, name) →
      path ≠ [] := by
    intro path name h
    have hcut : Text.cutLast '/' ("lib/x*y**" : String) =
        some (Text.ofString "lib", Text.ofString "x*y**") := rfl
    rw [hcut] at h
    obtain ⟨rfl, rfl⟩ := Prod.mk.inj (Option.some.inj h)
    decide
  have hi : ("lib/x1" : String) ≠ rootPath := by decide
  have hn : .char '/' ∉ Text.ofString "zy-2.jar" := by decide
  exact ⟨hp, hi, hn, exists_mem_ofFilePattern_iff hp hi hn⟩

end Location

end Depot.Search
