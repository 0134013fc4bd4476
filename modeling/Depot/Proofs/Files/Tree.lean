import Depot.Files.Tree

/-!
# Following paths in file trees

What a tree holds is seen through `Tree.lookup` and `Tree.names`, neither of which
depends on the order of the entries as long as every location is listed once
(`Tree.Unique`, `lookup_perm`).

A path whose text and names are within the limits (`Path.IsShort`) is followed
name by name: the place of a child is one name behind the place of its folder
(`locate_child`). Where a path leads does not depend on what is below a location
that the path does not go through (`LeadsTo`).
-/

namespace Depot.Files

variable {t t' : Tree} {l l' m : Location} {e : Entry} {n : Text} {p : Path} {here : Location}

namespace Tree

/-! ## Entries -/

/-- Every location is listed at most once. -/
def Unique (t : Tree) : Prop := (t.entries.map (·.1)).Nodup

theorem lookup_ne_none_iff (hl : l ≠ []) : t.lookup l ≠ none ↔ l ∈ t.entries.map (·.1) := by
  rw [lookup, if_neg hl, Ne, Option.map_eq_none_iff, List.find?_eq_none]
  simp

theorem lookup_eq_some_iff (ht : t.Unique) (hl : l ≠ []) :
    t.lookup l = some e ↔ (l, e) ∈ t.entries := by
  obtain ⟨entries⟩ := t
  rw [lookup, if_neg hl]
  induction entries with
  | nil => simp
  | cons x xs ih =>
    rw [Unique, List.map_cons, List.nodup_cons] at ht
    rw [List.find?_cons, List.mem_cons]
    by_cases hx : x.1 = l
    · have hnot : (l, e) ∉ xs := fun h => ht.1 (hx ▸ List.mem_map_of_mem h)
      simp only [hx, decide_true, Option.map_some, Option.some.injEq, hnot, or_false]
      exact ⟨fun h => by rw [← hx, ← h], fun h => by rw [← h]⟩
    · have hne : (l, e) ≠ x := fun h => hx (by rw [← h])
      simp only [hx, decide_false, ih ht.2, hne, false_or]

theorem Unique.put (ht : t.Unique) (l : Location) (e : Entry) : (t.put l e).Unique := by
  rw [Unique, Tree.put, List.map_cons, List.nodup_cons]
  refine ⟨by simp, ?_⟩
  exact ht.sublist (List.filter_sublist.map _)

theorem Unique.prune (ht : t.Unique) (l : Location) : (t.prune l).Unique :=
  ht.sublist (List.filter_sublist.map _)

/-- The order of the entries makes no difference. -/
theorem lookup_perm (ht : t.Unique) (h : t.entries.Perm t'.entries) (l : Location) :
    t'.lookup l = t.lookup l := by
  have ht' : t'.Unique := (h.map _).nodup ht
  by_cases hl : l = []
  · rw [hl, lookup, lookup, if_pos rfl, if_pos rfl]
  · refine Option.ext fun e => ?_
    rw [lookup_eq_some_iff ht hl, lookup_eq_some_iff ht' hl, h.mem_iff]

/-! ## Names in a folder -/

theorem mem_names_iff : n ∈ t.names l ↔ t.lookup (l ++ [n]) ≠ none := by
  rw [lookup_ne_none_iff (by simp), names, List.mem_mergeSort, List.mem_filterMap, List.mem_map]
  refine exists_congr fun x => and_congr_right fun _ => ?_
  rw [Option.ite_none_right_eq_some, List.getLast?_eq_some_iff]
  constructor
  · rintro ⟨⟨_, rfl⟩, ys, hys⟩
    rw [hys, List.dropLast_concat]
  · rintro hx
    rw [hx]
    exact ⟨⟨by simp, List.dropLast_concat⟩, l, rfl⟩

theorem nodup_names (ht : t.Unique) (l : Location) : (t.names l).Nodup := by
  rw [names, (List.mergeSort_perm _ _).nodup_iff, List.Nodup, List.pairwise_filterMap]
  refine (List.pairwise_map.1 ht).imp fun {x y} hne n hx n' hy hn => hne ?_
  rw [Option.ite_none_right_eq_some, List.getLast?_eq_some_iff] at hx hy
  obtain ⟨⟨_, hx⟩, xs, hxs⟩ := hx
  obtain ⟨⟨_, hy⟩, ys, hys⟩ := hy
  rw [hxs, List.dropLast_concat] at hx
  rw [hys, List.dropLast_concat] at hy
  rw [hxs, hys, hx, hy, hn]

theorem pairwise_names (t : Tree) (l : Location) : (t.names l).Pairwise (· ≤ ·) :=
  Text.pairwise_mergeSort id _

/-- The names in a folder are the ones for which there is something in it, in order. -/
theorem names_eq_of_mem_iff {ns : List Text} (ht : t.Unique) (hnodup : ns.Nodup)
    (hsorted : ns.Pairwise (· ≤ ·)) (h : ∀ n, t.lookup (l ++ [n]) ≠ none ↔ n ∈ ns) :
    t.names l = ns := by
  have hperm : (t.names l).Perm ns :=
    (List.perm_ext_iff_of_nodup (nodup_names ht l) hnodup).2 fun n => mem_names_iff.trans (h n)
  exact hperm.eq_of_pairwise (fun _ _ _ _ => List.le_antisymm) (pairwise_names t l) hsorted

end Tree

/-! ## Short paths -/

/-- The text of the path and its names are not too long for the system, and no NUL
    is in it. -/
structure Path.IsShort (p : Path) : Prop where
  noNul : .char '\x00' ∉ p.text
  text : (Utf8.encode p.text).length ≤ Tree.maxPath
  name : ∀ n ∈ p.names, (Utf8.encode n).length ≤ Tree.maxName

instance (p : Path) : Decidable p.IsShort :=
  decidable_of_iff (.char '\x00' ∉ p.text ∧ (Utf8.encode p.text).length ≤ Tree.maxPath ∧
    ∀ n ∈ p.names, (Utf8.encode n).length ≤ Tree.maxName)
    ⟨fun ⟨h, h', h''⟩ => ⟨h, h', h''⟩, fun ⟨h, h', h''⟩ => ⟨h, h', h''⟩⟩

namespace Path

theorem absolute_child (here : Location) (p : Path) (n : Text) :
    (p.child n).absolute here = p.absolute here ++ [n] := by
  rw [absolute, absolute, child]
  split <;> simp

/-- What stands in front of the name in the text of a child does not depend on the name. -/
theorem exists_text_child (p : Path) : ∃ t, (∀ n, (p.child n).text = t ++ n) ∧
    (t = [] ∧ p.text = [.char '.'] ∨ t = p.text ∨ t = p.text ++ [.char '/']) := by
  have hchild (n : Text) : (p.child n).text = p.root ++ Text.joined "/" (p.names ++ [n]) := by
    rw [text, if_neg (by simp [child]), names_child]
    rfl
  by_cases hnames : p.names = []
  · refine ⟨p.root, fun n => by rw [hchild, hnames, List.nil_append, Text.joined_singleton], ?_⟩
    by_cases hroot : p.root = []
    · exact .inl ⟨hroot, by rw [text, if_pos ⟨hroot, hnames⟩]⟩
    · refine .inr (.inl ?_)
      rw [text, if_neg fun h => hroot h.1, hnames]
      simp [Text.joined]
  · refine ⟨p.text ++ [.char '/'], fun n => ?_, .inr (.inr rfl)⟩
    rw [hchild, text, if_neg fun h => hnames h.2, Text.joined_concat _ _ hnames]
    simp only [List.append_assoc]
    rfl

theorem mem_text_child {c : CodePoint} (h : c ∈ (p.child n).text) :
    c ∈ p.text ∨ c = '/' ∨ c ∈ n := by
  obtain ⟨t, htext, ht⟩ := exists_text_child p
  rw [htext, List.mem_append] at h
  rcases h with h | h
  · rcases ht with ⟨rfl, _⟩ | rfl | rfl
    · exact absurd h List.not_mem_nil
    · exact .inl h
    · rw [List.mem_append, List.mem_singleton] at h
      exact h.imp id .inl
  · exact .inr (.inr h)

/-- The folder of a short path is short. -/
theorem IsShort.of_child (h : (p.child n).IsShort) : p.IsShort := by
  have hnames : ∀ n' ∈ p.names, (Utf8.encode n').length ≤ Tree.maxName :=
    fun n' hn' => h.name n' (List.mem_append_left [n] hn')
  obtain ⟨t, htext, ht⟩ := exists_text_child p
  have hlength := h.text
  have hnul := h.noNul
  rw [htext, Utf8.encode_append, List.length_append] at hlength
  rw [htext, List.mem_append, not_or] at hnul
  rcases ht with ⟨_, hp⟩ | rfl | rfl
  · exact ⟨by rw [hp]; decide, by rw [hp]; decide, hnames⟩
  · exact ⟨hnul.1, by omega, hnames⟩
  · rw [Utf8.encode_append, List.length_append] at hlength
    exact ⟨fun hmem => hnul.1 (List.mem_append_left _ hmem), by omega, hnames⟩

/-- A path is short when one in the same folder with a longer name is. -/
theorem IsShort.of_sibling {n' : Text} (h : (p.child n').IsShort) (hnul : .char '\x00' ∉ n)
    (hlength : (Utf8.encode n).length ≤ (Utf8.encode n').length) : (p.child n).IsShort := by
  obtain ⟨t, htext, _⟩ := exists_text_child p
  have hshort := h.text
  have hnul' := h.noNul
  have hname := h.name n' (List.mem_append_right _ List.mem_cons_self)
  rw [htext, Utf8.encode_append, List.length_append] at hshort
  rw [htext, List.mem_append, not_or] at hnul'
  refine ⟨?_, ?_, ?_⟩
  · rw [htext, List.mem_append, not_or]
    exact ⟨hnul'.1, hnul⟩
  · rw [htext, Utf8.encode_append, List.length_append]
    omega
  · exact List.forall_mem_append.2 ⟨h.of_child.name, List.forall_mem_singleton.2 (by omega)⟩

end Path

namespace Tree

/-! ## Following paths -/

theorem walk_append (t : Tree) (l : Location) (ns ms : List Text) :
    t.walk l (ns ++ ms) = (t.walk l ns).bind fun l' => t.walk l' ms := by
  induction ns generalizing l with
  | nil => rfl
  | cons n ns ih =>
    rw [List.cons_append, walk, walk]
    split
    · rfl
    · rfl
    · split
      · exact ih _
      · split
        · rfl
        · exact ih _

/-- The names on the way to a place are short. -/
theorem length_le_of_walk {ns : List Text} (h : t.walk l ns = .ok l') :
    ∀ n ∈ ns, (Utf8.encode n).length ≤ maxName := by
  induction ns generalizing l with
  | nil => exact List.forall_mem_nil _
  | cons n ns ih =>
    rw [walk] at h
    split at h
    · contradiction
    · contradiction
    · split at h
      · next hn =>
        refine List.forall_mem_cons.2 ⟨?_, ih h⟩
        rw [hn]
        decide
      · split at h
        · contradiction
        · next hlen => exact List.forall_mem_cons.2 ⟨Nat.not_lt.1 hlen, ih h⟩

/-- A system never complains of a NUL on the way to a place. -/
theorem walk_ne_nul {ns : List Text} : t.walk l ns ≠ .error .nul := by
  induction ns generalizing l with
  | nil => exact nofun
  | cons n ns ih =>
    rw [walk]
    split
    · exact nofun
    · exact nofun
    · split
      · exact ih
      · split
        · exact nofun
        · exact ih

/-- Only a NUL in the text of a path keeps a system from being asked about it. -/
theorem mem_text_of_read {e : FileError} (h : t.read here p = .error e) (he : e.trouble = .nul) :
    .char '\x00' ∈ p.text := by
  have hstat : t.stat here p = .error .nul := by
    rw [read] at h
    split at h
    · contradiction
    · obtain rfl := Except.error.inj h
      contradiction
    · next hstat =>
      obtain rfl := Except.error.inj h
      exact he ▸ hstat
  -- A walk never meets a NUL, so it was found in the text of the path.
  have hlocate : t.locate here p = .error .nul := by
    rw [stat] at hstat
    split at hstat
    · next hlocate => exact Except.error.inj hstat ▸ hlocate
    · split at hstat <;> cases hstat
  rw [locate] at hlocate
  split at hlocate
  · assumption
  · split at hlocate
    · cases hlocate
    · exact absurd hlocate walk_ne_nul

theorem locate_of_isShort (h : p.IsShort) (t : Tree) (here : Location) :
    t.locate here p = t.walk [] (p.absolute here) := by
  rw [locate, if_neg h.noNul, if_neg (Nat.not_lt.2 h.text)]

/-- A path that leads somewhere is short. -/
theorem isShort_of_locate (h : t.locate here p = .ok l) : p.IsShort := by
  rw [locate] at h
  split at h
  · contradiction
  split at h
  · contradiction
  next hnul htext =>
    refine ⟨hnul, Nat.not_lt.1 htext, fun n hn => length_le_of_walk h n ?_⟩
    rw [Path.absolute]
    split
    · exact List.mem_append_right _ hn
    · exact hn

/-- The place of a child is found from the place of its folder. -/
theorem locate_child (h : (p.child n).IsShort) (hp : t.locate here p = .ok l) :
    t.locate here (p.child n) = t.walk l [n] := by
  rw [locate_of_isShort (isShort_of_locate hp)] at hp
  rw [locate_of_isShort h, Path.absolute_child, walk_append, hp]
  rfl

theorem locate_child_of_folder (h : (p.child n).IsShort) (hn : n ≠ Path.up)
    (hp : t.locate here p = .ok l) (hl : t.lookup l = some .folder) :
    t.locate here (p.child n) = .ok (l ++ [n]) := by
  have hlen := h.name n (List.mem_append_right _ List.mem_cons_self)
  rw [locate_child h hp, walk, hl]
  simp only
  rw [if_neg hn, if_neg (Nat.not_lt.2 hlen), walk]

theorem locate_child_of_missing (h : (p.child n).IsShort) (hp : t.locate here p = .ok l)
    (hl : t.lookup l = none) : t.locate here (p.child n) = .error .missing := by
  rw [locate_child h hp, walk, hl]

/-- A path that is too long leads nowhere, and neither does one with a NUL. -/
theorem locate_child_of_not_isShort (h : ¬(p.child n).IsShort) (hn : n ≠ Path.up)
    (hp : t.locate here p = .ok l) (hl : t.lookup l = some .folder) :
    .char '\x00' ∈ n ∧ t.locate here (p.child n) = .error .nul ∨
      t.locate here (p.child n) = .error .nameTooLong := by
  have hshort := isShort_of_locate hp
  rw [locate]
  split
  · next hnul =>
    rcases Path.mem_text_child hnul with hmem | hmem | hmem
    · exact absurd hmem hshort.noNul
    · exact absurd hmem (by decide)
    · exact .inl ⟨hmem, rfl⟩
  split
  · exact .inr rfl
  next hnul htext =>
    -- The path itself is short and so is its text: it is the name that is too long.
    have hlen : maxName < (Utf8.encode n).length := by
      refine Nat.lt_of_not_le fun hlen => h ⟨hnul, Nat.not_lt.1 htext, ?_⟩
      exact List.forall_mem_append.2 ⟨hshort.name, List.forall_mem_singleton.2 hlen⟩
    rw [locate_of_isShort hshort] at hp
    rw [Path.absolute_child, walk_append, hp]
    refine .inr ?_
    change t.walk l [n] = _
    rw [walk, hl]
    simp only
    rw [if_neg hn, if_pos hlen]

/-- A path that is too long leads nowhere, also when its last name is not. -/
theorem locate_grandchild_of_not_isShort {n' : Text} (h : ¬((p.child n).child n').IsShort)
    (hn : n ≠ Path.up) (hnul : .char '\x00' ∉ n) (hnul' : .char '\x00' ∉ n')
    (hlen' : (Utf8.encode n').length ≤ maxName) (hp : t.locate here p = .ok l)
    (hl : t.lookup l = some .folder) :
    t.locate here ((p.child n).child n') = .error .nameTooLong := by
  have hshort := isShort_of_locate hp
  have hnone : .char '\x00' ∉ ((p.child n).child n').text := by
    intro hmem
    rcases Path.mem_text_child hmem with hmem | hmem | hmem
    · rcases Path.mem_text_child hmem with hmem | hmem | hmem
      · exact hshort.noNul hmem
      · exact absurd hmem (by decide)
      · exact hnul hmem
    · exact absurd hmem (by decide)
    · exact hnul' hmem
  rw [locate, if_neg hnone]
  split
  · rfl
  next htext =>
    -- The last name is not the one that is too long.
    have hlen : maxName < (Utf8.encode n).length := by
      refine Nat.lt_of_not_le fun hlen => h ⟨hnone, Nat.not_lt.1 htext, ?_⟩
      refine List.forall_mem_append.2 ⟨?_, List.forall_mem_singleton.2 hlen'⟩
      exact List.forall_mem_append.2 ⟨hshort.name, List.forall_mem_singleton.2 hlen⟩
    rw [locate_of_isShort hshort] at hp
    rw [Path.absolute_child, Path.absolute_child, List.append_assoc, walk_append, hp]
    change t.walk l [n, n'] = _
    rw [walk, hl]
    simp only
    rw [if_neg hn, if_pos hlen]

/-! ## Places that a change does not move -/

/-- The trees hold the same but for what is at a location and below it. -/
def AgreesOff (m : Location) (t t' : Tree) : Prop := ∀ l, ¬m <+: l → t'.lookup l = t.lookup l

theorem AgreesOff.put (h : m <+: l) (t : Tree) (e : Entry) : AgreesOff m t (t.put l e) :=
  fun _ hl => lookup_put_of_ne (fun heq => hl (by rwa [heq])) e

theorem AgreesOff.prune (t : Tree) (m : Location) : AgreesOff m t (t.prune m) :=
  fun _ hl => lookup_prune_of_not_prefix hl

theorem AgreesOff.trans {t'' : Tree} (h : AgreesOff m t t') (h' : AgreesOff m t' t'') :
    AgreesOff m t t'' := fun l hl => (h' l hl).trans (h l hl)

/-- The path leads to a place whatever there is at `m` and below it. -/
def LeadsTo (t : Tree) (here : Location) (p : Path) (l m : Location) : Prop :=
  ∀ t', AgreesOff m t t' → t'.locate here p = .ok l

theorem LeadsTo.agrees (h : LeadsTo t here p l m) (h' : AgreesOff m t t') :
    LeadsTo t' here p l m := fun t'' h'' => h t'' (h'.trans h'')

theorem LeadsTo.locate (h : LeadsTo t here p l m) : t.locate here p = .ok l := h t fun _ _ => rfl

/-- A way that was found while nothing was at `m` does not go through it. -/
theorem leadsTo_of_locate (h : t.locate here p = .ok l)
    (hm : ∀ l', m <+: l' → t.lookup l' = none) : LeadsTo t here p l m := by
  intro t' hagrees
  have hwalk : ∀ ns l₀, t.walk l₀ ns = .ok l → t'.walk l₀ ns = .ok l := by
    intro ns
    induction ns with
    | nil => exact fun _ h => h
    | cons n ns ih =>
      intro l₀ h
      rw [walk] at h
      split at h
      · contradiction
      · contradiction
      · next hfolder =>
        -- The way goes on from a folder, and there is none at `m` or below it.
        have hoff : ¬m <+: l₀ := fun hl => by
          rw [hm l₀ hl] at hfolder
          contradiction
        rw [walk, hagrees l₀ hoff, hfolder]
        split at h
        · next hn =>
          simp only [if_pos hn]
          exact ih _ h
        · next hn =>
          split at h
          · contradiction
          · next hlen =>
            simp only [if_neg hn, if_neg hlen]
            exact ih _ h
  have hshort := isShort_of_locate h
  rw [locate_of_isShort hshort] at h ⊢
  exact hwalk _ _ h

/-! ## Operations at a place -/

theorem stat_of_lookup (h : t.locate here p = .ok l) (hl : t.lookup l = some e) :
    t.stat here p = .ok e := by
  rw [stat, h]
  simp only [hl]

theorem stat_of_missing (h : t.locate here p = .ok l) (hl : t.lookup l = none) :
    t.stat here p = .error .missing := by
  rw [stat, h]
  simp only [hl]

theorem stat_of_error {trouble : Trouble} (h : t.locate here p = .error trouble) :
    t.stat here p = .error trouble := by
  rw [stat, h]

theorem write_of_locate (h : t.locate here p = .ok l) (hl : t.lookup l ≠ some .folder)
    (content : Bytes) : t.write here p content = .ok (t.put l (.file content)) := by
  rw [write, h]
  simp only [if_neg hl]

theorem write_of_error {trouble : Trouble} (h : t.locate here p = .error trouble)
    (content : Bytes) : t.write here p content = .error ⟨trouble, p, false⟩ := by
  rw [write, h]

/-- A folder that is there is not made again. -/
theorem ensureFolders_of_folder (h : t.locate here (p.child n) = .ok l)
    (hl : t.lookup l = some .folder) : t.ensureFolders here (p.child n) = (t, none) := by
  have hmake : t.makeFolder here (p.child n) = .error ⟨.taken, p.child n, false⟩ := by
    rw [makeFolder, h]
    simp only [hl]
  have hfolder : t.isFolder here (p.child n) = true := by
    rw [isFolder, stat_of_lookup h hl]
  have hpath : (⟨(p.child n).root, (n :: p.names.reverse).reverse⟩ : Path) = p.child n := by
    rw [List.reverse_cons, List.reverse_reverse]
    rfl
  rw [ensureFolders, Path.names_child, List.reverse_concat, ensureFoldersRev]
  simp only [hpath, hmake, hfolder]
  rfl

/-- A folder that is not there is made in the folder above it. -/
theorem ensureFolders_of_missing (h : t.locate here (p.child n) = .ok l)
    (hl : t.lookup l = none) :
    t.ensureFolders here (p.child n) = (t.put l .folder, none) := by
  have hmake : t.makeFolder here (p.child n) = .ok (t.put l .folder) := by
    rw [makeFolder, h]
    simp only [hl]
  have hpath : (⟨(p.child n).root, (n :: p.names.reverse).reverse⟩ : Path) = p.child n := by
    rw [List.reverse_cons, List.reverse_reverse]
    rfl
  rw [ensureFolders, Path.names_child, List.reverse_concat, ensureFoldersRev]
  simp only [hpath, hmake]

end Tree

end Depot.Files
