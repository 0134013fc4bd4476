import Depot.Proofs.Files.Tree
import Mathlib.Data.List.Induction

/-!
# What operations change in file trees

An operation on a tree adds entries at the places its path leads to, and the
folders above them where there are none: what these additions keep, the operation
keeps (`Tree.ensureFolders_induction`).

A path without `..` leads to the location that its names spell, if it leads anywhere
(`walk_eq_of_not_up`). What is found at its end is the same after any change that stays
off the way to it (`walk_of_agrees`), and so are the names in a folder, whatever the
order of the entries (`names_congr`).
-/

namespace Depot.Files

variable {t t' : Tree} {l l' m : Location} {n : Text} {ns ms : List Text} {p : Path}
  {here : Location}

/-- The path of something a few folders below the end of a path. -/
def Path.below (p : Path) (ns : List Text) : Path := ⟨p.root, p.names ++ ns⟩

theorem Path.below_below (p : Path) (ns ms : List Text) :
    (p.below ns).below ms = p.below (ns ++ ms) := by
  simp [below]

theorem Path.absolute_below (here : Location) (p : Path) (ns : List Text) :
    (p.below ns).absolute here = p.absolute here ++ ns := by
  rw [absolute, absolute, below]
  split <;> simp

/-- The names of the location are such that files have. -/
def Location.IsProper (l : Location) : Prop :=
  ∀ n ∈ l, n ≠ Path.up ∧ (Utf8.encode n).length ≤ Tree.maxName

instance (l : Location) : Decidable (Location.IsProper l) :=
  inferInstanceAs (Decidable (∀ n ∈ l, n ≠ Path.up ∧ (Utf8.encode n).length ≤ Tree.maxName))

theorem Location.IsProper.up_not_mem (h : Location.IsProper l) : Path.up ∉ l :=
  fun hmem => (h _ hmem).1 rfl

namespace Tree

/-- What is in the tree is in folders of the tree. -/
def IsClosed (t : Tree) : Prop := ∀ l n, t.lookup (l ++ [n]) ≠ none → t.lookup l = some .folder

/-! ## Making folders -/

theorem makeFolder_eq_ok (h : t.makeFolder here p = .ok t') :
    ∃ l, t.locate here p = .ok l ∧ t.lookup l = none ∧ t' = t.put l .folder := by
  rw [makeFolder] at h
  split at h
  · contradiction
  next l hl =>
    split at h
    · contradiction
    · next hnone => exact ⟨l, hl, hnone, (Except.ok.inj h).symm⟩

theorem ensureFolder_eq_ok (h : t.ensureFolder here p = .ok t') :
    t' = t ∨ t.makeFolder here p = .ok t' := by
  rw [ensureFolder] at h
  split at h
  · next hmade => exact .inr (hmade.trans h)
  · split at h
    · exact .inl (Except.ok.inj h).symm
    · contradiction

/-- What new folders on the way of a path keep is kept when the way is made. -/
theorem ensureFolders_induction {motive : Tree → Prop} (h : motive t)
    (hfolder : ∀ t ns l, motive t → ns <+: p.names → t.locate here ⟨p.root, ns⟩ = .ok l →
      t.lookup l = none → motive (t.put l .folder)) :
    motive (t.ensureFolders here p).1 := by
  have hmake {t t' : Tree} {ns : List Text} (h : motive t) (hns : ns <+: p.names)
      (hmade : t.makeFolder here ⟨p.root, ns⟩ = .ok t') : motive t' := by
    obtain ⟨l, hl, hnone, rfl⟩ := makeFolder_eq_ok hmade
    exact hfolder t ns l h hns hl hnone
  have hensure {t t' : Tree} {ns : List Text} (h : motive t) (hns : ns <+: p.names)
      (hmade : t.ensureFolder here ⟨p.root, ns⟩ = .ok t') : motive t' := by
    rcases ensureFolder_eq_ok hmade with rfl | hmade
    · exact h
    · exact hmake h hns hmade
  -- The names are given in reverse, and each call goes on with those in front.
  have hrev : ∀ ns, ns.reverse <+: p.names →
      motive (t.ensureFoldersRev here p.root ns).1 := by
    intro ns
    induction ns with
    | nil =>
      intro hns
      rw [ensureFoldersRev]
      split
      · next hmade => exact hensure h hns hmade
      · exact h
    | cons n ns ih =>
      intro hns
      have habove := ih (List.IsPrefix.trans (by simp) hns)
      rw [ensureFoldersRev]
      split
      · next hmade => exact hmake h hns hmade
      split
      · split
        · next heq =>
          rw [heq] at habove
          exact habove
        · next heq =>
          rw [heq] at habove
          split
          · next hmade => exact hensure habove hns hmade
          · exact habove
      split
      · exact h
      · exact h
  exact hrev _ (by simp)

/-! ## Paths without `..` -/

theorem walk_eq_of_not_up (hup : Path.up ∉ ns) (h : t.walk l ns = .ok m) : m = l ++ ns := by
  induction ns generalizing l with
  | nil => rw [List.append_nil, Except.ok.inj h]
  | cons n ns ih =>
    rw [List.mem_cons, not_or] at hup
    rw [walk] at h
    split at h
    · contradiction
    · contradiction
    · rw [if_neg (Ne.symm hup.1)] at h
      split at h
      · contradiction
      · rw [ih hup.2 h, List.append_assoc]
        rfl

/-- A path that goes on goes on from a folder. -/
theorem lookup_of_walk_append (hm : t.walk l ns = .ok m) (hms : ms ≠ [])
    (h : t.walk l (ns ++ ms) = .ok l') : t.lookup m = some .folder := by
  obtain ⟨n, ms, rfl⟩ := List.exists_cons_of_ne_nil hms
  rw [walk_append, hm] at h
  change t.walk m (n :: ms) = .ok l' at h
  rw [walk] at h
  split at h
  · contradiction
  · contradiction
  · assumption

/-- A path with names that are not too long fails because of what is on its way. -/
theorem walk_error_of_length_le {trouble : Trouble}
    (hns : ∀ n ∈ ns, (Utf8.encode n).length ≤ maxName) (h : t.walk l ns = .error trouble) :
    trouble = .missing ∨ trouble = .notFolder := by
  induction ns generalizing l with
  | nil => contradiction
  | cons n ns ih =>
    obtain ⟨hn, hns⟩ := List.forall_mem_cons.1 hns
    rw [walk] at h
    split at h
    · exact .inl (Except.error.inj h).symm
    · exact .inr (Except.error.inj h).symm
    · rw [if_neg (Nat.not_lt.2 hn)] at h
      split at h
      · exact ih hns h
      · exact ih hns h

/-- Every folder of a tree is found by its names. -/
theorem walk_of_folder (ht : t.IsClosed) (hl : Location.IsProper l)
    (h : t.lookup l = some .folder) : t.walk [] l = .ok l := by
  induction l using List.reverseRecOn with
  | nil => rfl
  | append_singleton l n ih =>
    obtain ⟨hl, hn⟩ := List.forall_mem_append.1 hl
    have hn := List.forall_mem_singleton.1 hn
    have habove : t.lookup l = some .folder := ht l n (by simp [h])
    rw [walk_append, ih hl habove]
    change t.walk l [n] = _
    rw [walk, habove]
    simp only
    rw [if_neg hn.1, if_neg (Nat.not_lt.2 hn.2), walk]

theorem eq_absolute_of_locate (hup : Path.up ∉ p.absolute here) (h : t.locate here p = .ok l) :
    l = p.absolute here := by
  rw [locate_of_isShort (isShort_of_locate h)] at h
  exact walk_eq_of_not_up hup h

/-- Below a place, names without `..` lead to the location that they spell. -/
theorem eq_append_of_locate_below (hp : t.locate here p = .ok l) (hup : Path.up ∉ ns)
    (h : t.locate here (p.below ns) = .ok m) : m = l ++ ns := by
  rw [locate_of_isShort (isShort_of_locate hp)] at hp
  rw [locate_of_isShort (isShort_of_locate h), Path.absolute_below, walk_append, hp] at h
  exact walk_eq_of_not_up hup h

/-- The way to a folder goes through folders. -/
theorem lookup_of_locate_below (hp : t.locate here p = .ok l)
    (h : t.locate here (p.below ns) = .ok m) (hm : t.lookup m = some .folder) :
    t.lookup l = some .folder := by
  rw [locate_of_isShort (isShort_of_locate hp)] at hp
  rw [locate_of_isShort (isShort_of_locate h), Path.absolute_below] at h
  by_cases hns : ns = []
  · rw [hns, List.append_nil, hp] at h
    rw [Except.ok.inj h, hm]
  · exact lookup_of_walk_append hp hns h

/-- A name in a folder leads to a location in the location of the folder. -/
theorem exists_locate_of_child (hn : n ≠ Path.up) (h : t.locate here (p.child n) = .ok l) :
    ∃ m, t.locate here p = .ok m ∧ t.lookup m = some .folder ∧ l = m ++ [n] := by
  have hshort := isShort_of_locate h
  rw [locate_of_isShort hshort, Path.absolute_child] at h
  rw [locate_of_isShort hshort.of_child]
  cases hm : t.walk [] (p.absolute here) with
  | error e =>
    rw [walk_append, hm] at h
    contradiction
  | ok m =>
    refine ⟨m, rfl, lookup_of_walk_append hm (by simp) h, ?_⟩
    rw [walk_append, hm] at h
    exact walk_eq_of_not_up (by simpa using hn.symm) h

/-- What would be in something that is no folder is not there, and this is no failure. -/
theorem isFolder?_of_not_folder (hshort : p.IsShort) (hp : p.absolute here = l ++ ns)
    (hns : ns ≠ []) (hproper : Location.IsProper (l ++ ns)) (h : t.lookup l ≠ some .folder) :
    t.isFolder? here p = .ok false := by
  have hlocate := locate_of_isShort hshort t here
  rw [hp] at hlocate
  rw [isFolder?, test]
  cases hwalk : t.walk [] (l ++ ns) with
  | error trouble =>
    rw [stat_of_error (hlocate.trans hwalk)]
    rcases walk_error_of_length_le (fun n hn => (hproper n hn).2) hwalk with rfl | rfl
    · rfl
    · rfl
  | ok m =>
    -- A way to the end would go through the folder.
    have hup : Path.up ∉ l := fun hmem => hproper.up_not_mem (List.mem_append_left _ hmem)
    cases hl' : t.walk [] l with
    | error trouble =>
      rw [walk_append, hl'] at hwalk
      contradiction
    | ok l' =>
      have hfolder := lookup_of_walk_append hl' hns hwalk
      rw [walk_eq_of_not_up hup hl', List.nil_append] at hfolder
      exact absurd hfolder h

/-! ## Changes off the way -/

/-- A change at a location and below it does not touch a way that does not come there. -/
theorem walk_of_agrees (h : AgreesOff m t t') (hup : Path.up ∉ ns)
    (hoff : ∀ ms, ms <+: ns → ms ≠ ns → ¬m <+: l ++ ms) : t'.walk l ns = t.walk l ns := by
  induction ns generalizing l with
  | nil => rfl
  | cons n ns ih =>
    rw [List.mem_cons, not_or] at hup
    have hl : t'.lookup l = t.lookup l :=
      h l (by simpa using hoff [] List.nil_prefix (by simp))
    have hrest : t'.walk (l ++ [n]) ns = t.walk (l ++ [n]) ns := by
      refine ih hup.2 fun ms hms hne => ?_
      rw [List.append_assoc]
      exact hoff (n :: ms) (List.prefix_cons_inj n |>.2 hms) (by simpa using hne)
    rw [walk, walk, hl, hrest]
    simp only [if_neg (Ne.symm hup.1)]

/-- A path without `..` leads to its place whatever is there and below it. -/
theorem leadsTo_of_prefix (hup : Path.up ∉ p.absolute here) (h : t.locate here p = .ok l)
    (hm : l <+: m) : LeadsTo t here p l m := by
  intro t' hagrees
  have hshort := isShort_of_locate h
  rw [locate_of_isShort hshort] at h ⊢
  have hl : l = p.absolute here := by rw [walk_eq_of_not_up hup h, List.nil_append]
  rw [walk_of_agrees hagrees hup, h]
  -- On the way no folder is asked for that has the place above it.
  intro ms hms hne hprefix
  rw [List.nil_append] at hprefix
  have hback : p.absolute here <+: ms := hl ▸ hm.trans hprefix
  exact hne (hms.eq_of_length (Nat.le_antisymm hms.length_le hback.length_le))

theorem leadsTo_of_not_up (hup : Path.up ∉ p.absolute here) (h : t.locate here p = .ok l)
    (n : Text) : LeadsTo t here p l (l ++ [n]) :=
  leadsTo_of_prefix hup h (List.prefix_append l [n])

/-! ## Removals -/

/-- The second tree is the first one without some of what is at a location and below it. -/
def LosesAt (m : Location) (t t' : Tree) : Prop :=
  ∀ l, t'.lookup l = t.lookup l ∨ m <+: l ∧ t'.lookup l = none

theorem LosesAt.filter (t : Tree) {keep : Location → Bool} (h : ∀ l, keep l = false → m <+: l) :
    LosesAt m t ⟨t.entries.filter fun e => keep e.1⟩ := by
  intro l
  by_cases hl : l = []
  · exact .inl (by simp [lookup, hl])
  cases hkeep : keep l with
  | true =>
    refine .inl ?_
    simp only [lookup, hl, if_false, List.find?_filter]
    congr 2
    funext e
    by_cases he : e.1 = l <;> simp [he, hkeep]
  | false =>
    refine .inr ⟨h l hkeep, ?_⟩
    simp only [lookup, hl, if_false, Option.map_eq_none_iff, List.find?_eq_none, List.mem_filter,
      decide_eq_true_eq]
    rintro e ⟨_, he⟩ rfl
    rw [hkeep] at he
    contradiction

theorem LosesAt.prune (t : Tree) (m : Location) : LosesAt m t (t.prune m) := by
  have hkeep : ∀ l : Location, (!m.isPrefixOf l) = false → m <+: l := fun l h => by simpa using h
  exact .filter t hkeep

/-- A removal takes away what a path leads to and what is below it, or there is nothing to
    take away. -/
theorem remove_eq_ok (h : t.remove here p = .ok t') :
    t' = t ∨ ∃ l, t.locate here p = .ok l ∧ t' = t.prune l := by
  rw [remove] at h
  split at h
  · split at h
    · next l hl => exact .inr ⟨l, hl, (Except.ok.inj h).symm⟩
    · contradiction
  · contradiction
  · contradiction
  · exact .inl (Except.ok.inj h).symm

/-- A removal that stops on its way has removed nothing but what it was asked to remove. -/
theorem removeSome_eq_or (t : Tree) (here : Location) (p : Path) (gone : Location → Bool) :
    t.removeSome here p gone = t ∨
      ∃ m, t.locate here p = .ok m ∧ LosesAt m t (t.removeSome here p gone) := by
  rw [removeSome]
  split
  · next m hm =>
    have hkeep : ∀ l : Location, (!(m.isPrefixOf l && gone l)) = false → m <+: l := by
      intro l h
      rw [Bool.not_eq_false', Bool.and_eq_true] at h
      exact List.isPrefixOf_iff_prefix.1 h.1
    exact .inr ⟨m, hm, .filter t hkeep⟩
  · exact .inl rfl

/-- What a path still leads to after a removal, it has led to before. -/
theorem walk_of_losesAt (h : LosesAt m t t') (hwalk : t'.walk l ns = .ok l') :
    t.walk l ns = .ok l' := by
  induction ns generalizing l with
  | nil => exact hwalk
  | cons n ns ih =>
    rw [walk] at hwalk
    split at hwalk
    · contradiction
    · contradiction
    next hfolder =>
      -- A folder that is there after the removal was there before it.
      have hsame : t.lookup l = some .folder := by
        rcases h l with hl | ⟨_, hl⟩
        · rw [← hl, hfolder]
        · rw [hfolder] at hl
          contradiction
      rw [walk, hsame]
      split at hwalk
      · next hn => exact (if_pos hn).trans (ih hwalk)
      · next hn =>
        split at hwalk
        · contradiction
        · next hlen => exact (if_neg hn).trans ((if_neg hlen).trans (ih hwalk))

/-- Nothing is at the end of a path, nor below it, when what it has led to is removed. A
    question about it is no failure, as its names were short enough to be followed. -/
theorem test_below_prune (hp : t.locate here p = .ok l) (hl : l ≠ [])
    (hbelow : t.locate here (p.below ns) = .ok m) (kind : Entry → Bool) :
    (t.prune l).test here (p.below ns) kind = .ok false := by
  have hloses := LosesAt.prune t l
  have hlocate := locate_of_isShort (isShort_of_locate hbelow) (t.prune l) here
  rw [locate_of_isShort (isShort_of_locate hp)] at hp
  rw [locate_of_isShort (isShort_of_locate hbelow)] at hbelow
  rw [test]
  cases hwalk : (t.prune l).walk [] ((p.below ns).absolute here) with
  | error trouble =>
    rw [stat_of_error (hlocate.trans hwalk)]
    rcases walk_error_of_length_le (length_le_of_walk hbelow) hwalk with rfl | rfl
    · rfl
    · rfl
  | ok m' =>
    have hsame := walk_of_losesAt hloses hwalk
    rw [Path.absolute_below] at hwalk hsame
    -- A way below the place would go on from it, where nothing is left.
    have hnone : (t.prune l).lookup l = none := lookup_prune_of_prefix hl (List.prefix_refl l)
    cases ns with
    | nil =>
      rw [List.append_nil, hp] at hsame
      rw [stat_of_missing (l := l) ?_ hnone]
      rw [hlocate, Path.absolute_below, hwalk, Except.ok.inj hsame]
    | cons n ns =>
      rw [walk_append] at hwalk
      cases hfirst : (t.prune l).walk [] (p.absolute here) with
      | error e =>
        rw [hfirst] at hwalk
        contradiction
      | ok l' =>
        obtain rfl : l = l' := Except.ok.inj (hp.symm.trans (walk_of_losesAt hloses hfirst))
        rw [hfirst] at hwalk
        change (t.prune l).walk l (n :: ns) = .ok m' at hwalk
        rw [walk, hnone] at hwalk
        contradiction

/-! ## Names -/

/-- The names in a folder are those for which there is something in it. -/
theorem names_congr (ht : t.Unique) (ht' : t'.Unique)
    (h : ∀ n, t'.lookup (l ++ [n]) = t.lookup (l ++ [n])) : t'.names l = t.names l :=
  names_eq_of_mem_iff ht' (nodup_names ht l) (pairwise_names t l) fun n => by
    rw [mem_names_iff, h]

/-! ## The same at the end of a path -/

/-- A path leads to the same place in both trees, and the same is there. -/
def AgreesAt (here : Location) (p : Path) (t t' : Tree) : Prop :=
  t'.locate here p = t.locate here p ∧ ∀ l, t.locate here p = .ok l → t'.lookup l = t.lookup l

namespace AgreesAt

variable (h : AgreesAt here p t t')

include h

theorem stat_eq : t'.stat here p = t.stat here p := by
  rw [stat, stat, h.1]
  cases hl : t.locate here p with
  | error e => rfl
  | ok l => simp only [h.2 l hl]

theorem isFolder?_eq : t'.isFolder? here p = t.isFolder? here p := by
  rw [isFolder?, isFolder?, test, test, h.stat_eq]

theorem read_eq : t'.read here p = t.read here p := by
  rw [read, read, h.stat_eq]

end AgreesAt

/-- What is beside a change in a folder is found as before. -/
theorem agreesAt_below (hp : LeadsTo t here p l (l ++ [n])) (h : AgreesOff (l ++ [n]) t t')
    (hup : Path.up ∉ ns) (hn : ns.head? ≠ some n) : AgreesAt here (p.below ns) t t' := by
  have hoff : ∀ ms, ms <+: ns → ¬l ++ [n] <+: l ++ ms := by
    intro ms hms hprefix
    rw [List.prefix_append_right_inj] at hprefix
    obtain ⟨rest, rfl⟩ := hprefix.trans hms
    exact hn rfl
  have hshort := isShort_of_locate hp.locate
  have hplace := hp.locate
  have hplace' := hp t' h
  rw [locate_of_isShort hshort] at hplace hplace'
  -- Either walk comes to the same folder and goes on from there, off the change.
  have hwalk (t : Tree) (ht : t.walk [] (p.absolute here) = .ok l) :
      t.walk [] ((p.below ns).absolute here) = t.walk l ns := by
    rw [Path.absolute_below, walk_append, ht]
    rfl
  have hlocate : t'.locate here (p.below ns) = t.locate here (p.below ns) := by
    rw [locate, locate, hwalk t hplace, hwalk t' hplace',
      walk_of_agrees h hup fun ms hms _ => hoff ms hms]
  refine ⟨hlocate, fun m hm => h m ?_⟩
  rw [locate_of_isShort (isShort_of_locate hm), hwalk t hplace] at hm
  rw [walk_eq_of_not_up hup hm]
  exact hoff ns (List.prefix_refl ns)

end Tree

end Depot.Files
