import Depot.Proofs.Build.Removal
import Depot.Proofs.Results
import Mathlib.Data.List.Nodup

/-!
# Builds beside each other

Builds are recorded in folders of one root. A run of operations on one build adds
folders on the way to its own folder, and everything else that it does is in that
folder (`Site.IsKept.run`). So it does not touch what is read of a build with another
folder (`Site.read_other`).

Which folder a build has is told by its name and number joined by an underscore
(`folderOf_eq_iff`). Two builds can be joined to one text, and then they share a folder
(`Site.read_shared`); they cannot as long as there is no underscore in their numbers
(`joined_ne`).
-/

namespace Depot.Build

open Files Time

variable {s : Site} {b : Build} {l m : Location} {t t' : Tree} {d : Disk} {v : Json}

/-! ## Folders of builds -/

/-- The text that the folder of a build is named by. -/
def joined (b : Build) : Text := b.name ++ "_" ++ b.number

theorem folderName_inj {b' : Build} : folderName b = folderName b' ↔ joined b = joined b' :=
  Text.Percent.encode_inj

theorem folderOf_eq_iff {b' : Build} (root : Path) :
    folderOf root b = folderOf root b' ↔ joined b = joined b' := by
  rw [← folderName_inj, folderOf, folderOf, Path.child, Path.child, Files.Path.mk.injEq,
    List.append_cancel_left_eq, List.cons.injEq]
  simp [folderName]

/-- Different builds have different folders when no underscore is in their numbers. -/
theorem joined_ne {b' : Build} (hne : b ≠ b') (hb : .char '_' ∉ b.number)
    (hb' : .char '_' ∉ b'.number) : joined b ≠ joined b' := by
  obtain ⟨name, number⟩ := b
  obtain ⟨name', number'⟩ := b'
  intro h
  -- Each text is cut at its last underscore.
  have hcut {name number : Text} (h : .char '_' ∉ number) :
      Text.cutLast '_' (name ++ "_" ++ number) = some (name, number) := by
    rw [List.append_assoc]
    exact Text.cutLast_append_cons h name
  have hsame := (hcut hb).symm.trans ((congrArg (Text.cutLast '_') h).trans (hcut hb'))
  cases hsame
  exact hne rfl

/-! ## What operations keep -/

/-- What is kept by folders on the way of a path and by a file at its end is kept when a
    value is written there. -/
theorem writeJson_induction {motive : Tree → Prop} {here : Location} {p : Path} {n : Text}
    (h : motive t)
    (hfolder : ∀ t ns l, motive t → ns <+: p.names → t.locate here ⟨p.root, ns⟩ = .ok l →
      t.lookup l = none → motive (t.put l .folder))
    (hfile : ∀ t l content, motive t → t.locate here (p.child n) = .ok l →
      motive (t.put l (.file content))) :
    motive (writeJson here t (p.child n) v).1 := by
  -- First the folders are made, and then the file is written, unless either fails.
  have hmade := Tree.ensureFolders_induction h hfolder
  rw [writeJson, Path.parent_child]
  split
  · next heq =>
    rw [heq] at hmade
    exact hmade
  next t' heq =>
    rw [heq] at hmade
    split
    · next t'' hwritten =>
      rw [Tree.write] at hwritten
      split at hwritten
      · contradiction
      next l hl =>
        split at hwritten
        · contradiction
        · rw [← Except.ok.inj hwritten]
          exact hfile t' l _ hmade hl
    · exact hmade

namespace Site

/-- What new folders on the way to the root keep, entries in the folder of the build, and the
    removal of this folder. -/
structure IsKept (s : Site) (motive : Tree → Prop) : Prop where
  above : ∀ t ns l, motive t → ns <+: s.root.names → t.locate s.here ⟨s.root.root, ns⟩ = .ok l →
    t.lookup l = none → motive (t.put l .folder)
  entry : ∀ t ns l e, motive t → Path.up ∉ ns →
    t.locate s.here (s.root.below (folderName s.build :: ns)) = .ok l → motive (t.put l e)
  prune : ∀ t l, motive t → t.locate s.here s.folder = .ok l → motive (t.prune l)

namespace IsKept

variable {motive : Tree → Prop} (hs : s.IsKept motive)

include hs

theorem writeJson {n : Text} (h : motive t) (ns : List Text) (hns : Path.up ∉ ns)
    (hn : n ≠ Path.up) :
    motive (writeJson s.here t ((s.root.below (folderName s.build :: ns)).child n) v).1 := by
  refine writeJson_induction h (fun t ms l h hms hl hnone => ?_) fun t l content h hl => ?_
  · -- A folder is made above the root, or below the folder of the build.
    rcases List.prefix_or_prefix_of_prefix hms (List.prefix_append _ _) with habove | ⟨ms, rfl⟩
    · exact hs.above t _ l h habove hl hnone
    · cases ms with
      | nil => exact hs.above t _ l h (by simp) hl hnone
      | cons m ms =>
        obtain ⟨hm, hbelow⟩ := List.cons_prefix_cons.1 ((List.prefix_append_right_inj _).1 hms)
        rw [hm] at hl
        exact hs.entry t ms l .folder h (fun hup => hns (hbelow.subset hup)) hl
  · have hchild : (s.root.below (folderName s.build :: ns)).child n =
        s.root.below (folderName s.build :: (ns ++ [n])) := Path.below_below ..
    rw [hchild] at hl
    exact hs.entry t (ns ++ [n]) l _ h (by simpa using ⟨hns, hn.symm⟩) hl

theorem ensureDetails (h : motive d.tree) (now : WallClock) (millis : Int)
    (started : Option Timestamp) :
    motive (Build.ensureDetails ⟨s.here, now, millis, s.suffix⟩ s.folder started d).2.tree := by
  rw [Build.ensureDetails]
  split
  · exact h
  · exact h
  split
  · exact h
  next m _ =>
    have hwritten := hs.writeJson (v := detailsOf m) h [] List.not_mem_nil
      (by decide : detailsName ≠ Path.up)
    split
    all_goals
      next heq =>
      exact (congrArg (fun r => motive r.1) heq).mp hwritten

theorem savePartial (h : motive d.tree) (now : WallClock) (millis : Int) (p : Partial) :
    motive (Build.savePartial ⟨s.here, now, millis, s.suffix⟩ s.folder p d).2.tree := by
  have hdetails := hs.ensureDetails h now millis none
  rw [Build.savePartial]
  split
  · next heq =>
    rw [heq] at hdetails
    exact hdetails
  next d' heq =>
    rw [heq] at hdetails
    have hwritten := hs.writeJson (v := p.toJson) hdetails [partialsName] (by decide)
      (fileName_ne_up (s := s) d'.drawn p)
    -- The path of the file is the one that the site tells, put together in another order.
    have hfile : (s.root.below [folderName s.build, partialsName]).child
        (s.fileName d'.drawn p) = s.file d'.drawn p :=
      congrArg (Path.child · _) (Path.below_below s.root [_] [_]).symm
    rw [hfile] at hwritten
    simp only
    split
    all_goals
      next heq =>
      exact (congrArg (fun r => motive r.1) heq).mp hwritten

theorem remove (h : motive d.tree) (now : WallClock) (millis : Int) :
    motive (Build.remove ⟨s.here, now, millis, s.suffix⟩ s.root s.build d).2.tree := by
  rcases remove_eq_or ⟨s.here, now, millis, s.suffix⟩ s.root s.build d with hsame | ⟨l, hl, hgone⟩
  · rw [hsame]
    exact h
  · rw [hgone]
    exact hs.prune _ l h hl

/-- One operation keeps it. -/
theorem perform (h : motive d.tree) (op : Operation) : motive (s.perform op d).2.tree := by
  by_cases hwhole : s.build.IsWhole
  case neg => rwa [s.perform_of_not_isWhole hwhole]
  rw [s.perform_of_isWhole hwhole]
  cases op with
  | details now started => exact hs.ensureDetails h now 0 started
  | savePartial now p => exact hs.savePartial h now 0 p
  | saveEnv now millis env => exact hs.savePartial h now millis _
  | remove => exact hs.remove h _ 0

/-- A run of operations keeps it. -/
theorem run (h : motive d.tree) (ops : List Operation) : motive (s.run ops d).2.tree := by
  induction ops generalizing d with
  | nil => exact h
  | cons op ops ih => exact ih (hs.perform h op)

end IsKept

/-! ## Reading one build beside another -/

end Site

theorem readJson_of_agreesAt {here : Location} {p : Path} (h : Tree.AgreesAt here p t t') :
    readJson here t' p = readJson here t p := by
  rw [readJson, readJson, h.read_eq]

/-- Partials are files in the folder of the partials. -/
theorem exists_eq_child_of_mem_partialPaths {here : Location} {folder p : Path} {ps : List Path}
    (h : partialPaths here t folder = .ok ps) (hp : p ∈ ps) :
    ∃ n ≠ Path.up, p = (partialsPath folder).child n := by
  rw [partialPaths] at h
  split at h
  · contradiction
  · rw [← Except.ok.inj h] at hp
    contradiction
  split at h
  · contradiction
  · rw [← Except.ok.inj h, List.mem_map] at hp
    obtain ⟨n, hn, rfl⟩ := hp
    refine ⟨n, ?_, rfl⟩
    rintro rfl
    exact absurd (List.mem_filter.1 hn).2 (by decide)

/-- What is read of a build is in its folder. -/
theorem read_congr {here : Location} {root : Path}
    (h : ∀ ns, Path.up ∉ ns → Tree.AgreesAt here ((folderOf root b).below ns) t t')
    (hnames : ∀ l, t.locate here (partialsPath (folderOf root b)) = .ok l →
      t'.names l = t.names l) : read here t' root b = read here t root b := by
  by_cases hwhole : b.IsWhole
  case neg =>
    obtain ⟨e, _, he⟩ := exists_read_eq_error root hwhole
    rw [he, he]
  -- Three things are looked at: which partials there are, each of them, and the details.
  have hpartials : Tree.AgreesAt here (partialsPath (folderOf root b)) t t' :=
    h [partialsName] (by decide)
  have hpaths : partialPaths here t' (folderOf root b) = partialPaths here t (folderOf root b) := by
    rw [partialPaths, partialPaths, hpartials.isFolder?_eq, hpartials.1]
    cases hl : t.locate here (partialsPath (folderOf root b)) with
    | error e => rfl
    | ok l => simp only [hnames l hl]
  have hpartial : ∀ n ≠ Path.up, readPartial here t' ((partialsPath (folderOf root b)).child n) =
      readPartial here t ((partialsPath (folderOf root b)).child n) := by
    intro n hn
    have hbelow := h [partialsName, n] (by simpa using ⟨by decide, hn.symm⟩)
    rw [← List.singleton_append, ← Path.below_below] at hbelow
    rw [readPartial, readPartial]
    exact readJson_of_agreesAt hbelow ▸ rfl
  have hdetails : readDetails here t' (folderOf root b) = readDetails here t (folderOf root b) := by
    have hbelow : Tree.AgreesAt here (detailsPath (folderOf root b)) t t' :=
      h [detailsName] (by decide)
    rw [readDetails, readDetails, readJson_of_agreesAt hbelow]
  rw [read_of_isWhole hwhole, read_of_isWhole hwhole, readFolder, readFolder, hpaths]
  cases hps : partialPaths here t (folderOf root b) with
  | error e => rfl
  | ok ps =>
    have hread : ps.mapM (readPartial here t') = ps.mapM (readPartial here t) := by
      refine mapM_congr fun p hp => ?_
      obtain ⟨n, hn, rfl⟩ := exists_eq_child_of_mem_partialPaths hps hp
      exact hpartial n hn
    simp only [bind, Except.bind, hread, hdetails]

namespace Site

/-! ## Below a root that is there -/

section

variable (hroot : t.LeadsTo s.here s.root l (s.place l))

include hroot

/-- Operations change the place of the build. -/
theorem isKept_agreesOff (hfolder : t.lookup l = some .folder) :
    s.IsKept fun t' => t'.Unique ∧ Tree.AgreesOff (s.place l) t t' where
  above t' ns m h hns hm hnone := by
    -- The folders on the way to the root are there already.
    obtain ⟨ms, hms⟩ := hns
    have hplace : t'.locate s.here (Path.below ⟨s.root.root, ns⟩ ms) = .ok l := by
      rw [Path.below, hms]
      exact hroot t' h.2
    have hl : t'.lookup l = some .folder := (h.2 l (s.not_place_prefix l)).trans hfolder
    rw [Tree.lookup_of_locate_below hm hplace hl] at hnone
    contradiction
  entry t' ns m e h hns hm := by
    have hup : Path.up ∉ folderName s.build :: ns := by
      simpa using ⟨(folderName_ne_up s.build).symm, hns⟩
    have hplace : s.place l <+: m := by
      rw [Tree.eq_append_of_locate_below (hroot t' h.2) hup hm, List.append_cons]
      exact List.prefix_append _ _
    exact ⟨h.1.put m e, h.2.trans (.put hplace t' e)⟩
  prune t' m h hm := by
    have hup : Path.up ∉ [folderName s.build] := by
      simpa using (folderName_ne_up s.build).symm
    have hplace : m = s.place l := Tree.eq_append_of_locate_below (hroot t' h.2) hup hm
    rw [hplace]
    exact ⟨h.1.prune _, h.2.trans (.prune t' _)⟩

/-- What is recorded beside the place of the build is read as before. -/
theorem read_of_agreesOff (ht : t.Unique) (ht' : t'.Unique)
    (h : Tree.AgreesOff (s.place l) t t') (hne : joined s.build ≠ joined b) :
    read s.here t' s.root b = read s.here t s.root b := by
  have hname : folderName b ≠ folderName s.build := fun heq => hne (folderName_inj.1 heq.symm)
  have hup (ns : List Text) (hns : Path.up ∉ ns) : Path.up ∉ folderName b :: ns := by
    simpa using ⟨(folderName_ne_up b).symm, hns⟩
  refine read_congr (fun ns hns => ?_) fun m hm => Tree.names_congr ht ht' fun n => h _ ?_
  · have hagrees : Tree.AgreesAt s.here (s.root.below (folderName b :: ns)) t t' :=
      Tree.agreesAt_below hroot h (hup ns hns) (by simpa using hname)
    exact (Path.below_below s.root [folderName b] ns).symm ▸ hagrees
  · have hpath : partialsPath (folderOf s.root b) = s.root.below [folderName b, partialsName] :=
      Path.below_below s.root [folderName b] [partialsName]
    rw [hpath] at hm
    rw [Tree.eq_append_of_locate_below hroot.locate (hup _ (by decide)) hm, place,
      List.append_assoc, List.prefix_append_right_inj]
    intro hprefix
    exact hname (List.cons_prefix_cons.1 hprefix).1.symm

end

/-! ## Below a root that may be missing -/

section

variable (hroot : Location.IsProper (s.root.absolute s.here))

include hroot

/-- Operations do not make the folder of another build. -/
theorem isKept_missing (hne : joined s.build ≠ joined b) :
    s.IsKept fun t' => t'.lookup (s.root.absolute s.here ++ [folderName b]) = none where
  above t' ns m h hns hm _ := by
    obtain ⟨ms, hms⟩ := hns
    have habsolute : s.root.absolute s.here = Path.absolute s.here ⟨s.root.root, ns⟩ ++ ms := by
      rw [← Path.absolute_below, Path.below, hms]
    have hup : Path.up ∉ Path.absolute s.here ⟨s.root.root, ns⟩ := fun hmem =>
      hroot.up_not_mem (habsolute ▸ List.mem_append_left ms hmem)
    rw [Tree.eq_absolute_of_locate hup hm, Tree.lookup_put_of_ne ?_, h]
    simp [habsolute]
  entry t' ns m e h hns hm := by
    have hup : Path.up ∉ (s.root.below (folderName s.build :: ns)).absolute s.here := by
      rw [Path.absolute_below, List.mem_append, List.mem_cons, not_or, not_or]
      exact ⟨hroot.up_not_mem, (folderName_ne_up s.build).symm, hns⟩
    rw [Tree.eq_absolute_of_locate hup hm, Tree.lookup_put_of_ne ?_, h]
    rw [Path.absolute_below, Ne, List.append_cancel_left_eq, List.cons.injEq]
    exact fun heq => hne (folderName_inj.1 heq.1.symm)
  prune t' m h _ := by
    by_cases hm : m <+: s.root.absolute s.here ++ [folderName b]
    · exact Tree.lookup_prune_of_prefix (by simp) hm
    · exact (Tree.lookup_prune_of_not_prefix hm).trans h

/-- Nothing is found of a whole build whose folder is not there. -/
theorem read_of_missing (hwhole : b.IsWhole) (hshort : (partialsPath (folderOf s.root b)).IsShort)
    (h : t.lookup (s.root.absolute s.here ++ [folderName b]) = none) :
    read s.here t s.root b = .error (.notFound b) := by
  have habsolute : (partialsPath (folderOf s.root b)).absolute s.here =
      (s.root.absolute s.here ++ [folderName b]) ++ [partialsName] := by
    rw [partialsPath, folderOf, Path.absolute_child, Path.absolute_child]
    rfl
  have hname : (Utf8.encode (folderName b)).length ≤ Tree.maxName :=
    hshort.name _ (List.mem_append_left _ (List.mem_append_right _ List.mem_cons_self))
  have hproper : Location.IsProper ((s.root.absolute s.here ++ [folderName b]) ++ [partialsName]) :=
    List.forall_mem_append.2 ⟨List.forall_mem_append.2 ⟨hroot,
      List.forall_mem_singleton.2 ⟨folderName_ne_up b, hname⟩⟩, by decide⟩
  have hfolder : t.isFolder? s.here (partialsPath (folderOf s.root b)) = .ok false :=
    Tree.isFolder?_of_not_folder hshort habsolute (by simp) hproper (by simp [h])
  rw [read_of_isWhole hwhole, readFolder, partialPaths, hfolder]
  rfl

/-- A root that is there is found whatever is recorded for the build. -/
theorem leadsTo_of_isProper (ht : t.IsClosed) (hshort : s.root.IsShort)
    (hfolder : t.lookup (s.root.absolute s.here) = some .folder) :
    t.LeadsTo s.here s.root (s.root.absolute s.here) (s.place (s.root.absolute s.here)) := by
  refine Tree.leadsTo_of_not_up hroot.up_not_mem ?_ _
  rw [Tree.locate_of_isShort hshort, Tree.walk_of_folder ht hroot hfolder]

end

/-- How operations on the build find the root: it is a folder, and the way to it does not go
    through the folder of the build; or the way has no `..`, and then the root may as well
    be missing. -/
inductive Rooted (s : Site) (b : Build) (t : Tree) : Prop where
  | folder {l : Location} (hroot : t.LeadsTo s.here s.root l (s.place l))
    (hfolder : t.lookup l = some .folder)
  | plain (hroot : Location.IsProper (s.root.absolute s.here)) (ht : t.IsClosed)
    (hshort : (partialsPath (folderOf s.root b)).IsShort)

/-- Whatever is done with one build, what is read of another build is the same before and
    after, unless their names and numbers are joined to one text. That is just when they
    share a folder. -/
theorem read_other (ht : t.Unique) (hroot : s.Rooted b t) :
    (s.folder = folderOf s.root b ↔ joined s.build = joined b) ∧
      (joined s.build ≠ joined b → ∀ ops drawn,
        read s.here (s.run ops ⟨t, drawn⟩).2.tree s.root b = read s.here t s.root b) := by
  refine ⟨folderOf_eq_iff s.root, fun hne ops drawn => ?_⟩
  have hfound {l : Location} (hroot : t.LeadsTo s.here s.root l (s.place l))
      (hfolder : t.lookup l = some .folder) :
      read s.here (s.run ops ⟨t, drawn⟩).2.tree s.root b = read s.here t s.root b := by
    obtain ⟨ht', hagrees⟩ :=
      (isKept_agreesOff hroot hfolder).run (d := ⟨t, drawn⟩) ⟨ht, fun _ _ => rfl⟩ ops
    exact read_of_agreesOff hroot ht ht' hagrees hne
  cases hroot with
  | folder hroot hfolder => exact hfound hroot hfolder
  | plain hproper hclosed hshort =>
    by_cases hfolder : t.lookup (s.root.absolute s.here) = some .folder
    · exact hfound (leadsTo_of_isProper hproper hclosed hshort.of_child.of_child hfolder) hfolder
    · -- Nothing is in what is no folder, and nobody makes the folder of the other build.
      have hnone : t.lookup (s.root.absolute s.here ++ [folderName b]) = none :=
        Classical.byContradiction fun hsome => hfolder (hclosed _ _ hsome)
      have hnone' := (isKept_missing hproper hne).run (d := ⟨t, drawn⟩) hnone ops
      by_cases hwhole : b.IsWhole
      · rw [read_of_missing hproper hwhole hshort hnone,
          read_of_missing hproper hwhole hshort hnone']
      · obtain ⟨e, _, he⟩ := exists_read_eq_error s.root hwhole
        rw [he, he]

theorem read_other_number :
    let s : Site := ⟨[], ⟨['/'], ["builds"]⟩, ⟨"app", "1"⟩, Text.ofNat⟩
    let b : Build := ⟨"app", "2"⟩
    let now : Timestamp := ⟨⟨2024, 1, 2⟩, 3, 4, 5, 0, none⟩
    let t := (run { s with build := b } [.saveEnv now 10 [("A", "b")]]
      ⟨⟨[(["builds"], .folder)]⟩, 0⟩).2.tree
    t.Unique ∧ s.Rooted b t ∧
      read s.here t s.root b = .ok ⟨{ now with offset := some 0 },
        [⟨10, none, none, some [("buildInfo.env.A", .text "b")]⟩]⟩ ∧
      read s.here (s.run [.saveEnv now 20 [("A", "c")], .remove] ⟨t, 1⟩).2.tree s.root b =
        read s.here t s.root b := by
  intro s b now t
  have hnodup : (t.entries.map (·.1)).Nodup := by decide +kernel
  have hroot : t.LeadsTo s.here s.root ["builds"] (s.place ["builds"]) :=
    Tree.leadsTo_of_not_up (by decide) (by decide +kernel) _
  have hfolder : t.lookup ["builds"] = some .folder := by decide +kernel
  have hother := (read_other (b := b) hnodup (.folder hroot hfolder)).2 (by decide)
    [.saveEnv now 20 [("A", "c")], .remove] 1
  exact ⟨hnodup, .folder hroot hfolder, by decide +kernel, hother⟩

/-- Two builds are joined to one text, and the removal of one of them removes what is recorded
    for the other. -/
theorem read_shared :
    let s : Site := ⟨[], ⟨['/'], ["builds"]⟩, ⟨"app_1", "2"⟩, Text.ofNat⟩
    let b : Build := ⟨"app", "1_2"⟩
    let now : Timestamp := ⟨⟨2024, 1, 2⟩, 3, 4, 5, 0, none⟩
    let t := (run { s with build := b } [.saveEnv now 10 [("A", "b")]]
      ⟨⟨[(["builds"], .folder)]⟩, 0⟩).2.tree
    s.build ≠ b ∧ t.Unique ∧ s.Rooted b t ∧
      read s.here t s.root b = .ok ⟨{ now with offset := some 0 },
        [⟨10, none, none, some [("buildInfo.env.A", .text "b")]⟩]⟩ ∧
      read s.here (s.run [.remove] ⟨t, 1⟩).2.tree s.root b = .error (.notFound b) := by
  intro s b now t
  have hroot : t.LeadsTo s.here s.root ["builds"] (s.place ["builds"]) :=
    Tree.leadsTo_of_not_up (by decide) (by decide +kernel) _
  have hfolder : t.lookup ["builds"] = some .folder := by decide +kernel
  have hnodup : (t.entries.map (·.1)).Nodup := by decide +kernel
  exact ⟨by decide, hnodup, .folder hroot hfolder, by decide +kernel, by decide +kernel⟩

end Site

end Depot.Build
