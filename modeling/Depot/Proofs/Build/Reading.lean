import Depot.Proofs.Build.Simulation
import Depot.Proofs.Results
import Mathlib.Data.List.Nodup

/-!
# Reading a record back

Reading goes through the files of the partials in the order of their names and
sorts by timestamp what is in them. The sort is stable, so what is read is in the
order of timestamps and, for one timestamp, of file names
(`pairwise_mergeSort_of_pairwise`).

With the simulation of runs by ledgers, this tells what is read after any run
(`Site.read_run`), in whatever order the system lists its files. Two names of builds make
reading fail in ways of their own: one that is too long for the system, and one with half
of a surrogate pair.
-/

namespace Depot.Build

open Files Time

/-! ## Stable sorting -/

/-- Entries that a sort does not tell apart stay in the order that they were in. -/
theorem pairwise_mergeSort_of_pairwise {α : Type} {le : α → α → Bool} {r : α → α → Prop}
    {es : List α} (htrans : ∀ a b c, le a b → le b c → le a c)
    (htotal : ∀ a b, le a b || le b a) (h : es.Pairwise r) :
    (es.mergeSort le).Pairwise fun a b => le a b ∧ (le b a → r a b) := by
  -- The sort is the one of the entries with their places, by which ties are broken.
  have hsorted := List.pairwise_mergeSort (List.zipIdxLE_trans htrans)
    (List.zipIdxLE_total htotal) es.zipIdx
  have hplaces : (es.zipIdx.mergeSort (List.zipIdxLE le)).Pairwise fun x y => x.2 ≠ y.2 := by
    refine List.pairwise_map.1 (((List.mergeSort_perm _ _).map _).nodup_iff.2 ?_)
    rw [List.zipIdx_map_snd]
    exact List.nodup_range' _
  rw [← List.mergeSort_zipIdx, List.pairwise_map]
  refine (hsorted.and hplaces).imp_of_mem ?_
  rintro ⟨a, i⟩ ⟨b, j⟩ ha hb ⟨hle, hne⟩
  rw [List.mem_mergeSort, List.mk_mem_zipIdx_iff_getElem?, List.getElem?_eq_some_iff] at ha hb
  obtain ⟨hi, rfl⟩ := ha
  obtain ⟨hj, rfl⟩ := hb
  rw [List.zipIdxLE] at hle
  split at hle
  · next hab =>
    refine ⟨hab, fun hba => ?_⟩
    rw [if_pos hba, decide_eq_true_eq] at hle
    exact List.pairwise_iff_getElem.1 h i j hi hj (Nat.lt_of_le_of_ne hle hne)
  · contradiction

variable {s : Site} {l : Location} {t t' : Tree} {k : Ledger} {first : Nat}

/-! ## The order of reading -/

namespace Ledger

/-- One partial is listed before another: it has an earlier timestamp, or for the same
    timestamp a file name that comes first. -/
def Precedes (a b : Text × Partial) : Prop :=
  a.2.timestamp < b.2.timestamp ∨ a.2.timestamp = b.2.timestamp ∧ a.1 < b.1

theorem Precedes.asymm {a b : Text × Partial} (h : Precedes a b) : ¬Precedes b a := by
  rintro (hlt | ⟨heq, hname⟩)
  · rcases h with hlt' | ⟨heq', _⟩ <;> omega
  · rcases h with hlt' | ⟨_, hname'⟩
    · omega
    · exact List.lt_asymm hname hname'

/-- There is one order in which partials can be listed. -/
theorem eq_of_perm {es es' : List (Text × Partial)} (hperm : es.Perm es')
    (h : es.Pairwise Precedes) (h' : es'.Pairwise Precedes) : es = es' :=
  hperm.eq_of_pairwise (fun _ _ _ _ hab hba => absurd hba hab.asymm) h h'

/-- The partials in the order of the names of their files. -/
def named (k : Ledger) : List (Text × Partial) :=
  k.partials.mergeSort fun a b => !Text.before b.1 a.1

/-- The partials in the order of their timestamps, those of one timestamp in the order of
    the names of their files. -/
def listed (k : Ledger) : List (Text × Partial) :=
  k.named.mergeSort fun a b => a.2.timestamp ≤ b.2.timestamp

theorem named_perm (k : Ledger) : k.named.Perm k.partials := List.mergeSort_perm _ _

theorem named_eq_nil_iff : k.named = [] ↔ k.partials = [] := by
  rw [← List.length_eq_zero_iff, k.named_perm.length_eq, List.length_eq_zero_iff]

theorem listed_perm (k : Ledger) : k.listed.Perm k.partials :=
  (List.mergeSort_perm _ _).trans k.named_perm

theorem pairwise_named (k : Ledger) : k.named.Pairwise fun a b => a.1 ≤ b.1 :=
  Text.pairwise_mergeSort Prod.fst k.partials

theorem Sound.nodup_named (hk : k.Sound s first) : (k.named.map (·.1)).Nodup :=
  (k.named_perm.map _).nodup_iff.2 hk.nodup

theorem Sound.pairwise_listed (hk : k.Sound s first) : k.listed.Pairwise Precedes := by
  have hnames : k.named.Pairwise fun a b => a.1 < b.1 := by
    refine (k.pairwise_named.and (List.pairwise_map.1 hk.nodup_named)).imp ?_
    rintro a b ⟨hle, hne⟩
    exact Std.lt_of_le_of_ne hle hne
  have hsorted : k.listed.Pairwise fun a b => decide (a.2.timestamp ≤ b.2.timestamp) ∧
      (decide (b.2.timestamp ≤ a.2.timestamp) → a.1 < b.1) :=
    pairwise_mergeSort_of_pairwise
      (fun a b c => by simpa only [decide_eq_true_eq] using Int.le_trans)
      (fun a b => by
        simpa only [Bool.or_eq_true, decide_eq_true_eq] using
          Int.le_total a.2.timestamp b.2.timestamp) hnames
  refine hsorted.imp ?_
  -- The sort by timestamp keeps the order of names among equals.
  rintro a b ⟨hle, hname⟩
  rw [decide_eq_true_eq] at hle
  rcases Int.lt_or_eq_of_le hle with hlt | heq
  · exact .inl hlt
  · exact .inr ⟨heq, hname (decide_eq_true (Int.le_of_eq heq.symm))⟩

theorem Sound.file?_of_mem (hk : k.Sound s first) {e : Text × Partial} (he : e ∈ k.partials) :
    k.file? e.1 = some e.2 := by
  obtain ⟨e', he'⟩ := Option.isSome_iff_exists.1
    (List.find?_isSome (p := fun x : Text × Partial => x.1 = e.1).2 ⟨e, he, by simp⟩)
  have hname : e'.1 = e.1 := by simpa using List.find?_some he'
  have hsame : e' = e := List.inj_on_of_nodup_map hk.nodup (List.mem_of_find?_eq_some he') he hname
  rw [file?, he', hsame]
  rfl

end Ledger

/-! ## Reading from a disk -/

namespace Site.Holds

/-- What is held does not depend on the order in which a disk lists its entries. -/
theorem perm (h : s.Holds l t k) (hperm : t.entries.Perm t'.entries) : s.Holds l t' k := by
  have hlookup := Tree.lookup_perm h.unique hperm
  exact {
    unique := (hperm.map _).nodup h.unique
    root := h.root.agrees fun l' _ => hlookup l'
    rootFolder := (hlookup l).trans h.rootFolder
    absent := fun hnone =>
      ⟨(h.absent hnone).1, fun l' hl => (hlookup l').trans ((h.absent hnone).2 l' hl)⟩
    folder := fun hstarted => (hlookup _).trans (h.folder hstarted)
    short := h.short
    details := fun m hm => (hlookup _).trans (h.details m hm)
    partials := h.partials.imp (hlookup _).trans
      fun ⟨hnone, hnil⟩ => ⟨(hlookup _).trans hnone, hnil⟩
    file := fun n => (hlookup _).trans (h.file n) }

variable (h : s.Holds l t k)

include h

/-- Without a start there are no partials. -/
theorem started_ne_none (hne : k.partials ≠ []) : k.started ≠ none :=
  fun hnone => hne (h.absent hnone).1

/-- Nothing is read of a build whose name is too long for the system, and the failure is
    not that nothing was found. -/
theorem read_of_not_isShort (hwhole : s.build.IsWhole)
    (hlong : ¬(partialsPath s.folder).IsShort) :
    Build.read s.here t s.root s.build =
      .error (.file ⟨.nameTooLong, partialsPath s.folder, false⟩) := by
  have hlocate : t.locate s.here (partialsPath s.folder) = .error .nameTooLong :=
    h.locate_of_not_isShort (by decide) (by decide) hlong
  have hfolder : t.isFolder? s.here (partialsPath s.folder) =
      .error ⟨.nameTooLong, partialsPath s.folder, false⟩ := by
    rw [Tree.isFolder?, Tree.test, Tree.stat_of_error hlocate]
  rw [read_of_isWhole hwhole, readFolder, ← Site.folder, partialPaths, hfolder]
  rfl

variable (hk : k.Sound s first)

include hk

/-- The names in the folder of the partials are those of the files. -/
theorem names_eq : t.names (s.place l ++ [partialsName]) = k.named.map (·.1) := by
  refine Tree.names_eq_of_mem_iff h.unique hk.nodup_named
    (List.pairwise_map.2 k.pairwise_named) fun n => ?_
  rw [← List.append_cons, h.file, Ne, Option.map_eq_none_iff, Ledger.file?_eq_none_iff,
    Classical.not_not, (k.named_perm.map _).mem_iff]

theorem partialPaths_eq (hstarted : k.started ≠ none) :
    partialPaths s.here t s.folder =
      .ok (k.named.map fun e => (partialsPath s.folder).child e.1) := by
  have hlocate := h.locate_partials hstarted
  rcases h.partials with hfolder | ⟨hmissing, hnil⟩
  · have hsuffix : ∀ n ∈ k.named.map (·.1), (".json" : Text).isSuffixOf n = true := by
      intro n hn
      obtain ⟨e, he, rfl⟩ := List.mem_map.1 hn
      obtain ⟨i, _, _, hname⟩ := hk.name e (k.named_perm.mem_iff.1 he)
      rw [hname, List.isSuffixOf_iff_suffix]
      exact List.suffix_append _ _
    have hisFolder : t.isFolder? s.here (partialsPath s.folder) = .ok true := by
      rw [Tree.isFolder?, Tree.test, Tree.stat_of_lookup hlocate hfolder]
      rfl
    rw [partialPaths, hisFolder]
    simp only [hlocate]
    rw [h.names_eq hk, List.filter_eq_self.2 hsuffix, List.map_map]
    rfl
  · have hisFolder : t.isFolder? s.here (partialsPath s.folder) = .ok false := by
      rw [Tree.isFolder?, Tree.test, Tree.stat_of_missing hlocate hmissing]
    rw [partialPaths, hisFolder, Ledger.named_eq_nil_iff.2 hnil]
    rfl

theorem readPartial_eq {e : Text × Partial} (he : e ∈ k.partials) :
    readPartial s.here t ((partialsPath s.folder).child e.1) = .ok e.2 := by
  have hne : k.partials ≠ [] := List.ne_nil_of_mem he
  obtain ⟨i, _, _, hname⟩ := hk.name e he
  have hfolder := h.partials.resolve_right fun hnone => hne hnone.2
  have hlocate := h.locate_file (h.started_ne_none hne) (hname ▸ fileName_ne_up i e.2)
    (hk.short e he) hfolder
  have hlookup : t.lookup (s.place l ++ [partialsName, e.1]) =
      some (.file (written e.2.toJson)) := by
    rw [h.file, hk.file?_of_mem he]
    rfl
  rw [readPartial, readJson_of_isRestored (hk.restored e he) hlocate hlookup]
  simp only [Partial.ofJson_toJson]

/-- Nothing is found of a build for which no partials are recorded. -/
theorem read_of_nil (hwhole : s.build.IsWhole) (hnil : k.partials = [])
    (hshort : (partialsPath s.folder).IsShort) :
    Build.read s.here t s.root s.build = .error (.notFound s.build) := by
  have hpaths : partialPaths s.here t s.folder = .ok [] := by
    by_cases hstarted : k.started = none
    · have hlocate : t.locate s.here (partialsPath s.folder) = .error .missing :=
        Tree.locate_child_of_missing hshort (h.locate_folder hshort.of_child fun _ _ => rfl)
          ((h.absent hstarted).2 _ (List.prefix_refl _))
      have hisFolder : t.isFolder? s.here (partialsPath s.folder) = .ok false := by
        rw [Tree.isFolder?, Tree.test, Tree.stat_of_error hlocate]
      rw [partialPaths, hisFolder]
    · rw [h.partialPaths_eq hk hstarted, Ledger.named_eq_nil_iff.2 hnil]
      rfl
  rw [read_of_isWhole hwhole, readFolder, ← Site.folder, hpaths]
  rfl

/-- Partials that are recorded are read in order, with the start of the build. -/
theorem read_of_ne_nil (hwhole : s.build.IsWhole) (hne : k.partials ≠ []) {m : Timestamp}
    (hm : k.started = some m) :
    Build.read s.here t s.root s.build = .ok ⟨m, k.listed.map (·.2)⟩ := by
  have hnamed : k.named.map (fun e => (partialsPath s.folder).child e.1) ≠ [] := by
    rw [Ne, List.map_eq_nil_iff, Ledger.named_eq_nil_iff]
    exact hne
  have hpartials : (k.named.map fun e => (partialsPath s.folder).child e.1).mapM
      (readPartial s.here t) = .ok (k.named.map (·.2)) := by
    rw [List.mapM_map]
    exact mapM_eq_ok fun e he => h.readPartial_eq hk (k.named_perm.mem_iff.1 he)
  have hsorted : (k.named.map (·.2)).mergeSort (fun p q => p.timestamp ≤ q.timestamp) =
      k.listed.map (·.2) :=
    (List.map_mergeSort (f := fun e : Text × Partial => e.2) fun _ _ _ _ => rfl).symm
  rw [read_of_isWhole hwhole, readFolder, ← Site.folder,
    h.partialPaths_eq hk (h.started_ne_none hne)]
  change (if _ then _ else _) = _
  rw [if_neg hnamed, hpartials, h.readDetails hm (hk.started m hm), ← hsorted]
  rfl

/-- Whatever is read is the start and the partials in order. -/
theorem record_of_read {record : Record} (hread : Build.read s.here t s.root s.build = .ok record) :
    k.started = some record.started ∧ record.partials = k.listed.map (·.2) := by
  have hwhole := isWhole_of_read hread
  have hne : k.partials ≠ [] := by
    intro hnil
    by_cases hshort : (partialsPath s.folder).IsShort
    · cases (h.read_of_nil hk hwhole hnil hshort).symm.trans hread
    · cases (h.read_of_not_isShort hwhole hshort).symm.trans hread
  obtain ⟨m, hm⟩ := Option.ne_none_iff_exists'.1 (h.started_ne_none hne)
  obtain rfl := Except.ok.inj (hread.symm.trans (h.read_of_ne_nil hk hwhole hne hm))
  exact ⟨hm, rfl⟩

end Site.Holds

/-! ## Whole runs -/

/-- The folder of all builds is at a location of the tree, and nothing is recorded for the
    build. -/
structure Site.IsFresh (s : Site) (l : Location) (t : Tree) : Prop where
  unique : t.Unique
  root : t.locate s.here s.root = .ok l
  rootFolder : t.lookup l = some .folder
  absent : ∀ l', s.place l <+: l' → t.lookup l' = none

/-- Where nothing is recorded, the ledger is empty. -/
theorem Site.IsFresh.holds (h : s.IsFresh l t) (drawn : Nat) : s.Holds l t ⟨none, [], drawn⟩ where
  unique := h.unique
  root := Tree.leadsTo_of_locate h.root h.absent
  rootFolder := h.rootFolder
  absent := fun _ => ⟨rfl, h.absent⟩
  folder := fun hstarted => absurd rfl hstarted
  short := fun hstarted => absurd rfl hstarted
  details := fun _ hm => nomatch hm
  partials := .inr ⟨h.absent _ (List.prefix_append _ _), rfl⟩
  file := fun _ => h.absent _ (List.prefix_append _ _)

theorem Ledger.sound_empty (s : Site) (drawn : Nat) : Sound s drawn ⟨none, [], drawn⟩ where
  started := fun _ hm => nomatch hm
  restored := List.forall_mem_nil _
  drawn := Nat.le_refl _
  name := List.forall_mem_nil _
  short := List.forall_mem_nil _
  nodup := List.nodup_nil

/-- What is read after a run of operations on a build of which nothing was recorded, in
    whatever order the system lists the files.

    The operations succeed as in the ledger. Nothing is found just when no partial is
    recorded since the last removal, the build is whole, and its name is not too long for the
    system; else reading fails for the name, before anything is looked for. If partials are
    recorded, every one is read once and as it was, in the order of timestamps and file names,
    with the start that was recorded first. -/
theorem Site.read_run {ops : List Operation} {drawn : Nat} (hfresh : s.IsFresh l t)
    (hsuffix : ∀ i j, drawn ≤ i → i < j → j < drawn + ops.length → s.suffix i ≠ s.suffix j)
    (hstarted : ∀ op ∈ ops, ∀ m, op.start? = some m → Timestamp.parse m.iso = .ok m)
    (hpartial : ∀ op ∈ ops, ∀ p, op.partial? = some p → IsRestored p.toJson) :
    let k := Ledger.run s ops ⟨none, [], drawn⟩
    let d := s.run ops ⟨t, drawn⟩
    d.1 = k.1 ∧ ∀ t', d.2.tree.entries.Perm t'.entries →
      (read s.here t' s.root s.build = .error (.notFound s.build) ↔
        k.2.partials = [] ∧ s.build.IsWhole ∧ (partialsPath s.folder).IsShort) ∧
      (¬s.build.IsWhole → ∃ e,
        Utf8.encode? (s.build.name ++ "_" ++ s.build.number) = .error e ∧
        read s.here t' s.root s.build = .error (.notText (.encode e))) ∧
      (s.build.IsWhole → ¬(partialsPath s.folder).IsShort → read s.here t' s.root s.build =
        .error (.file ⟨.nameTooLong, partialsPath s.folder, false⟩)) ∧
      (k.2.partials ≠ [] → ∃ started, ∃ listed : List (Text × Partial),
        k.2.started = some started ∧ listed.Perm k.2.partials ∧
        listed.Pairwise Ledger.Precedes ∧
        read s.here t' s.root s.build = .ok ⟨started, listed.map (·.2)⟩) := by
  intro k d
  -- The run keeps disk and ledger together; the rest is about one disk and its ledger.
  obtain ⟨hoks, hholds, hsound⟩ := (hfresh.holds drawn).run (d := ⟨t, drawn⟩) rfl
    (Ledger.sound_empty s drawn) (Nat.le_refl _) hsuffix hstarted hpartial
  refine ⟨hoks, fun t' hperm => ?_⟩
  have h : s.Holds l t' k.2 := hholds.perm hperm
  have hrefused (hwhole : ¬s.build.IsWhole) : ∃ e,
      Utf8.encode? (s.build.name ++ "_" ++ s.build.number) = .error e ∧
      read s.here t' s.root s.build = .error (.notText (.encode e)) := by
    obtain ⟨e, he, hread⟩ := exists_read_eq_error s.root hwhole
    exact ⟨e, he, hread s.here t'⟩
  have hread (hne : k.2.partials ≠ []) : ∃ started, k.2.started = some started ∧
      read s.here t' s.root s.build = .ok ⟨started, k.2.listed.map (·.2)⟩ := by
    have hwhole : s.build.IsWhole := Classical.byContradiction fun hwhole =>
      hne (congrArg (·.2.partials) (Ledger.run_of_not_isWhole s hwhole ops ⟨none, [], drawn⟩))
    obtain ⟨started, hm⟩ := Option.ne_none_iff_exists'.1 (h.started_ne_none hne)
    exact ⟨started, hm, h.read_of_ne_nil hsound hwhole hne hm⟩
  refine ⟨⟨fun hmissing => ?_, fun ⟨hnil, hwhole, hshort⟩ =>
      h.read_of_nil hsound hwhole hnil hshort⟩,
    hrefused, h.read_of_not_isShort, fun hne => ?_⟩
  · -- The three other answers are no such failure.
    have hwhole : s.build.IsWhole := Classical.byContradiction fun hwhole => by
      obtain ⟨e, _, he⟩ := hrefused hwhole
      cases he.symm.trans hmissing
    refine ⟨Classical.byContradiction fun hne => ?_, hwhole,
      Classical.byContradiction fun hlong => ?_⟩
    · obtain ⟨started, _, hok⟩ := hread hne
      cases hok.symm.trans hmissing
    · cases (h.read_of_not_isShort hwhole hlong).symm.trans hmissing
  · obtain ⟨started, hm, hok⟩ := hread hne
    exact ⟨started, k.2.listed, hm, k.2.listed_perm, hsound.pairwise_listed, hok⟩

theorem Site.read_run_two :
    let s : Site := ⟨[], ⟨['/'], ["builds"]⟩, ⟨"app", "1"⟩, Text.ofNat⟩
    let t : Tree := ⟨[(["builds"], .folder)]⟩
    let now : Timestamp := ⟨⟨2024, 1, 2⟩, 3, 4, 5, 0, none⟩
    let p : Partial := ⟨20, some [], none, none⟩
    let env : Partial := ⟨10, none, none, some [("buildInfo.env.A", .text "b")]⟩
    let ops : List Operation := [.savePartial now p, .saveEnv now 10 [("A", "b")]]
    s.IsFresh ["builds"] t ∧ (s.run ops ⟨t, 0⟩).1 = [true, true] ∧
      read s.here (s.run ops ⟨t, 0⟩).2.tree s.root s.build =
        .ok ⟨{ now with offset := some 0 }, [env, p]⟩ := by
  intro s t now p env ops
  have hfresh : s.IsFresh ["builds"] t := by
    refine ⟨List.nodup_singleton _, by decide, by decide, fun l' hl => ?_⟩
    obtain ⟨rest, rfl⟩ := hl
    rfl
  have hsuffix : ∀ j < 2, ∀ i < j, s.suffix i ≠ s.suffix j := by decide
  have hpresent : present? now = some { now with offset := some 0 } := rfl
  have hmoment : ∀ m, present? now = some m → Timestamp.parse m.iso = .ok m := by
    intro m hm
    rw [hpresent] at hm
    cases hm
    decide +kernel
  have hp : IsRestored p.toJson := by
    refine isRestored_toJson rfl (.int (by decide)) ?_ (fun _ h => nomatch h) (fun _ h => nomatch h)
    rintro vs ⟨⟩
    exact .list (List.forall_mem_nil _)
  have henv : IsRestored env.toJson := by
    refine isRestored_toJson rfl (.int (by decide)) (fun _ h => nomatch h) (fun _ h => nomatch h) ?_
    rintro ms ⟨⟩
    exact .object (by decide) (by decide) (List.forall_mem_singleton.2 (.text (by decide)))
  have hstarted : ∀ op ∈ ops, ∀ m, op.start? = some m → Timestamp.parse m.iso = .ok m :=
    List.forall_mem_cons.2 ⟨hmoment, List.forall_mem_singleton.2 hmoment⟩
  have hpartial : ∀ op ∈ ops, ∀ q, op.partial? = some q → IsRestored q.toJson := by
    refine List.forall_mem_cons.2 ⟨?_, List.forall_mem_singleton.2 ?_⟩
    · intro q hq
      exact Option.some.inj hq ▸ hp
    · intro q hq
      exact Option.some.inj hq ▸ henv
  have hbound : ∀ i j, 0 ≤ i → i < j → j < 0 + ops.length → s.suffix i ≠ s.suffix j :=
    fun i j _ hij hj => hsuffix j hj i hij
  obtain ⟨hok, hread⟩ := Site.read_run hfresh hbound hstarted hpartial
  have hpartials : (Ledger.run s ops ⟨none, [], 0⟩).2.partials =
      [(("20-0.json" : Text), p), (("10-1.json" : Text), env)] := by decide +kernel
  have hstart : (Ledger.run s ops ⟨none, [], 0⟩).2.started =
      some { now with offset := some 0 } := by decide +kernel
  refine ⟨hfresh, hok.trans (by decide +kernel), ?_⟩
  obtain ⟨started, listed, hm, hperm, hsorted, hlisted⟩ :=
    (hread _ (.refl _)).2.2.2 (by rw [hpartials]; exact List.cons_ne_nil _ _)
  -- The later operation recorded the earlier timestamp.
  rw [hpartials] at hperm
  have horder : listed = [(("10-1.json" : Text), env), (("20-0.json" : Text), p)] :=
    Ledger.eq_of_perm (hperm.trans (.swap ..)) hsorted
      (List.pairwise_pair.2 (.inl (by decide)))
  rw [hlisted, Option.some.inj (hm.symm.trans hstart), horder]
  rfl

/-- Of a build with a name of 300 characters nothing is recorded, and still the answer is not
    that nothing was found. -/
theorem Site.read_long_name :
    let s : Site := ⟨[], ⟨['/'], ["builds"]⟩, ⟨Text.repeated 300 'a', "1"⟩, Text.ofNat⟩
    let t : Tree := ⟨[(["builds"], .folder)]⟩
    s.IsFresh ["builds"] t ∧ (Ledger.run s [] ⟨none, [], 0⟩).2.partials = [] ∧
      read s.here (s.run [] ⟨t, 0⟩).2.tree s.root s.build ≠ .error (.notFound s.build) := by
  intro s t
  have hfresh : s.IsFresh ["builds"] t := by
    refine ⟨List.nodup_singleton _, by decide, by decide, fun l' hl => ?_⟩
    obtain ⟨rest, rfl⟩ := hl
    rfl
  have hlong : ¬(partialsPath s.folder).IsShort := by decide +kernel
  refine ⟨hfresh, rfl, fun hmissing => ?_⟩
  have hread := (hfresh.holds 0).read_of_not_isShort (by decide +kernel) hlong
  cases hread.symm.trans hmissing

end Depot.Build
