import Depot.Proofs.Build.Recording

/-!
# Disks follow their ledgers

Each operation on a disk does what the ledger says: it succeeds when the ledger
takes it, and the disk holds the new ledger afterwards (`Holds.perform`). By
induction this is so for every run (`Holds.run`).

The texts in the files are read back for the start of the build alone, to answer
an operation that finds one recorded.
-/

namespace Depot.Build

open Files Time

variable {s : Site} {l : Location} {t : Tree} {k : Ledger} {d : Disk} {v : Json} {m : Timestamp}

/-! ## Reading data files -/

/-- What is written of a value is read back as the value. -/
def IsRestored (v : Json) : Prop :=
  ∃ text, Utf8.decode (written v) = .ok text ∧ Json.parseFile (Text.unifyLines text) = .ok v

/-- The values that a text tells all of are read back. -/
theorem isRestored_of_faithful (h : Json.Faithful Json.maxDepth v) : IsRestored v :=
  h.parseFile_render

theorem mem_optional {α : Type} {key : Text} {wrap : α → Json} {value : Option α}
    {e : Text × Json} :
    e ∈ Partial.optional key wrap value ↔ ∃ v, value = some v ∧ e = (key, wrap v) := by
  cases value <;> simp [Partial.optional]

theorem map_fst_optional_sublist {α : Type} (key : Text) (wrap : α → Json) (value : Option α) :
    ((Partial.optional key wrap value).map (·.1)).Sublist [key] := by
  cases value with
  | none => exact List.nil_sublist _
  | some v => exact List.Sublist.refl _

/-- The keys that the members of a partial have, if they are there. -/
def partialKeys : List Text := ["timestamp", "artifacts", "dependencies", "env"]

/-- Partials are read back when a text tells all of their contents. -/
theorem isRestored_toJson {p : Partial} {d : Nat} (hd : Json.maxDepth = d + 1)
    (htimestamp : Json.Faithful d (.int p.timestamp))
    (hartifacts : ∀ vs, p.artifacts = some vs → Json.Faithful d (.list vs))
    (hdependencies : ∀ vs, p.dependencies = some vs → Json.Faithful d (.list vs))
    (henv : ∀ ms, p.env = some ms → Json.Faithful d (.object ms)) : IsRestored p.toJson := by
  have hkeys : (p.members.map (·.1)).Sublist partialKeys := by
    rw [Partial.members, List.map_cons, List.map_append, List.map_append]
    exact (((map_fst_optional_sublist ..).append (map_fst_optional_sublist ..)).append
      (map_fst_optional_sublist ..)).cons_cons _
  have hplain : ∀ key ∈ partialKeys, ∀ c ∈ key, c.isHalf = false := by decide
  have hdistinct : (p.members.map (·.1)).Nodup := hkeys.nodup (by decide)
  refine isRestored_of_faithful ?_
  rw [hd]
  refine .object ?_ hdistinct ?_
  · exact fun e he => hplain e.1 (hkeys.subset (List.mem_map_of_mem he))
  · intro e he
    rw [Partial.members, List.mem_cons, List.mem_append, List.mem_append, mem_optional,
      mem_optional, mem_optional] at he
    -- Each member is there as it was read, or is left out.
    rcases he with rfl | (⟨vs, h, rfl⟩ | ⟨vs, h, rfl⟩) | ⟨ms, h, rfl⟩
    · exact htimestamp
    · exact hartifacts vs h
    · exact hdependencies vs h
    · exact henv ms h

theorem readJson_of_isRestored {here : Location} {p : Path} (hv : IsRestored v)
    (hp : t.locate here p = .ok l) (hl : t.lookup l = some (.file (written v))) :
    readJson here t p = .ok v := by
  obtain ⟨text, hdecode, hparse⟩ := hv
  have hread : t.read here p = .ok (written v) := by
    rw [Tree.read, Tree.stat_of_lookup hp hl]
  rw [readJson, hread]
  simp only [hdecode, hparse]

theorem isRestored_detailsOf (m : Timestamp) : IsRestored (detailsOf m) := by
  have hkey : ∀ c ∈ startedKey, c.isHalf = false := by decide
  refine isRestored_of_faithful (.object (d := 989) ?_ (by simp) ?_)
  · exact List.forall_mem_singleton.2 hkey
  · exact List.forall_mem_singleton.2 (.text (isKept_iso m).isHalf_eq_false)

theorem startedOf_detailsOf (h : Timestamp.parse m.iso = .ok m) :
    startedOf (detailsOf m) = .ok m := by
  simp [startedOf, detailsOf, Json.find?, h]

/-- The folder of the partials has a shorter name than the details. -/
theorem isShort_partialsPath {folder : Path} (h : (detailsPath folder).IsShort) :
    (partialsPath folder).IsShort := h.of_sibling (by decide) (by decide)

namespace Site.Holds

/-! ## Places -/

section

variable (h : s.Holds l t k)

include h

theorem locate_folder {t' : Tree} (hshort : s.folder.IsShort)
    (h' : Tree.AgreesOff (s.place l) t t') : t'.locate s.here s.folder = .ok (s.place l) :=
  Tree.locate_child_of_folder hshort (folderName_ne_up s.build) (h.root t' h')
    (h.rootFolder_of_agrees h')

theorem locate_partials (hstarted : k.started ≠ none) :
    t.locate s.here (partialsPath s.folder) = .ok (s.place l ++ [partialsName]) := by
  have hshort := isShort_partialsPath (h.short hstarted)
  exact Tree.locate_child_of_folder hshort (by decide)
    (h.locate_folder hshort.of_child fun _ _ => rfl) (h.folder hstarted)

theorem locate_details (hstarted : k.started ≠ none) :
    t.locate s.here (detailsPath s.folder) = .ok (s.place l ++ [detailsName]) := by
  have hshort := h.short hstarted
  exact Tree.locate_child_of_folder hshort (by decide)
    (h.locate_folder hshort.of_child fun _ _ => rfl) (h.folder hstarted)

theorem locate_file (hstarted : k.started ≠ none) {n : Text} (hn : n ≠ Path.up)
    (hshort : ((partialsPath s.folder).child n).IsShort)
    (hfolder : t.lookup (s.place l ++ [partialsName]) = some .folder) :
    t.locate s.here ((partialsPath s.folder).child n) = .ok (s.place l ++ [partialsName, n]) := by
  rw [List.append_cons]
  exact Tree.locate_child_of_folder hshort hn (h.locate_partials hstarted) hfolder

/-- What would have too long a path in the folder of the build is nowhere. -/
theorem locate_of_not_isShort {n : Text} (hnul : .char '\x00' ∉ n)
    (hlen : (Utf8.encode n).length ≤ Tree.maxName) (hlong : ¬(s.folder.child n).IsShort) :
    t.locate s.here (s.folder.child n) = .error .nameTooLong :=
  Tree.locate_grandchild_of_not_isShort hlong (folderName_ne_up s.build)
    (not_nul_mem_folderName s.build) hnul hlen h.root.locate h.rootFolder

/-- The start that is recorded is read. -/
theorem readDetails (hm : k.started = some m) (hkept : Timestamp.parse m.iso = .ok m) :
    readDetails s.here t s.folder = .ok m := by
  have hjson := readJson_of_isRestored (isRestored_detailsOf m)
    (h.locate_details (by simp [hm])) (h.details m hm)
  rw [Build.readDetails, hjson]
  simp only [startedOf_detailsOf hkept]

end

/-! ## Operations -/

/-- The start that is recorded is the one that the ledger is told of. -/
theorem toOption_start (now : WallClock) (started : Option Timestamp) :
    (started.elim now.present .ok).toOption = started.or (present? now) := by
  cases started <;> rfl

/-- The details of a start are written in a folder that is made for them. -/
theorem writeJson_details (h : s.Holds l t k) (hshort : (detailsPath s.folder).IsShort)
    (hnone : k.started = none) (m : Timestamp) :
    writeJson s.here t (detailsPath s.folder) (detailsOf m) =
      ((t.put (s.place l) .folder).put (s.place l ++ [detailsName]) (.file (written (detailsOf m))),
        none) := by
  have habsent := (h.absent hnone).2
  have hmade : t.ensureFolders s.here s.folder = (t.put (s.place l) .folder, none) :=
    Tree.ensureFolders_of_missing (h.locate_folder hshort.of_child fun _ _ => rfl)
      (habsent _ (List.prefix_refl _))
  have hagrees := Tree.AgreesOff.put (List.prefix_refl (s.place l)) t .folder
  have hlocate : (t.put (s.place l) .folder).locate s.here (detailsPath s.folder) =
      .ok (s.place l ++ [detailsName]) :=
    Tree.locate_child_of_folder hshort (by decide) (h.locate_folder hshort.of_child hagrees)
      (Tree.lookup_put_self (s.place_ne_nil l) _)
  have hlookup : (t.put (s.place l) .folder).lookup (s.place l ++ [detailsName]) ≠
      some .folder := by
    rw [Tree.lookup_put_of_ne (by simp), habsent _ (List.prefix_append _ _)]
    simp
  rw [writeJson, detailsPath, Path.parent_child, hmade]
  simp only
  rw [← detailsPath, ← written, Tree.write_of_locate hlocate hlookup]

variable (h : s.Holds l d.tree k)

include h

/-- A start that is recorded is answered. -/
theorem ensureDetails_of_started (hm : k.started = some m)
    (hkept : Timestamp.parse m.iso = .ok m) (now : WallClock) (millis : Int)
    (started : Option Timestamp) :
    Build.ensureDetails ⟨s.here, now, millis, s.suffix⟩ s.folder started d = (.ok m, d) := by
  have hstarted : k.started ≠ none := by simp [hm]
  have hexists : d.tree.exists? s.here (detailsPath s.folder) = .ok true := by
    rw [Tree.exists?, Tree.test, Tree.stat_of_lookup (h.locate_details hstarted) (h.details m hm)]
  simp only [Build.ensureDetails, hexists, h.readDetails hm hkept]

/-- A start that is not recorded is written, if there is one. -/
theorem ensureDetails_of_isShort (hnone : k.started = none)
    (hshort : (detailsPath s.folder).IsShort) (now : WallClock) (millis : Int)
    (started : Option Timestamp) :
    Build.ensureDetails ⟨s.here, now, millis, s.suffix⟩ s.folder started d =
      match started.elim now.present .ok with
      | .error fault => (.error (.moment fault), d)
      | .ok m => (.ok m, ⟨(d.tree.put (s.place l) .folder).put (s.place l ++ [detailsName])
          (.file (written (detailsOf m))), d.drawn⟩) := by
  have hmissing : d.tree.locate s.here (detailsPath s.folder) = .error .missing :=
    Tree.locate_child_of_missing hshort (h.locate_folder hshort.of_child fun _ _ => rfl)
      ((h.absent hnone).2 _ (List.prefix_refl _))
  have hexists : d.tree.exists? s.here (detailsPath s.folder) = .ok false := by
    rw [Tree.exists?, Tree.test, Tree.stat_of_error hmissing]
  simp only [Build.ensureDetails, hexists]
  cases started.elim now.present .ok with
  | error fault => rfl
  | ok m =>
    simp only
    rw [← detailsOf, h.writeJson_details hshort hnone m]

/-- No start is recorded in a folder with too long a path. -/
theorem ensureDetails_of_not_isShort (hlong : ¬(detailsPath s.folder).IsShort) (now : WallClock)
    (millis : Int) (started : Option Timestamp) :
    Build.ensureDetails ⟨s.here, now, millis, s.suffix⟩ s.folder started d =
      (.error (.file ⟨.nameTooLong, detailsPath s.folder, false⟩), d) := by
  have hlocate : d.tree.locate s.here (detailsPath s.folder) = .error .nameTooLong :=
    h.locate_of_not_isShort (by decide) (by decide) hlong
  have hexists : d.tree.exists? s.here (detailsPath s.folder) =
      .error ⟨.nameTooLong, detailsPath s.folder, false⟩ := by
    rw [Tree.exists?, Tree.test, Tree.stat_of_error hlocate]
  simp only [Build.ensureDetails, hexists]

/-- The details are written, or read when they are there. -/
theorem ensureDetails (hkept : ∀ m, k.started = some m → Timestamp.parse m.iso = .ok m)
    (now : WallClock) (millis : Int) (started : Option Timestamp) :
    let r := Build.ensureDetails ⟨s.here, now, millis, s.suffix⟩ s.folder started d
    let r' := k.start s (started.or (present? now))
    r.1.isOk = r'.1 ∧ s.Holds l r.2.tree r'.2 ∧ r.2.drawn = d.drawn := by
  have hstart := toOption_start now started
  cases hk : k.started with
  | some m =>
    rw [h.ensureDetails_of_started hk (hkept m hk), Ledger.start_of_started hk]
    exact ⟨rfl, h, rfl⟩
  | none =>
    -- Nothing is recorded yet: the details can be written if their path is short and the time is
    -- one that can be written.
    by_cases hshort : (detailsPath s.folder).IsShort
    · rw [h.ensureDetails_of_isShort hk hshort, ← hstart]
      cases started.elim now.present .ok with
      | error fault =>
        rw [Except.toOption, Ledger.start_none hk]
        exact ⟨rfl, h, rfl⟩
      | ok m =>
        rw [Except.toOption, Ledger.start_of_isShort hk hshort]
        exact ⟨rfl, h.putDetails hk hshort m, rfl⟩
    · rw [h.ensureDetails_of_not_isShort hshort, Ledger.start_of_not_isShort hk hshort]
      exact ⟨rfl, h, rfl⟩

/-- The folder of the partials is there before a partial is written. -/
theorem ensurePartials (hstarted : k.started ≠ none) :
    ∃ t', d.tree.ensureFolders s.here (partialsPath s.folder) = (t', none) ∧ s.Holds l t' k ∧
      t'.lookup (s.place l ++ [partialsName]) = some .folder := by
  have hlocate := h.locate_partials hstarted
  rcases h.partials with hfolder | ⟨hmissing, _⟩
  · exact ⟨d.tree, Tree.ensureFolders_of_folder hlocate hfolder, h, hfolder⟩
  · exact ⟨_, Tree.ensureFolders_of_missing hlocate hmissing, h.putPartials hstarted,
      Tree.lookup_put_self (by simp) _⟩

/-- The file of a partial is written when its path is short. -/
theorem writeJson_partial (hstarted : k.started ≠ none) (p : Partial)
    (hfresh : k.file? (s.fileName k.drawn p) = none) :
    let r := writeJson s.here d.tree (s.file k.drawn p) p.toJson
    r.2.isNone = (k.save s p).1 ∧ s.Holds l r.1 (k.save s p).2 := by
  intro r
  obtain ⟨t', hmade, h', hfolder⟩ := h.ensurePartials hstarted
  have hup := fileName_ne_up (s := s) k.drawn p
  -- Where the path is too long, the folder is made all the same and the suffix is used up.
  by_cases hpath : (s.file k.drawn p).IsShort
  · have hlocate : t'.locate s.here (s.file k.drawn p) =
        .ok (s.place l ++ [partialsName, s.fileName k.drawn p]) :=
      h'.locate_file hstarted hup hpath hfolder
    have hlookup : t'.lookup (s.place l ++ [partialsName, s.fileName k.drawn p]) ≠
        some .folder := by
      rw [h'.file, hfresh]
      simp
    have hr : r = (t'.put (s.place l ++ [partialsName, s.fileName k.drawn p])
        (.file (written p.toJson)), none) := by
      simp only [r, writeJson]
      rw [parent_file, hmade]
      simp only
      rw [← written, Tree.write_of_locate hlocate hlookup]
    rw [hr, Ledger.save, if_pos hpath]
    exact ⟨rfl, h'.putFile hstarted hfolder hfresh p (k.drawn + 1)⟩
  · obtain ⟨e, he⟩ : ∃ e, t'.locate s.here (s.file k.drawn p) =
        .error e := by
      rcases Tree.locate_child_of_not_isShort hpath hup (h'.locate_partials hstarted) hfolder
        with ⟨_, he⟩ | he
      · exact ⟨_, he⟩
      · exact ⟨_, he⟩
    have hwrite := Tree.write_of_error he (written p.toJson)
    have hr : r = (t', some ⟨e, s.file k.drawn p, false⟩) := by
      simp only [r, writeJson]
      rw [parent_file, hmade]
      simp only
      rw [← written, hwrite]
    rw [hr, Ledger.save, if_neg hpath]
    exact ⟨rfl, h'.drawn _⟩

/-- Nothing is left of a build that is removed. -/
theorem remove (hwhole : s.build.IsWhole) (now : WallClock) (millis : Int) :
    let r := Build.remove ⟨s.here, now, millis, s.suffix⟩ s.root s.build d
    r.1.isOk = decide s.folder.IsShort ∧
      s.Holds l r.2.tree { k with started := none, partials := [] } ∧ r.2.drawn = d.drawn := by
  intro r
  -- A folder with a name that is too long is never made, and cannot be looked for either.
  by_cases hshort : s.folder.IsShort
  · have hlocate : d.tree.locate s.here (folderOf s.root s.build) = .ok (s.place l) :=
      h.locate_folder hshort fun _ _ => rfl
    rw [decide_eq_true hshort]
    by_cases hk : k.started = none
    · obtain ⟨hpartials, habsent⟩ := h.absent hk
      have hstat := Tree.stat_of_missing hlocate (habsent _ (List.prefix_refl _))
      have hr : r = (.ok (), d) := by
        simp only [r, Build.remove, folder?_of_isWhole hwhole, Tree.remove, hstat]
      rw [hr, ← hk, ← hpartials]
      exact ⟨rfl, h, rfl⟩
    · have hstat := Tree.stat_of_lookup hlocate (h.folder hk)
      have hr : r = (.ok (), { d with tree := d.tree.prune (s.place l) }) := by
        simp only [r, Build.remove, folder?_of_isWhole hwhole, Tree.remove, hstat, hlocate]
      rw [hr]
      exact ⟨rfl, h.prune, rfl⟩
  · have hk : k.started = none := Classical.byContradiction fun hk => hshort (h.short hk).of_child
    have hlocate : d.tree.locate s.here (folderOf s.root s.build) = .error .nameTooLong := by
      rcases Tree.locate_child_of_not_isShort hshort (folderName_ne_up s.build) h.root.locate
        h.rootFolder with ⟨hnul, _⟩ | hlong
      · exact absurd hnul (not_nul_mem_folderName s.build)
      · exact hlong
    have hr : r = (.error (.file ⟨.nameTooLong, folderOf s.root s.build, false⟩), d) := by
      simp only [r, Build.remove, folder?_of_isWhole hwhole, Tree.remove,
        Tree.stat_of_error hlocate]
    rw [hr, decide_eq_false hshort, ← hk, ← (h.absent hk).1]
    exact ⟨rfl, h, rfl⟩

end Site.Holds

/-! ## Ledgers in order -/

namespace Ledger

/-- The ledger tells nothing that cannot be read back, and its files have distinct names,
    with suffixes that were drawn from some number on. -/
structure Sound (s : Site) (first : Nat) (k : Ledger) : Prop where
  started : ∀ m, k.started = some m → Timestamp.parse m.iso = .ok m
  restored : ∀ e ∈ k.partials, IsRestored e.2.toJson
  drawn : first ≤ k.drawn
  name : ∀ e ∈ k.partials, ∃ i, first ≤ i ∧ i < k.drawn ∧ e.1 = s.fileName i e.2
  short : ∀ e ∈ k.partials, ((partialsPath s.folder).child e.1).IsShort
  nodup : (k.partials.map (·.1)).Nodup

variable {first : Nat}

theorem start_eq (s : Site) (started : Option Timestamp) (k : Ledger) :
    (k.start s started).2.partials = k.partials ∧ (k.start s started).2.drawn = k.drawn ∧
      ((k.start s started).1 → (k.start s started).2.started ≠ none) := by
  cases hk : k.started with
  | some m =>
    rw [start_of_started hk]
    exact ⟨rfl, rfl, fun _ => by simp [hk]⟩
  | none =>
    by_cases hshort : (detailsPath s.folder).IsShort
    · cases started with
      | none =>
        rw [start_none hk]
        exact ⟨rfl, rfl, fun h => nomatch h⟩
      | some m =>
        rw [start_of_isShort hk hshort]
        exact ⟨rfl, rfl, fun _ => by simp⟩
    · rw [start_of_not_isShort hk hshort]
      exact ⟨rfl, rfl, fun h => nomatch h⟩

theorem drawn_save (s : Site) (p : Partial) (k : Ledger) : (k.save s p).2.drawn = k.drawn + 1 := by
  rw [save]
  split <;> rfl

theorem Sound.start {started : Option Timestamp} (h : k.Sound s first)
    (hstarted : ∀ m, started = some m → Timestamp.parse m.iso = .ok m) :
    (k.start s started).2.Sound s first := by
  obtain ⟨hpartials, hdrawn, _⟩ := start_eq s started k
  have hkept : ∀ m, (k.start s started).2.started = some m → Timestamp.parse m.iso = .ok m := by
    rw [Ledger.start.eq_def]
    split
    · exact h.started
    · exact h.started
    · split
      · intro m hm
        exact hstarted m hm
      · exact h.started
  exact ⟨hkept, by rw [hpartials]; exact h.restored, by rw [hdrawn]; exact h.drawn,
    by rw [hpartials, hdrawn]; exact h.name, by rw [hpartials]; exact h.short,
    by rw [hpartials]; exact h.nodup⟩

/-- A suffix that was not drawn yet makes a name that no file has. -/
theorem Sound.fresh (h : k.Sound s first)
    (hsuffix : ∀ i, first ≤ i → i < k.drawn → s.suffix i ≠ s.suffix k.drawn) (p : Partial) :
    s.fileName k.drawn p ∉ k.partials.map (·.1) := by
  intro hmem
  obtain ⟨e, he, hname⟩ := List.mem_map.1 hmem
  -- A file of this name would have the suffix of an earlier draw.
  obtain ⟨i, hfirst, hi, hfile⟩ := h.name e he
  exact hsuffix i hfirst hi (suffix_of_fileName (hfile.symm.trans hname))

theorem Sound.save (h : k.Sound s first)
    (hsuffix : ∀ i, first ≤ i → i < k.drawn → s.suffix i ≠ s.suffix k.drawn) {p : Partial}
    (hp : IsRestored p.toJson) : (k.save s p).2.Sound s first := by
  have hdrawn := h.drawn
  have hname : ∀ e ∈ k.partials, ∃ i, first ≤ i ∧ i < k.drawn + 1 ∧ e.1 = s.fileName i e.2 := by
    intro e he
    obtain ⟨i, hfirst, hi, hfile⟩ := h.name e he
    exact ⟨i, hfirst, by omega, hfile⟩
  rw [Ledger.save]
  -- A partial with a path that is too long only uses up its suffix.
  split
  · next hshort =>
    refine ⟨h.started, ?_, by simp only; omega, ?_, ?_, ?_⟩
    · exact List.forall_mem_append.2 ⟨h.restored, List.forall_mem_singleton.2 hp⟩
    · exact List.forall_mem_append.2 ⟨hname, List.forall_mem_singleton.2
        ⟨k.drawn, hdrawn, by simp, rfl⟩⟩
    · exact List.forall_mem_append.2 ⟨h.short, List.forall_mem_singleton.2 hshort⟩
    · rw [List.map_append, List.nodup_append]
      refine ⟨h.nodup, by simp, ?_⟩
      rintro n hn _ hn' rfl
      rw [List.map_singleton, List.mem_singleton] at hn'
      rw [hn'] at hn
      exact h.fresh hsuffix p hn
  · exact ⟨h.started, h.restored, by simp only; omega, hname, h.short, h.nodup⟩

theorem Sound.record {started : Option Timestamp} {p : Partial} (h : k.Sound s first)
    (hsuffix : ∀ i, first ≤ i → i < k.drawn → s.suffix i ≠ s.suffix k.drawn)
    (hstarted : ∀ m, started = some m → Timestamp.parse m.iso = .ok m)
    (hp : IsRestored p.toJson) : (k.record s started p).2.Sound s first := by
  have hstart := h.start hstarted
  obtain ⟨_, hdrawn, _⟩ := start_eq s started k
  rw [Ledger.record]
  split
  · next heq =>
    rw [heq] at hstart
    exact hstart
  · next heq =>
    rw [heq] at hstart hdrawn
    exact hstart.save (by rw [hdrawn]; exact hsuffix) hp

/-- An operation draws one suffix at most. -/
theorem drawn_perform (s : Site) (op : Operation) (k : Ledger) :
    k.drawn ≤ (k.perform s op).2.drawn ∧ (k.perform s op).2.drawn ≤ k.drawn + 1 := by
  have hstart (started : Option Timestamp) := (start_eq s started k).2.1
  have hrecord (started : Option Timestamp) (p : Partial) :
      k.drawn ≤ (k.record s started p).2.drawn ∧ (k.record s started p).2.drawn ≤ k.drawn + 1 := by
    have hdrawn := hstart started
    rw [record]
    split
    · next heq =>
      rw [heq] at hdrawn
      simp only at hdrawn ⊢
      omega
    · next heq =>
      rw [heq] at hdrawn
      rw [drawn_save]
      simp only at hdrawn
      omega
  rw [perform]
  split
  · cases op with
    | details now started =>
      have hdrawn := hstart (started.or (present? now))
      exact ⟨Nat.le_of_eq hdrawn.symm, Nat.le_succ_of_le (Nat.le_of_eq hdrawn)⟩
    | savePartial now p => exact hrecord _ _
    | saveEnv now millis env => exact hrecord _ _
    | remove => exact ⟨Nat.le_refl _, Nat.le_succ _⟩
  · exact ⟨Nat.le_refl _, Nat.le_succ _⟩

/-- An operation of which everything can be read back keeps a ledger sound. -/
theorem Sound.perform {op : Operation} (h : k.Sound s first)
    (hsuffix : ∀ i, first ≤ i → i < k.drawn → s.suffix i ≠ s.suffix k.drawn)
    (hstarted : ∀ m, op.start? = some m → Timestamp.parse m.iso = .ok m)
    (hpartial : ∀ p, op.partial? = some p → IsRestored p.toJson) :
    (k.perform s op).2.Sound s first := by
  rw [Ledger.perform]
  split
  · cases op with
    | details now started => exact h.start hstarted
    | savePartial now p => exact h.record hsuffix hstarted (hpartial p rfl)
    | saveEnv now millis env => exact h.record hsuffix hstarted (hpartial _ rfl)
    | remove =>
      exact ⟨fun _ hm => absurd hm.symm (Option.some_ne_none _), List.forall_mem_nil _, h.drawn,
        List.forall_mem_nil _, List.forall_mem_nil _, List.nodup_nil⟩
  · exact h

/-- With fewer partials a ledger stays sound. -/
theorem Sound.of_sublist {es : List (Text × Partial)} (h : k.Sound s first)
    (hes : es.Sublist k.partials) : Sound s first { k with partials := es } where
  started := h.started
  restored := fun e he => h.restored e (hes.subset he)
  drawn := h.drawn
  name := fun e he => h.name e (hes.subset he)
  short := fun e he => h.short e (hes.subset he)
  nodup := h.nodup.sublist (hes.map _)

/-! ### What is added -/

/-- What an operation that removes nothing adds to the partials. -/
def added (s : Site) (op : Operation) (k : Ledger) : List (Text × Partial) :=
  if (k.perform s op).1 then (op.partial?.map fun p => (s.fileName k.drawn p, p)).toList else []

/-- What a start comes to does not depend on the partials. -/
theorem start_with (s : Site) (started : Option Timestamp) (k : Ledger)
    (es : List (Text × Partial)) : start s started { k with partials := es } =
      ((k.start s started).1, { (k.start s started).2 with partials := es }) := by
  simp only [start]
  split
  · rfl
  · rfl
  · split
    · rfl
    · rfl

/-- Operations that remove nothing do the same beside other partials. -/
theorem perform_with {op : Operation} (hop : op ≠ .remove) (k : Ledger)
    (es : List (Text × Partial)) : perform s op { k with partials := es } =
      ((k.perform s op).1, { (k.perform s op).2 with partials := es ++ k.added s op }) := by
  have hsave (k : Ledger) (p : Partial) : save s p { k with partials := es } =
      ((k.save s p).1, { (k.save s p).2 with
        partials := es ++ if (k.save s p).1 then [(s.fileName k.drawn p, p)] else [] }) := by
    simp only [save]
    split
    · rfl
    · simp
  have hrecord (started : Option Timestamp) (p : Partial) :
      record s started p { k with partials := es } =
        ((k.record s started p).1, { (k.record s started p).2 with
          partials := es ++
            if (k.record s started p).1 then [(s.fileName k.drawn p, p)] else [] }) := by
    have hdrawn := (start_eq s started k).2.1
    rw [record, record, start_with]
    generalize k.start s started = answer at hdrawn ⊢
    obtain ⟨_ | _, k'⟩ := answer
    · simp
    · rw [← hdrawn]
      exact hsave k' p
  by_cases hwhole : s.build.IsWhole
  · rw [added, perform, perform, if_pos hwhole, if_pos hwhole]
    -- What is recorded is put behind the partials there are, and looks at none of them.
    cases op with
    | details now started =>
      rw [Operation.partial?, Option.map_none, Option.toList_none, ite_self, List.append_nil]
      exact start_with ..
    | savePartial now p => exact hrecord _ _
    | saveEnv now millis env => exact hrecord _ _
    | remove => exact absurd rfl hop
  · rw [added, perform, perform, if_neg hwhole, if_neg hwhole]
    simp

theorem partials_perform {op : Operation} (hop : op ≠ .remove) (k : Ledger) :
    (k.perform s op).2.partials = k.partials ++ k.added s op :=
  congrArg (·.2.partials) (perform_with hop k k.partials)

end Ledger

/-! ## Runs -/

namespace Site.Holds

variable {first : Nat} (h : s.Holds l d.tree k) (hdrawn : d.drawn = k.drawn)
  (hk : k.Sound s first)
  (hsuffix : ∀ i, first ≤ i → i < k.drawn → s.suffix i ≠ s.suffix k.drawn)

include h hdrawn hk hsuffix

/-- A partial is recorded on the disk as it is in the ledger. -/
theorem savePartial (now : WallClock) (millis : Int) (p : Partial) :
    let r := Build.savePartial ⟨s.here, now, millis, s.suffix⟩ s.folder p d
    let r' := k.record s (present? now) p
    r.1.isOk = r'.1 ∧ s.Holds l r.2.tree r'.2 ∧ r.2.drawn = r'.2.drawn := by
  intro r r'
  obtain ⟨hok, hd, hsame⟩ := h.ensureDetails hk.started now millis none
  obtain ⟨hpartials, hkdrawn, hstarted⟩ := Ledger.start_eq s (present? now) k
  rw [Option.none_or] at hok hd
  simp only [r, r', Build.savePartial, Ledger.record]
  -- Both sides record the start first and go on only when that succeeds.
  generalize Build.ensureDetails _ _ none d = answer at hok hd hsame ⊢
  generalize k.start s (present? now) = answer' at hok hd hpartials hkdrawn hstarted ⊢
  obtain ⟨e | m, d'⟩ := answer
  · obtain ⟨_ | _, k'⟩ := answer'
    · exact ⟨rfl, hd, hsame.trans (hdrawn.trans hkdrawn.symm)⟩
    · contradiction
  · obtain ⟨_ | _, k'⟩ := answer'
    · contradiction
    · have hd'drawn : d'.drawn = k'.drawn := hsame.trans (hdrawn.trans hkdrawn.symm)
      have hfresh : k'.file? (s.fileName k'.drawn p) = none := by
        refine Ledger.file?_eq_none_iff.2 ?_
        rw [hpartials, hkdrawn]
        exact hk.fresh hsuffix p
      obtain ⟨hwritten, hholds⟩ := hd.writeJson_partial (hstarted rfl) p hfresh
      rw [Site.file, ← hd'drawn] at hwritten hholds
      simp only
      generalize writeJson _ _ _ _ = answer at hwritten hholds ⊢
      have hcount : d'.drawn + 1 = (k'.save s p).2.drawn := by rw [Ledger.drawn_save, hd'drawn]
      obtain ⟨t', _ | e⟩ := answer
      · exact ⟨hwritten, hholds, hcount⟩
      · exact ⟨hwritten, hholds, hcount⟩

/-- An operation does on the disk what the ledger says. -/
theorem perform (op : Operation) :
    (s.perform op d).1 = (k.perform s op).1 ∧
      s.Holds l (s.perform op d).2.tree (k.perform s op).2 ∧
      (s.perform op d).2.drawn = (k.perform s op).2.drawn := by
  by_cases hwhole : s.build.IsWhole
  · rw [s.perform_of_isWhole hwhole, Ledger.perform, if_pos hwhole]
    cases op with
    | details now started =>
      obtain ⟨hok, hd, hsame⟩ := h.ensureDetails hk.started now 0 started
      obtain ⟨_, hkdrawn, _⟩ := Ledger.start_eq s (started.or (present? now)) k
      exact ⟨hok, hd, hsame.trans (hdrawn.trans hkdrawn.symm)⟩
    | savePartial now p => exact h.savePartial hdrawn hk hsuffix now 0 p
    | saveEnv now millis env => exact h.savePartial hdrawn hk hsuffix now millis _
    | remove =>
      obtain ⟨hok, hd, hsame⟩ := h.remove hwhole _ 0
      exact ⟨hok, hd, hsame.trans hdrawn⟩
  · rw [s.perform_of_not_isWhole hwhole, Ledger.perform, if_neg hwhole]
    exact ⟨rfl, h, hdrawn⟩

end Site.Holds

/-- A run does on the disk what the ledger says, as long as the suffixes that it draws
    are distinct and everything that it records can be read back. One suffix at most is drawn
    for an operation. -/
theorem Site.Holds.run_drawn {first bound : Nat} {ops : List Operation} (h : s.Holds l d.tree k)
    (hdrawn : d.drawn = k.drawn) (hk : k.Sound s first)
    (hbound : k.drawn + ops.length ≤ bound)
    (hsuffix : ∀ i j, first ≤ i → i < j → j < bound → s.suffix i ≠ s.suffix j)
    (hstarted : ∀ op ∈ ops, ∀ m, op.start? = some m → Timestamp.parse m.iso = .ok m)
    (hpartial : ∀ op ∈ ops, ∀ p, op.partial? = some p → IsRestored p.toJson) :
    ((s.run ops d).1 = (k.run s ops).1 ∧ s.Holds l (s.run ops d).2.tree (k.run s ops).2 ∧
      (k.run s ops).2.Sound s first) ∧ (s.run ops d).2.drawn = (k.run s ops).2.drawn ∧
      (k.run s ops).2.drawn ≤ k.drawn + ops.length := by
  induction ops generalizing d k with
  | nil => exact ⟨⟨rfl, h, hk⟩, hdrawn, Nat.le_refl _⟩
  | cons op ops ih =>
    -- One operation draws one suffix at most, so the bound is kept for the others.
    rw [List.length_cons] at hbound
    have hdistinct : ∀ i, first ≤ i → i < k.drawn → s.suffix i ≠ s.suffix k.drawn :=
      fun i hi hlt => hsuffix i k.drawn hi hlt (by omega)
    obtain ⟨hok, hd, hsame⟩ := h.perform hdrawn hk hdistinct op
    have hcount := Ledger.drawn_perform s op k
    have hsound := hk.perform hdistinct (hstarted op List.mem_cons_self)
      (hpartial op List.mem_cons_self)
    obtain ⟨⟨hoks, hds, hsounds⟩, hsames, hcounts⟩ := ih hd hsame hsound (by omega)
      (fun op h => hstarted op (List.mem_cons_of_mem _ h))
      (fun op h => hpartial op (List.mem_cons_of_mem _ h))
    refine ⟨⟨?_, hds, hsounds⟩, hsames, ?_⟩
    · rw [Site.run, Ledger.run]
      exact congrArg₂ List.cons hok hoks
    · rw [Ledger.run, List.length_cons]
      dsimp only
      omega

theorem Site.Holds.run {first bound : Nat} {ops : List Operation} (h : s.Holds l d.tree k)
    (hdrawn : d.drawn = k.drawn) (hk : k.Sound s first)
    (hbound : k.drawn + ops.length ≤ bound)
    (hsuffix : ∀ i j, first ≤ i → i < j → j < bound → s.suffix i ≠ s.suffix j)
    (hstarted : ∀ op ∈ ops, ∀ m, op.start? = some m → Timestamp.parse m.iso = .ok m)
    (hpartial : ∀ op ∈ ops, ∀ p, op.partial? = some p → IsRestored p.toJson) :
    (s.run ops d).1 = (k.run s ops).1 ∧ s.Holds l (s.run ops d).2.tree (k.run s ops).2 ∧
      (k.run s ops).2.Sound s first :=
  (h.run_drawn hdrawn hk hbound hsuffix hstarted hpartial).1

end Depot.Build
