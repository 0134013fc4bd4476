import Depot.Build.Store
import Depot.Proofs.Files.Tree
import Depot.Proofs.Json.RoundTrip
import Depot.Proofs.Text.Percent

/-!
# What operations record

A `Site` is a place where one build is recorded, and an `Operation` is one of the
four things that are done there. What they amount to is told by a `Ledger`: the
recorded start, and the partials with the names of their files. `Ledger.perform`
works on the ledger alone, and `Site.perform` on the disk. Nothing is ever done for a
build that is not whole (`IsWhole`): half of a surrogate pair in its name or number has
no bytes, and the build has no folder.

`Site.Holds` is the relation between a disk and the ledger of what is on it.
Every operation keeps it and succeeds on both sides or on none
(`Holds.perform`), and so does every run (`Holds.run`).
-/

namespace Depot.Build

open Files Time

/-! ## Whole builds -/

section

variable {b : Build} {root : Path} {here : Location} {t : Tree}

/-- There is no half of a surrogate pair in the name and the number of a build. -/
def IsWhole (b : Build) : Prop := b.name.IsWhole ∧ b.number.IsWhole

instance : DecidablePred IsWhole := fun _ => inferInstanceAs (Decidable (_ ∧ _))

theorem isWhole_iff : b.IsWhole ↔ (b.name ++ "_" ++ b.number).IsWhole := by
  rw [Text.isWhole_append, Text.isWhole_append, and_iff_left (Text.isWhole_ofString "_"), IsWhole]

theorem folder?_of_isWhole (h : b.IsWhole) : folder? root b = .ok (folderOf root b) := by
  rw [folder?, Text.Percent.encode?_of_isWhole (isWhole_iff.1 h)]
  rfl

/-- A build that is not whole has no folder, and the failure names the halves. -/
theorem exists_folder?_eq_error (root : Path) (h : ¬b.IsWhole) :
    ∃ e, Utf8.encode? (b.name ++ "_" ++ b.number) = .error e ∧
      folder? root b = .error (.notText (.encode e)) := by
  obtain ⟨e, he⟩ := Utf8.exists_encode?_eq_error (mt isWhole_iff.2 h)
  refine ⟨e, he, ?_⟩
  rw [folder?, Text.Percent.encode?_of_error he]

theorem folder?_eq_ok_iff {folder : Path} :
    folder? root b = .ok folder ↔ b.IsWhole ∧ folder = folderOf root b := by
  by_cases hwhole : b.IsWhole
  · rw [folder?_of_isWhole hwhole, Except.ok.injEq, and_iff_right hwhole, eq_comm]
  · obtain ⟨e, _, he⟩ := exists_folder?_eq_error root hwhole
    exact ⟨fun h => (nomatch he.symm.trans h), fun h => absurd h.1 hwhole⟩

theorem read_of_isWhole (h : b.IsWhole) :
    read here t root b = readFolder here t b (folderOf root b) := by
  rw [read, folder?_of_isWhole h]
  rfl

/-- Nothing is read of a build that is not whole. -/
theorem exists_read_eq_error (root : Path) (h : ¬b.IsWhole) :
    ∃ e, Utf8.encode? (b.name ++ "_" ++ b.number) = .error e ∧
      ∀ here t, read here t root b = .error (.notText (.encode e)) := by
  obtain ⟨e, he, hfolder⟩ := exists_folder?_eq_error root h
  refine ⟨e, he, fun here t => ?_⟩
  rw [read, hfolder]
  rfl

theorem isWhole_of_read {record : Record} (h : read here t root b = .ok record) : b.IsWhole := by
  refine Classical.byContradiction fun hwhole => ?_
  obtain ⟨e, _, he⟩ := exists_read_eq_error root hwhole
  cases h.symm.trans (he here t)

end

/-! ## Sites and operations -/

/-- Where a build is recorded, and the suffixes that are drawn for file names. -/
structure Site where
  /-- The folder from which relative paths start. -/
  here : Location
  /-- The folder of all builds. -/
  root : Path
  /-- The build. -/
  build : Build
  /-- The file name suffixes that are drawn one after the other. -/
  suffix : Nat → Text

/-- What is done with the record of a build, and when. -/
inductive Operation where
  | details (now : WallClock) (started : Option Timestamp)
  | savePartial (now : WallClock) (p : Partial)
  | saveEnv (now : WallClock) (millis : Int) (env : List (Text × Text))
  | remove

namespace Site

variable (s : Site)

/-- The folder of the build. -/
def folder : Path := folderOf s.root s.build

/-- The name of the file of a partial with the suffix that was drawn for it. -/
def fileName (drawn : Nat) (p : Partial) : Text :=
  Text.ofInt p.timestamp ++ "-" ++ s.suffix drawn ++ ".json"

/-- The path of the file of a partial. -/
def file (drawn : Nat) (p : Partial) : Path :=
  partialPath s.folder p.timestamp (s.suffix drawn)

theorem parent_file (drawn : Nat) (p : Partial) :
    (s.file drawn p).parent = partialsPath s.folder := Path.parent_child ..

/-- An operation in the folder of the build: whether it succeeds, and the disk afterwards. -/
def performIn (folder : Path) : Operation → Disk → Bool × Disk
  | .details now started, d =>
    let (r, d) := ensureDetails ⟨s.here, now, 0, s.suffix⟩ folder started d
    (r.isOk, d)
  | .savePartial now p, d =>
    let (r, d) := savePartial ⟨s.here, now, 0, s.suffix⟩ folder p d
    (r.isOk, d)
  | .saveEnv now millis env, d =>
    let (r, d) := saveEnv ⟨s.here, now, millis, s.suffix⟩ folder env d
    (r.isOk, d)
  | .remove, d =>
    let now : Timestamp := ⟨⟨1, 1, 1⟩, 0, 0, 0, 0, none⟩
    let (r, d) := remove ⟨s.here, now, 0, s.suffix⟩ s.root s.build d
    (r.isOk, d)

/-- An operation on the disk, which needs a folder for the build. -/
def perform (op : Operation) (d : Disk) : Bool × Disk :=
  match folder? s.root s.build with
  | .error _ => (false, d)
  | .ok folder => s.performIn folder op d

theorem perform_of_isWhole (h : s.build.IsWhole) (op : Operation) (d : Disk) :
    s.perform op d = s.performIn s.folder op d := by
  rw [perform, folder?_of_isWhole h, folder]

theorem perform_of_not_isWhole (h : ¬s.build.IsWhole) (op : Operation) (d : Disk) :
    s.perform op d = (false, d) := by
  obtain ⟨e, _, he⟩ := exists_folder?_eq_error s.root h
  rw [perform, he]

/-- Operations one after the other. -/
def run : List Operation → Disk → List Bool × Disk
  | [], d => ([], d)
  | op :: ops, d =>
    let (ok, d) := s.perform op d
    let (oks, d) := run ops d
    (ok :: oks, d)

end Site

/-! ## Ledgers -/

/-- What is recorded for a build. -/
structure Ledger where
  /-- The start of the build. -/
  started : Option Timestamp
  /-- The partials in the order of recording, with the names of their files. -/
  partials : List (Text × Partial)
  /-- How many file name suffixes were drawn. -/
  drawn : Nat

/-- The present moment as a start, if it can be told in local time. -/
def present? (now : WallClock) : Option Timestamp := now.present.toOption

/-- The start that an operation records, unless one is recorded already. -/
def Operation.start? : Operation → Option Timestamp
  | .details now started => started.or (present? now)
  | .savePartial now _ | .saveEnv now _ _ => present? now
  | .remove => none

/-- The partial that an operation records. -/
def Operation.partial? : Operation → Option Partial
  | .savePartial _ p => some p
  | .saveEnv _ millis env =>
    some ⟨millis, none, none, some ((Json.ofMembers env).map fun v =>
      (Text.ofString "buildInfo.env." ++ v.1, .text v.2))⟩
  | .details .. | .remove => none

namespace Ledger

variable (s : Site)

/-- Records the start of the build, unless one is recorded. The file needs a path
    that the system takes. -/
def start (started : Option Timestamp) (k : Ledger) : Bool × Ledger :=
  match k.started, started with
  | some _, _ => (true, k)
  | none, none => (false, k)
  | none, some started =>
    if (detailsPath s.folder).IsShort then (true, { k with started := some started })
    else (false, k)

section

variable {s} {k : Ledger} {m : Timestamp}

theorem start_of_started (hm : k.started = some m) (started : Option Timestamp) :
    k.start s started = (true, k) := by
  rw [start.eq_def, hm]

theorem start_none (hnone : k.started = none) : k.start s none = (false, k) := by
  rw [start.eq_def, hnone]

theorem start_of_isShort (hnone : k.started = none) (hshort : (detailsPath s.folder).IsShort)
    (m : Timestamp) : k.start s (some m) = (true, { k with started := some m }) := by
  rw [start.eq_def, hnone]
  exact if_pos hshort

theorem start_of_not_isShort (hnone : k.started = none)
    (hlong : ¬(detailsPath s.folder).IsShort) (started : Option Timestamp) :
    k.start s started = (false, k) := by
  cases started with
  | none => exact start_none hnone
  | some m =>
    rw [start.eq_def, hnone]
    exact if_neg hlong

end

/-- Records a partial under the next suffix. The file needs a path that the system
    takes. -/
def save (p : Partial) (k : Ledger) : Bool × Ledger :=
  if (s.file k.drawn p).IsShort then
    (true, { k with partials := k.partials ++ [(s.fileName k.drawn p, p)], drawn := k.drawn + 1 })
  else (false, { k with drawn := k.drawn + 1 })

/-- Records a start and, when that succeeds, a partial. -/
def record (started : Option Timestamp) (p : Partial) (k : Ledger) : Bool × Ledger :=
  match k.start s started with
  | (false, k) => (false, k)
  | (true, k) => k.save s p

/-- What an operation does to the ledger of a build that is whole. -/
def performWhole (op : Operation) (k : Ledger) : Bool × Ledger :=
  match op, op.partial? with
  | .remove, _ => (s.folder.IsShort, { k with started := none, partials := [] })
  | _, none => k.start s op.start?
  | _, some p => k.record s op.start? p

/-- An operation on the ledger: whether it succeeds, and the ledger afterwards. -/
def perform (op : Operation) (k : Ledger) : Bool × Ledger :=
  if s.build.IsWhole then k.performWhole s op else (false, k)

/-- Operations one after the other. -/
def run : List Operation → Ledger → List Bool × Ledger
  | [], k => ([], k)
  | op :: ops, k =>
    let (ok, k) := k.perform s op
    let (oks, k) := run ops k
    (ok :: oks, k)

/-- Nothing is recorded for a build that is not whole. -/
theorem run_of_not_isWhole (h : ¬s.build.IsWhole) (ops : List Operation) (k : Ledger) :
    k.run s ops = (ops.map fun _ => false, k) := by
  induction ops with
  | nil => rfl
  | cons op ops ih => simp only [run, perform, if_neg h, ih, List.map_cons]

end Ledger

/-! ## Texts and names -/

variable {s : Site} {l : Location} {t : Tree} {k : Ledger} {n : Text}

/-- A timestamp is written in ASCII. -/
theorem isKept_iso (m : Timestamp) : Json.IsKept m.iso := by
  -- The parts between the marks are numbers of two digits or more.
  have two (n : Nat) : Json.IsKept (Text.ofNatPadded 2 n) := Json.isKept_ofNatPadded 2 n
  have hfraction (n : Nat) :
      Json.IsKept (if n = 0 then [] else Text.ofString "." ++ Text.ofNatPadded 6 n) := by
    split
    · decide
    · exact Json.isKept_append.2 ⟨by decide, Json.isKept_ofNatPadded 6 n⟩
  have hoffset (o : Int) : Json.IsKept (Timestamp.showOffset ":" o) := by
    refine Json.isKept_cons.2 ⟨by split <;> decide, ?_⟩
    rw [Json.isKept_append, Json.isKept_append, Json.isKept_append]
    refine ⟨⟨⟨two _, by decide⟩, two _⟩, ?_⟩
    split
    · decide
    · exact Json.isKept_append.2 ⟨Json.isKept_append.2 ⟨by decide, two _⟩, hfraction _⟩
  have hafter : Json.IsKept m.showAfterYear := by
    simp only [Timestamp.showAfterYear, Json.isKept_append]
    exact ⟨⟨⟨⟨⟨⟨⟨⟨⟨by decide, two _⟩, by decide⟩, two _⟩, by decide⟩, two _⟩, by decide⟩, two _⟩,
      by decide⟩, two _⟩
  rw [Timestamp.iso, Json.isKept_append, Json.isKept_append, Json.isKept_append]
  refine ⟨⟨⟨Json.isKept_ofNatPadded 4 _, hafter⟩, hfraction _⟩, ?_⟩
  cases m.offset with
  | none => exact List.forall_mem_nil _
  | some o => exact hoffset o

/-- The name of a file tells the suffix in it. -/
theorem suffix_of_fileName {i j : Nat} {p q : Partial} (h : s.fileName i p = s.fileName j q) :
    s.suffix i = s.suffix j := by
  have hminus (n : Nat) : CodePoint.char '-' ∉ Text.ofNat n := Text.not_mem_ofNat (by decide)
  have hhead (n : Nat) (t u : Text) : Text.ofNat n ++ t ≠ .char '-' :: u := by
    obtain ⟨c, t', hn, _⟩ := Text.exists_ofNat_eq_cons n
    intro heq
    rw [hn, List.cons_append, List.cons.injEq] at heq
    exact hminus n (by rw [hn, heq.1]; exact List.mem_cons_self)
  have happend := List.append_cancel_right h
  rw [List.append_assoc, List.append_assoc] at happend
  -- Behind the sign, the timestamp ends at the first minus.
  cases hp : p.timestamp with
  | ofNat a =>
    cases hq : q.timestamp with
    | ofNat b =>
      rw [hp, hq] at happend
      exact (Text.append_cons_inj (hminus a) (hminus b) happend).2
    | negSucc b =>
      rw [hp, hq] at happend
      exact absurd happend (hhead a _ _)
  | negSucc a =>
    cases hq : q.timestamp with
    | ofNat b =>
      rw [hp, hq] at happend
      exact absurd happend.symm (hhead b _ _)
    | negSucc b =>
      rw [hp, hq] at happend
      exact (Text.append_cons_inj (hminus (a + 1)) (hminus (b + 1)) (List.cons.inj happend).2).2

theorem fileName_ne_up (drawn : Nat) (p : Partial) : s.fileName drawn p ≠ Path.up := by
  intro h
  have hmem : CodePoint.char '-' ∈ s.fileName drawn p := by
    simp [Site.fileName, Text.ofString, Text.ofChars]
  rw [h] at hmem
  revert hmem
  decide

/-- The name of the folder of a build. -/
def folderName (b : Build) : Text := Text.Percent.encode (b.name ++ "_" ++ b.number)

theorem underscore_mem_folderName (b : Build) : .char '_' ∈ folderName b := by
  rw [folderName, Text.Percent.encode_append, Text.Percent.encode_append]
  exact List.mem_append_left _ (List.mem_append_right _ (by decide))

theorem folderName_ne_up (b : Build) : folderName b ≠ Path.up := by
  intro h
  have hmem := underscore_mem_folderName b
  rw [h] at hmem
  exact absurd hmem (by decide)

/-- No NUL is in the name of a folder, whatever is in the name of the build. -/
theorem not_nul_mem_folderName (b : Build) : .char '\x00' ∉ folderName b := fun h =>
  absurd (Text.Percent.isWritten_of_mem_encode h) (by decide)

/-! ## Disks and ledgers -/

/-- The bytes of a data file with a value. -/
def written (v : Json) : Bytes := Utf8.encode (v.render .indented)

/-- The name of the file with the details. -/
def detailsName : Text := "details.json"

/-- The name of the folder with the partials. -/
def partialsName : Text := "partials"

/-- The details with a start. -/
def detailsOf (m : Timestamp) : Json := .object [(startedKey, .text m.iso)]

/-- The partial in a file of the ledger. -/
def Ledger.file? (k : Ledger) (n : Text) : Option Partial :=
  (k.partials.find? fun e => e.1 = n).map (·.2)

theorem Ledger.file?_eq_none_iff : k.file? n = none ↔ n ∉ k.partials.map (·.1) := by
  rw [file?, Option.map_eq_none_iff, List.find?_eq_none, List.mem_map, not_exists]
  refine forall_congr' fun e => ?_
  rw [not_and, decide_eq_true_eq]

namespace Site

/-- The location of the folder of the build in the folder at a location. -/
def place (s : Site) (l : Location) : Location :=
  l ++ [folderName s.build]

/-- The tree holds what is in the ledger: the folder of all builds is at `l`, and
    below the place of the build is nothing but what is recorded. -/
structure Holds (s : Site) (l : Location) (t : Tree) (k : Ledger) : Prop where
  unique : t.Unique
  root : t.LeadsTo s.here s.root l (s.place l)
  rootFolder : t.lookup l = some .folder
  absent : k.started = none → k.partials = [] ∧ ∀ l', s.place l <+: l' → t.lookup l' = none
  folder : k.started ≠ none → t.lookup (s.place l) = some .folder
  short : k.started ≠ none → (detailsPath s.folder).IsShort
  details : ∀ m, k.started = some m →
    t.lookup (s.place l ++ [detailsName]) = some (.file (written (detailsOf m)))
  partials : t.lookup (s.place l ++ [partialsName]) = some .folder ∨
    t.lookup (s.place l ++ [partialsName]) = none ∧ k.partials = []
  file : ∀ n, t.lookup (s.place l ++ [partialsName, n]) =
    (k.file? n).map fun p => .file (written p.toJson)

theorem place_ne_nil (s : Site) (l : Location) : s.place l ≠ [] := by simp [place]

theorem not_place_prefix (s : Site) (l : Location) : ¬s.place l <+: l := by
  intro h
  have hlength := h.length_le
  rw [place, List.length_append, List.length_singleton] at hlength
  omega

namespace Holds

/-- A change at the place of the build or below it leaves the rest as it is. -/
theorem rootFolder_of_agrees {t' : Tree} (h : s.Holds l t k)
    (h' : Tree.AgreesOff (s.place l) t t') : t'.lookup l = some .folder :=
  (h' l (s.not_place_prefix l)).trans h.rootFolder

/-- How many suffixes were drawn does not show on the disk. -/
theorem drawn (h : s.Holds l t k) (drawn : Nat) : s.Holds l t { k with drawn := drawn } :=
  { h with }

/-- The details of a start can be written where nothing is recorded. -/
theorem putDetails (h : s.Holds l t k) (hnone : k.started = none)
    (hshort : (detailsPath s.folder).IsShort) (m : Timestamp) :
    s.Holds l ((t.put (s.place l) .folder).put (s.place l ++ [detailsName])
      (.file (written (detailsOf m)))) { k with started := some m } := by
  obtain ⟨hpartials, habsent⟩ := h.absent hnone
  -- The folder is new, and so nothing else changes and no partial is in it.
  have hagrees := (Tree.AgreesOff.put (List.prefix_refl (s.place l)) t .folder).trans
    (Tree.AgreesOff.put (List.prefix_append (s.place l) [detailsName]) _
      (.file (written (detailsOf m))))
  have hname : partialsName ≠ detailsName := by decide
  exact {
    unique := (h.unique.put _ _).put _ _
    root := h.root.agrees hagrees
    rootFolder := h.rootFolder_of_agrees hagrees
    absent := fun hstarted => nomatch hstarted
    folder := fun _ => by
      rw [Tree.lookup_put_of_ne (by simp), Tree.lookup_put_self (s.place_ne_nil l)]
    short := fun _ => hshort
    details := fun m' hm => by
      cases hm
      exact Tree.lookup_put_self (by simp) _
    partials := .inr ⟨by
      rw [Tree.lookup_put_of_ne (by simp [hname]), Tree.lookup_put_of_ne (by simp)]
      exact habsent _ (List.prefix_append _ _), hpartials⟩
    file := fun n => by
      rw [Tree.lookup_put_of_ne (by simp), Tree.lookup_put_of_ne (by simp),
        habsent _ (List.prefix_append _ _), Ledger.file?, hpartials]
      rfl }

/-- The folder of the partials can be made. -/
theorem putPartials (h : s.Holds l t k) (hstarted : k.started ≠ none) :
    s.Holds l (t.put (s.place l ++ [partialsName]) .folder) k := by
  have hagrees := Tree.AgreesOff.put (List.prefix_append (s.place l) [partialsName]) t .folder
  have hname : detailsName ≠ partialsName := by decide
  exact {
    unique := h.unique.put _ _
    root := h.root.agrees hagrees
    rootFolder := h.rootFolder_of_agrees hagrees
    absent := fun hnone => absurd hnone hstarted
    folder := fun hk => (Tree.lookup_put_of_ne (by simp) _).trans (h.folder hk)
    short := h.short
    details := fun m hm => (Tree.lookup_put_of_ne (by simp [hname]) _).trans (h.details m hm)
    partials := .inl (Tree.lookup_put_self (by simp) _)
    file := fun n => (Tree.lookup_put_of_ne (by simp) _).trans (h.file n) }

/-- The file of a partial can be written under a name that no other has. -/
theorem putFile (h : s.Holds l t k) (hstarted : k.started ≠ none)
    (hfolder : t.lookup (s.place l ++ [partialsName]) = some .folder) (hfresh : k.file? n = none)
    (p : Partial) (drawn : Nat) :
    s.Holds l (t.put (s.place l ++ [partialsName, n]) (.file (written p.toJson)))
      { k with partials := k.partials ++ [(n, p)], drawn := drawn } := by
  have hagrees := Tree.AgreesOff.put (List.prefix_append (s.place l) [partialsName, n]) t
    (.file (written p.toJson))
  exact {
    unique := h.unique.put _ _
    root := h.root.agrees hagrees
    rootFolder := h.rootFolder_of_agrees hagrees
    absent := fun hnone => absurd hnone hstarted
    folder := fun hk => (Tree.lookup_put_of_ne (by simp) _).trans (h.folder hk)
    short := h.short
    details := fun m hm => (Tree.lookup_put_of_ne (by simp) _).trans (h.details m hm)
    partials := .inl ((Tree.lookup_put_of_ne (by simp) _).trans hfolder)
    file := fun n' => by
      rw [Ledger.file?, Option.map_eq_none_iff] at hfresh
      -- The new file is the last of the account, and no other has its name.
      by_cases hn : n' = n
      · rw [hn, Tree.lookup_put_self (by simp), Ledger.file?, List.find?_append, hfresh]
        simp
      · rw [Tree.lookup_put_of_ne (by simp [hn]), h.file, Ledger.file?, Ledger.file?,
          List.find?_append]
        simp [Ne.symm hn] }

/-- Without the folder of the build nothing is recorded. -/
theorem prune (h : s.Holds l t k) :
    s.Holds l (t.prune (s.place l)) { k with started := none, partials := [] } := by
  have hagrees := Tree.AgreesOff.prune t (s.place l)
  have habsent : ∀ l', s.place l <+: l' → (t.prune (s.place l)).lookup l' = none := fun l' hl =>
    Tree.lookup_prune_of_prefix (fun hnil => s.place_ne_nil l (List.prefix_nil.1 (hnil ▸ hl))) hl
  exact {
    unique := h.unique.prune _
    root := h.root.agrees hagrees
    rootFolder := h.rootFolder_of_agrees hagrees
    absent := fun _ => ⟨rfl, habsent⟩
    folder := fun hk => absurd rfl hk
    short := fun hk => absurd rfl hk
    details := fun m hm => nomatch hm
    partials := .inr ⟨habsent _ (List.prefix_append _ _), rfl⟩
    file := fun n => habsent _ (List.prefix_append _ _) }

end Holds

end Site

end Depot.Build
