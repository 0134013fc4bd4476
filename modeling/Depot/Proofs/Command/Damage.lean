import Depot.Proofs.Build.Damage
import Depot.Proofs.Command.Publish
import Depot.Proofs.Command.Telling

/-!
# Publishing what is damaged

A run of `build-publish` that cannot read the record of its build sends nothing and changes
no file (`run_of_read_error`). If what is wrong is told as damage, the run tells it and ends
with its own exit code; otherwise it crashes. `run_of_damage` tells by what is in the files
which of both it is.

A message about damage may quote what is in a file. If that has an opening bracket in it, it
may be taken for a tag, and then the run crashes although the damage was found.
-/

namespace Depot.Command.Publish

open CommandLine Files

variable {s : Surroundings} {words : List Text} {disk : Build.Disk} {config : Config}
  {r : Request} {st : State} {e : Build.Failure}

/-! ## Runs that stop -/

/-- What is wrong with a record is told as damage, or ends the run by a crash. -/
theorem run_readDocument_of_error
    (h : Build.read s.here st.disk.tree config.buildRoot r.build = .error e) :
    (readDocument s config r).run st =
      (if e.isDataFailure then error s e.message >>= fun _ => exit 2
        else crash (.build e) : Action Json).run st := by
  rw [readDocument, run_getDisk_bind, h]

/-- A run that cannot read the record of its build sends nothing and changes no file. If there
    is a server, or none is needed, it ends by what is wrong with the record. -/
theorem run_of_read_error (hjob : job? s words disk = some (config, r))
    (h : Build.read s.here disk.tree config.buildRoot r.build = .error e) :
    let o := run s words disk
    o.state.requests = [] ∧ o.state.disk = disk ∧ o.code ≠ 0 ∧
      (r.dryRun = true ∨ config.serverUrl.getD [] ≠ [] → o.state.out = [] ∧
        (e.isDataFailure = true → Refuses s e.message 2 o) ∧
        (e.isDataFailure = false → o.code = 1 ∧ o.crash = some (.build e))) := by
  intro o
  obtain ⟨hcode, hstate⟩ : o.code = _ ∧ o.state = _ :=
    finish_eq (unlessAsked s groupShape shapes (program s words)) disk
  have hcrash : o.crash = _ := crash_finish (unlessAsked s groupShape shapes (program s words)) disk
  obtain ⟨c, st, hconfig, hst, ho⟩ := exists_perform_of_job hjob
  obtain ⟨hdisk, hrest⟩ := Prod.mk.inj hst
  obtain ⟨hrequests, hout⟩ := Prod.mk.inj hrest
  have hdocument : document? s config r st.disk = none := by rw [hdisk, document?, h]
  have hrequest : request? s config r st.disk = none := by simp [request?, hdocument]
  have hkeeping := keeping_perform s hconfig r st
  refine ⟨?requests, ?files, ?code, fun hserver => ?ends⟩
  case requests =>
    rw [hstate, ho, hkeeping.requests, hrequests, hrequest]
    rfl
  case files =>
    rw [hstate, ho, hkeeping.disk.resolve_right fun hsome => hsome.1 hrequest, hdisk]
  case code =>
    rw [hcode, ho, perform_eq hconfig]
    split
    · exact fails_error s _
        (Fails.bind (neverExits_sayBeside s _) fun _ => fails_exit (by decide)) st
    · have hfails := readDocument_of_none hdocument
      rw [(run_bind_of_exitCode_ne_zero hfails _).1]
      exact hfails
  case ends =>
    have hurl : ¬((!r.dryRun && config.serverUrl.getD [] = []) = true) := by
      rw [Bool.and_eq_true, Bool.not_eq_true', decide_eq_true_eq, not_and, ← ne_eq]
      exact fun hdry => hserver.resolve_left (by simp [hdry])
    -- The run ends where the document is read.
    have hread := run_readDocument_of_error (hdisk.symm ▸ h)
    rw [perform_eq hconfig, if_neg hurl] at ho
    cases hdata : e.isDataFailure with
    | true =>
      rw [hdata, if_pos rfl] at hread
      obtain ⟨hrefuses, hresults⟩ := refuses_of_run (ho.trans (run_bind_of_exit hread _))
      obtain ⟨_, hrest⟩ := Prod.mk.inj (hresults.trans hst)
      exact ⟨(Prod.mk.inj hrest).2, fun _ => hrefuses,
        fun hfalse => absurd hfalse.symm Bool.false_ne_true⟩
    | false =>
      rw [hdata, if_neg Bool.false_ne_true] at hread
      rw [ho, run_bind_of_error hread] at hcode hstate hcrash
      exact ⟨hstate ▸ hout, fun htrue => absurd htrue Bool.false_ne_true, fun _ => ⟨hcode, hcrash⟩⟩

/-- A run of `build-publish` that has a server or needs none reads the record of its build,
    whatever bytes are in its files, or:

    * it sends nothing, prints no result and changes no file;
    * what is wrong is told as damage unless the bytes of the first file that is not read are
      beyond the reader, the system refuses the way to the files (`Build.IsUnreported`), or the
      name of the build has half of a surrogate pair in it and there can be no files; plain files
      never are beyond the reader;
    * what is told as damage is that nothing is recorded, or is about one of the files. The
      run ends with its own exit code, as soon as the message can be told, for which it is
      enough that there are no brackets in it;
    * anything else ends it by a crash. -/
theorem run_of_damage (hjob : job? s words disk = some (config, r))
    (hserver : r.dryRun = true ∨ config.serverUrl.getD [] ≠ []) :
    let o := run s words disk
    let folder := Build.folderOf config.buildRoot r.build
    (∃ record, Build.read s.here disk.tree config.buildRoot r.build = .ok record) ∨
      ∃ e, Build.read s.here disk.tree config.buildRoot r.build = .error e ∧
        (o.state.requests = [] ∧ o.state.disk = disk ∧ o.state.out = []) ∧
        (e.isDataFailure = true ↔
          r.build.IsWhole ∧ ¬Build.IsUnreported s.here disk.tree folder) ∧
        (r.build.IsWhole → Build.HasPlainFiles s.here disk.tree folder →
          e.isDataFailure = true) ∧
        (e.isDataFailure = true →
          (∃ paths, Build.partialPaths s.here disk.tree folder = .ok paths ∧
            (paths = [] ∧ e = .notFound r.build ∨ paths ≠ [] ∧
              ∃ path ∈ Build.detailsPath folder :: paths, e.file? = some path)) ∧
          Refuses s e.message 2 o ∧ (.char '[' ∉ e.message → o.code = 2 ∧ o.crash = none)) ∧
        (e.isDataFailure = false → o.code = 1 ∧ o.crash = some (.build e)) := by
  intro o folder
  cases h : Build.read s.here disk.tree config.buildRoot r.build with
  | ok record => exact .inl ⟨record, rfl⟩
  | error e =>
  obtain ⟨hrequests, hdisk, _, hends⟩ := run_of_read_error hjob h
  obtain ⟨hout, htells, hcrash⟩ := hends hserver
  have hescapes : e.isDataFailure = false ↔
      ¬r.build.IsWhole ∨ Build.IsUnreported s.here disk.tree folder := by
    rw [← Build.escapes_read_iff, h, Build.escapes_error_iff]
  refine .inr ⟨e, rfl, ⟨hrequests, hdisk, hout⟩, ?_, fun hwhole hplain => ?_, fun hdata =>
    ⟨Build.file?_of_read h hdata, htells hdata, (htells hdata).code_eq⟩, hcrash⟩
  · rw [← Bool.not_eq_false, hescapes, not_or, not_not]
  · rw [← Bool.not_eq_false, hescapes, ← Build.escapes_read_iff]
    exact hplain.not_escapes hwhole

/-- A partial with an opening brace and no more is damaged. -/
theorem run_of_damage_brace :
    let s : Surroundings := {
      here := []
      environment := [("HOME", "/h")]
      now := (⟨⟨2024, 1, 2⟩, 3, 4, 5, 0, none⟩ : Time.Timestamp)
      millis := 0
      suffix := Text.ofNat
      reply := .answer 204 [] }
    let disk : Build.Disk := ⟨⟨[
      (["h"], .folder), (["h", ".cache"], .folder), (["h", ".cache", "artq"], .folder),
      (["h", ".cache", "artq", "builds"], .folder),
      (["h", ".cache", "artq", "builds", "app_1"], .folder),
      (["h", ".cache", "artq", "builds", "app_1", "partials"], .folder),
      (["h", ".cache", "artq", "builds", "app_1", "partials", "1.json"],
        .file (Utf8.encode "\x7b"))]⟩, 0⟩
    let words : List Text := ["-q", "build-publish", "app", "1", "--dry-run"]
    let o := run s words disk
    let path := Path.parse "/h/.cache/artq/builds/app_1/partials/1.json"
    ∃ config r, job? s words disk = some (config, r) ∧ r.dryRun = true ∧
      Build.read s.here disk.tree config.buildRoot r.build =
        .error (.notJson path .key ⟨1, 1, 2⟩) ∧
      ¬Build.IsUnreported s.here disk.tree (Build.folderOf config.buildRoot r.build) ∧
      o.code = 2 ∧ o.crash = none ∧ o.state.disk = disk := by
  intro s disk words o path
  have hjob : ((job? s words disk).map fun j =>
      (j.2.dryRun, Build.read s.here disk.tree j.1.buildRoot j.2.build)) =
        some (true, .error (.notJson path .key ⟨1, 1, 2⟩)) := by
    decide +kernel
  have hopen : .char '[' ∉ (Build.Failure.notJson path .key ⟨1, 1, 2⟩).message := by
    decide +kernel
  -- From here on nothing is evaluated.
  clear_value s disk words path
  obtain ⟨⟨config, r⟩, hjob, hr⟩ := Option.map_eq_some_iff.1 hjob
  obtain ⟨hdry, hread⟩ := Prod.mk.inj hr
  rcases run_of_damage hjob (.inl hdry) with ⟨record, hrecord⟩ |
    ⟨e, he, ⟨_, hdisk, _⟩, hreported, _, htold, _⟩
  · rw [hread] at hrecord
    contradiction
  obtain rfl := Except.error.inj (hread.symm.trans he)
  obtain ⟨_, _, hcode⟩ := htold rfl
  exact ⟨config, r, hjob, hdry, hread, (hreported.1 rfl).2, (hcode hopen).1, (hcode hopen).2, hdisk⟩

/-- A partial may be a byte that is no text. Then the run crashes. -/
theorem run_crashes_of_no_text :
    let s : Surroundings := {
      here := []
      environment := [("HOME", "/h")]
      now := (⟨⟨2024, 1, 2⟩, 3, 4, 5, 0, none⟩ : Time.Timestamp)
      millis := 0
      suffix := Text.ofNat
      reply := .answer 204 [] }
    let disk : Build.Disk := ⟨⟨[
      (["h"], .folder), (["h", ".cache"], .folder), (["h", ".cache", "artq"], .folder),
      (["h", ".cache", "artq", "builds"], .folder),
      (["h", ".cache", "artq", "builds", "app_1"], .folder),
      (["h", ".cache", "artq", "builds", "app_1", "partials"], .folder),
      (["h", ".cache", "artq", "builds", "app_1", "partials", "1.json"], .file [0xff])]⟩, 0⟩
    let words : List Text := ["-q", "build-publish", "app", "1", "--dry-run"]
    let o := run s words disk
    let fault : CodecError := .decode ⟨"utf-8", 0, [0xff], "invalid start byte"⟩
    ∃ config r, job? s words disk = some (config, r) ∧ r.dryRun = true ∧
      Build.read s.here disk.tree config.buildRoot r.build = .error (.notText fault) ∧
      (Build.Failure.notText fault).isDataFailure = false ∧
      o.code = 1 ∧ o.crash = some (.build (.notText fault)) := by
  intro s disk words o fault
  have hjob : ((job? s words disk).map fun j =>
      (j.2.dryRun, Build.read s.here disk.tree j.1.buildRoot j.2.build)) =
        some (true, .error (.notText fault)) := by
    decide +kernel
  -- From here on nothing is evaluated.
  clear_value s disk words fault
  obtain ⟨⟨config, r⟩, hjob, hr⟩ := Option.map_eq_some_iff.1 hjob
  obtain ⟨hdry, hread⟩ := Prod.mk.inj hr
  obtain ⟨_, _, _, hends⟩ := run_of_read_error hjob hread
  obtain ⟨hcode, hcrash⟩ := (hends (.inl hdry)).2.2 rfl
  exact ⟨config, r, hjob, hdry, hread, rfl, hcode, hcrash⟩

end Depot.Command.Publish
