import Depot.Proofs.Build.Removal
import Depot.Proofs.Command.Damage

/-!
# When publishing completes

Between the answer of the server and the removal of the record, a run of
`build-publish` tells what it has done. The message (`takenText`) has the address of the
server, and the name and the number of the build in it, and what looks like a tag
there is taken for one. A message that cannot be told ends the run there: the server
has the build, and the record stays for the next run to publish again.

* `told?_success`: without brackets in it the message can be told;
* `run_of_requests`: a run whose request is accepted has the message and the removal left;
* `run_completes_iff`: it is a success exactly when the message can be told, and then
  nothing is found of the build any more.
-/

namespace Depot.Command.Publish

open CommandLine Files

variable {s : Surroundings} {words : List Text} {disk : Build.Disk} {config : Config}
  {r : Request} {c : Context} {st : State} {document : Json} {body : Text}

/-- What is told of a build that the server has taken. -/
def takenText (config : Config) (b : Build) : Text :=
  "Build info successfully deployed. Browse it under " ++ (serverOf config).browseUrl b

/-- A message without brackets can be told, unless its end or a half of a surrogate pair
    prevents it. -/
theorem told?_success (s : Surroundings) {message : Text} (hopen : .char '[' ∉ message)
    (hend : Text.endsWith '\\' message = false) (hwhole : message.IsWhole) :
    told? s (styled "success" message) =
      some (Console.printed s.columns (Console.expandTabs (Console.shownText message))) := by
  have hname : Console.IsName "success" := Console.isName_of_mem (by simp)
  have hplain := Console.plain_styled_append s.columns hname hopen hend (u := []) rfl
  rw [List.append_nil, Console.shownText_nil, List.append_nil] at hplain
  exact told?_eq_some_iff.2 ⟨hplain,
    Console.isWhole_printed _ (Console.isWhole_expandTabs (Console.isWhole_shownText hwhole))⟩

/-! ## A run whose request is accepted -/

theorem run_send_of_accepted (h : s.reply = .answer Build.successStatus body)
    (server : Build.Server) (document : Json) (st : State) :
    (send s server document).run st =
      (.ok (), { st with requests := st.requests ++ [.publish server document] }) := by
  have houtcome : s.reply.outcome server = .ok () := Build.Reply.outcome_eq_ok_iff.2 ⟨body, h⟩
  rw [send, run_modify_bind, houtcome]
  rfl

/-- A run that has a request to send sends it. -/
theorem requests_ne_nil (hjob : job? s words disk = some (config, r))
    (hrequest : (request? s config r disk).isSome) :
    (run s words disk).state.requests ≠ [] := by
  obtain ⟨request, hrequest⟩ := Option.isSome_iff_exists.1 hrequest
  rw [run, (finish_eq _ _).2, (keeping_run hjob).requests, hrequest]
  exact List.cons_ne_nil _ _

/-- A run that sends its request has a record to publish and a server for it. What it has
    left to do after an answer of success is to tell so and to remove the record. -/
theorem run_of_requests (hjob : job? s words disk = some (config, r))
    (hsent : (run s words disk).state.requests ≠ [])
    (hreply : s.reply = .answer Build.successStatus body) :
    (∃ record, Build.read s.here disk.tree config.buildRoot r.build = .ok record) ∧
      ∃ st, st.disk = disk ∧ (unlessAsked s groupShape shapes (program s words)).run
          { disk := disk } =
        (success s (takenText config r.build) >>= fun _ =>
          removeRecord s config r.build).run st := by
  -- A request was sent, so there was one to send: it tells of the record and the server.
  have hrequest : request? s config r disk ≠ none := by
    rw [run, (finish_eq _ _).2, (keeping_run hjob).requests] at hsent
    intro hnone
    exact hsent (by simp [hnone])
  rw [request?] at hrequest
  obtain ⟨hurl, hdocument⟩ : ¬(r.dryRun || config.serverUrl.getD [] = []) ∧
      document? s config r disk ≠ none := by
    split at hrequest
    · contradiction
    · next hurl => exact ⟨hurl, by simpa using hrequest⟩
  obtain ⟨document, hdocument⟩ := Option.ne_none_iff_exists'.1 hdocument
  refine ⟨?_, ?_⟩
  · rw [document?] at hdocument
    cases hread : Build.read s.here disk.tree config.buildRoot r.build with
    | error e => simp [hread] at hdocument
    | ok record => exact ⟨record, rfl⟩
  · obtain ⟨c, st, hconfig, hst, ho⟩ := exists_perform_of_job hjob
    have hdisk : st.disk = disk := congrArg (·.1) (State.effects_of_results hst)
    rw [Bool.or_eq_true, not_or, Bool.not_eq_true, decide_eq_true_eq] at hurl
    let accepted : State := { st with
      out := st.out ++ announcement s ++ "\n"
      requests := st.requests ++ [.publish (serverOf config) document] }
    refine ⟨accepted, hdisk, ?_⟩
    rw [ho, perform_eq hconfig, if_neg (by simp [hurl.2]),
      run_bind_of_ok (readDocument_of_some (hdisk ▸ hdocument)), if_neg (by simp [hurl.1]),
      publish, run_bind_of_ok (run_info s _),
      run_bind_of_ok (run_send_of_accepted hreply (serverOf config) document _)]
    rfl

/-- The removal of what can be read tells nothing. -/
theorem run_removeRecord_of_read {record : Build.Record} (st : State)
    (htrouble : s.removalTrouble = none)
    (h : Build.read s.here st.disk.tree config.buildRoot r.build = .ok record) :
    ∃ l, st.disk.tree.locate s.here (Build.folderOf config.buildRoot r.build) = .ok l ∧
      (removeRecord s config r.build).run st =
        (.ok (), { st with disk := { st.disk with tree := st.disk.tree.prune l } }) := by
  obtain ⟨l, hl, _, hremove, _⟩ := Build.remove_of_read h
  have hresult : Build.remove s.setting config.buildRoot r.build st.disk =
      (.ok (), { st.disk with tree := st.disk.tree.prune l }) := by
    rw [Build.remove, Build.folder?_of_isWhole (Build.isWhole_of_read h), Surroundings.setting]
    dsimp only
    rw [hremove]
  refine ⟨l, hl, ?_⟩
  rw [removeRecord, htrouble]
  simp only
  rw [run_getDisk_bind, hresult]
  rfl

/-! ## A run for a build that is not found -/

/-- A run for a build of which nothing is recorded sends nothing and changes no file. If there
    is a server, or none is needed, it reports that nothing was found. -/
theorem run_of_notFound (hjob : job? s words disk = some (config, r))
    (h : Build.read s.here disk.tree config.buildRoot r.build = .error (.notFound r.build)) :
    let o := run s words disk
    o.state.requests = [] ∧ o.state.disk = disk ∧ o.code ≠ 0 ∧
      (r.dryRun = true ∨ config.serverUrl.getD [] ≠ [] →
        ∀ t, Console.plain s.columns (errorText (Build.Failure.notFound r.build).message) = .ok t →
          o.code = 2 ∧ o.state.out = [] ∧
            (t ++ "\n").flatMap besideResults <:+ o.state.err) := by
  intro o
  obtain ⟨hrequests, hdisk, hcode, hends⟩ := run_of_read_error hjob h
  refine ⟨hrequests, hdisk, hcode, fun hserver t ht => ?_⟩
  obtain ⟨hout, htells, _⟩ := hends hserver
  obtain ⟨htwo, _, herr⟩ := (htells rfl).told t ht
  exact ⟨htwo, hout, herr⟩

/-! ## Completion -/

section

variable (hjob : job? s words disk = some (config, r))
  (hsent : (run s words disk).state.requests ≠ [])
  (hreply : s.reply = .answer Build.successStatus body)

include hjob hsent hreply

/-- A message that cannot be told keeps the record from being removed. -/
theorem run_of_untold (h : told? s (styled "success" (takenText config r.build)) = none) :
    (run s words disk).code = 1 ∧ (run s words disk).state.disk = disk := by
  obtain ⟨_, st, hdisk, ho⟩ := run_of_requests hjob hsent hreply
  have hone : exitCode ((success s (takenText config r.build)).run st).1 = 1 :=
    exitCode_sayResult_of_none h st
  obtain ⟨hcode, hstate⟩ := run_bind_of_exitCode_ne_zero (hone ▸ Nat.one_ne_zero) fun _ =>
    removeRecord s config r.build
  have heffects : ((success s (takenText config r.build)).run st).2.effects = st.effects :=
    keeps_sayResult s _ st
  obtain ⟨hsame, _⟩ := Prod.mk.inj heffects
  rw [run, (finish_eq _ _).1, (finish_eq _ _).2, ho, hcode, hstate, hone, hsame]
  exact ⟨rfl, hdisk⟩

/-- Once the message is told, the record is removed. -/
theorem run_of_told {t : Text} (htrouble : s.removalTrouble = none)
    (h : told? s (styled "success" (takenText config r.build)) = some t) :
    (run s words disk).code = 0 ∧
      ∃ l, disk.tree.locate s.here (Build.folderOf config.buildRoot r.build) = .ok l ∧
        (run s words disk).state.disk.tree = disk.tree.prune l := by
  obtain ⟨⟨record, hread⟩, st, rfl, ho⟩ := run_of_requests hjob hsent hreply
  have hsaid : (success s (takenText config r.build)).run st =
      (.ok (), { st with out := st.out ++ t ++ "\n" }) := run_sayResult h st
  obtain ⟨l, hl, hremove⟩ :=
    run_removeRecord_of_read { st with out := st.out ++ t ++ "\n" } htrouble hread
  rw [run, (finish_eq _ _).1, (finish_eq _ _).2, ho, run_bind_of_ok hsaid, hremove]
  exact ⟨rfl, l, hl, rfl⟩

end

/-- A run of `build-publish` that sends its request, where the server takes the build and the
    system lets the record be removed:

    * it is a success if and only if the message about it can be told, for which it is enough
      that there are no brackets in the message, no backslash at its end and no half of a
      surrogate pair;
    * a success leaves no folder of the build, and every later run for this build is told that
      nothing was found; it sends nothing, changes no file and is no success;
    * without a success every file is as it was, and so the next run can publish the build
      again. -/
theorem run_completes_iff (hjob : job? s words disk = some (config, r))
    (hsent : (run s words disk).state.requests ≠ [])
    (hreply : s.reply = .answer Build.successStatus body) (htrouble : s.removalTrouble = none) :
    let o := run s words disk
    let message := takenText config r.build
    (o.code = 0 ↔ told? s (styled "success" message) ≠ none) ∧
      (.char '[' ∉ message → Text.endsWith '\\' message = false → message.IsWhole →
        o.code = 0) ∧
      (o.code = 0 →
        o.state.disk.tree.exists? s.here (Build.folderOf config.buildRoot r.build) = .ok false ∧
        Build.read s.here o.state.disk.tree config.buildRoot r.build =
          .error (.notFound r.build) ∧
        ∀ s' words' config' r', s'.here = s.here →
          job? s' words' o.state.disk = some (config', r') →
          config'.buildRoot = config.buildRoot → r'.build = r.build →
            let o' := run s' words' o.state.disk
            o'.state.requests = [] ∧ o'.state.disk = o.state.disk ∧ o'.code ≠ 0 ∧
              (r'.dryRun = true ∨ config'.serverUrl.getD [] ≠ [] →
                ∀ t, Console.plain s'.columns
                    (errorText (Build.Failure.notFound r.build).message) = .ok t →
                  o'.code = 2 ∧ o'.state.out = [] ∧
                    (t ++ "\n").flatMap besideResults <:+ o'.state.err)) ∧
      (o.code ≠ 0 → o.code = 1 ∧ o.state.disk = disk) := by
  intro o message
  cases htold : told? s (styled "success" message) with
  | none =>
    obtain ⟨hone, hdisk⟩ : o.code = 1 ∧ o.state.disk = disk :=
      run_of_untold hjob hsent hreply htold
    have hne : o.code ≠ 0 := by simp [hone]
    refine ⟨by simp [hne], fun hopen hend hwhole => ?_, fun h => absurd h hne, fun _ =>
      ⟨hone, hdisk⟩⟩
    rw [told?_success s hopen hend hwhole] at htold
    contradiction
  | some t =>
    obtain ⟨hzero, l, hl, htree⟩ : o.code = 0 ∧ ∃ l, _ ∧ o.state.disk.tree = disk.tree.prune l :=
      run_of_told hjob hsent hreply htrouble htold
    obtain ⟨⟨record, hread⟩, _⟩ := run_of_requests hjob hsent hreply
    obtain ⟨l', hl', _, _, hexists, hnotFound⟩ := Build.remove_of_read hread
    obtain rfl : l = l' := Except.ok.inj (hl.symm.trans hl')
    rw [← htree] at hexists hnotFound
    refine ⟨by simp [hzero], fun _ _ _ => hzero, fun _ => ⟨hexists, hnotFound, ?_⟩,
      fun h => absurd hzero h⟩
    intro s' words' config' r' hhere hjob' hroot hbuild
    have hagain := run_of_notFound hjob' (by rw [hhere, hroot, hbuild, hnotFound])
    rwa [hbuild] at hagain

theorem run_completes_iff_app :
    let s : Surroundings := {
      here := []
      environment := [("HOME", "/h")]
      now := (⟨⟨2024, 1, 2⟩, 3, 4, 5, 0, none⟩ : Time.Timestamp)
      millis := 0
      suffix := Text.ofNat
      reply := .answer 204 [] }
    let disk : Build.Disk := ⟨⟨[
      (["h"], .folder), (["h", ".cache"], .folder), (["h", ".cache", "artq"], .folder),
      (["h", ".cache", "artq", "builds"], .folder),
      (["h", ".cache", "artq", "builds", "app_1"], .folder),
      (["h", ".cache", "artq", "builds", "app_1", "details.json"],
        .file (Utf8.encode "\x7b\"started\": \"2024-01-02T03:04:05+00:00\"\x7d")),
      (["h", ".cache", "artq", "builds", "app_1", "partials"], .folder),
      (["h", ".cache", "artq", "builds", "app_1", "partials", "1-a.json"],
        .file (Utf8.encode "\x7b\"timestamp\": 1, \"artifacts\": []\x7d"))]⟩, 0⟩
    let words : List Text := ["-q", "-u", "http://h/", "build-publish", "app", "1"]
    let o := run s words disk
    ∃ config r, job? s words disk = some (config, r) ∧ o.state.requests ≠ [] ∧
      s.reply = .answer Build.successStatus [] ∧ s.removalTrouble = none ∧ o.code = 0 ∧
      o.state.disk.tree.exists? s.here (Build.folderOf config.buildRoot r.build) = .ok false ∧
      Build.read s.here o.state.disk.tree config.buildRoot r.build =
        .error (.notFound r.build) := by
  intro s disk words o
  have hjob : ((job? s words disk).map fun j =>
      ((request? s j.1 j.2 disk).isSome, takenText j.1 j.2.build)) = some (true,
        Text.ofString
          "Build info successfully deployed. Browse it under http://h/webapp/builds/app/1") := by
    decide +kernel
  have hreply : s.reply = .answer Build.successStatus [] := rfl
  have htrouble : s.removalTrouble = none := rfl
  -- From here on nothing is evaluated.
  clear_value s disk words
  obtain ⟨⟨config, r⟩, hjob, hr⟩ := Option.map_eq_some_iff.1 hjob
  obtain ⟨hrequest, htext⟩ := Prod.mk.inj hr
  have hsent : o.state.requests ≠ [] := requests_ne_nil hjob hrequest
  obtain ⟨_, hplain, hgone, _⟩ := run_completes_iff hjob hsent hreply htrouble
  have hzero : o.code = 0 := hplain (by rw [htext]; decide) (by rw [htext]; decide)
    (by rw [htext]; exact Text.isWhole_ofString _)
  exact ⟨config, r, hjob, hsent, hreply, htrouble, hzero, (hgone hzero).1, (hgone hzero).2.1⟩

/-- The name of a build may be what closes a style. Then its record stays although the server
    has taken the build, and the next run publishes it again. -/
theorem run_publishes_again :
    let s : Surroundings := {
      here := []
      environment := [("HOME", "/h")]
      now := (⟨⟨2024, 1, 2⟩, 3, 4, 5, 0, none⟩ : Time.Timestamp)
      millis := 0
      suffix := Text.ofNat
      reply := .answer 204 [] }
    let disk : Build.Disk := ⟨⟨[
      (["h"], .folder), (["h", ".cache"], .folder), (["h", ".cache", "artq"], .folder),
      (["h", ".cache", "artq", "builds"], .folder),
      (["h", ".cache", "artq", "builds", "%5B%2Fx%5D_1"], .folder),
      (["h", ".cache", "artq", "builds", "%5B%2Fx%5D_1", "details.json"],
        .file (Utf8.encode "\x7b\"started\": \"2024-01-02T03:04:05+00:00\"\x7d")),
      (["h", ".cache", "artq", "builds", "%5B%2Fx%5D_1", "partials"], .folder),
      (["h", ".cache", "artq", "builds", "%5B%2Fx%5D_1", "partials", "1-a.json"],
        .file (Utf8.encode "\x7b\"timestamp\": 1, \"artifacts\": []\x7d"))]⟩, 0⟩
    let words : List Text := ["-q", "-u", "http://h/", "build-publish", "[/x]", "1"]
    let o := run s words disk
    ∃ config r record, job? s words disk = some (config, r) ∧ r.dryRun = false ∧
      Build.read s.here disk.tree config.buildRoot r.build = .ok record ∧
      o.state.requests ≠ [] ∧ s.reply = .answer Build.successStatus [] ∧
      s.removalTrouble = none ∧ o.code = 1 ∧
      o.state.disk.tree.exists? s.here (Build.folderOf config.buildRoot r.build) = .ok true ∧
      (run s words o.state.disk).state.requests = o.state.requests := by
  intro s disk words o
  have hjob : ((job? s words disk).map fun j =>
      ((request? s j.1 j.2 disk).isSome, j.2.dryRun,
        told? s (styled "success" (takenText j.1 j.2.build)),
        disk.tree.exists? s.here (Build.folderOf j.1.buildRoot j.2.build))) =
        some (true, false, none, .ok true) := by
    decide +kernel
  have hreply : s.reply = .answer Build.successStatus [] := rfl
  have htrouble : s.removalTrouble = none := rfl
  -- From here on nothing is evaluated.
  clear_value s disk words
  obtain ⟨⟨config, r⟩, hjob, hr⟩ := Option.map_eq_some_iff.1 hjob
  obtain ⟨hrequest, hr⟩ := Prod.mk.inj hr
  obtain ⟨hdry, hr⟩ := Prod.mk.inj hr
  obtain ⟨huntold, hthere⟩ := Prod.mk.inj hr
  have hsent : o.state.requests ≠ [] := requests_ne_nil hjob hrequest
  obtain ⟨⟨record, hread⟩, _⟩ := run_of_requests hjob hsent hreply
  obtain ⟨hcode, hdisk⟩ : o.code = 1 ∧ o.state.disk = disk :=
    run_of_untold hjob hsent hreply huntold
  rw [hdisk]
  exact ⟨config, r, record, hjob, hdry, hread, hsent, hreply, htrouble, hcode, hthere, rfl⟩

end Depot.Command.Publish
