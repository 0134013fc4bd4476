import Depot.Proofs.Build.Removal
import Depot.Proofs.Command.Steps
import Depot.Proofs.Console.Markup
import Depot.Proofs.Json.RoundTrip

/-!
# Publishing loses nothing

What a run of `build-publish` comes down to is told by two functions of what it finds:
`job?` is what it has to do once its words and the configuration are read, and
`request?` is the request that this makes it send. Whatever ends the run, and whatever
the server answers, the run sends this request and no other, it removes nothing but
what is recorded for the build, and that only after the server has taken the build.

* `carries_publish`: the request carries the document, and the same value is read of it as of
  any other text of the document;
* `run_send`, `run_removeRecord`, `run_publish`: the above for the steps that can send or remove
  something; all others keep the files and the requests (`Keeps`);
* `keeping_perform`: from these, for the command in any state (`Keeping`);
* `hasDone_run`: a run of the program comes to the command with nothing done before, or
  only prints;
* `run_loses_nothing`: from these, for whole runs.
-/

namespace Depot.Command.Publish

open CommandLine Files

variable {s : Surroundings} {words : List Text} {disk : Build.Disk} {config : Config}
  {r : Request} {c : Context} {st : State} {document : Json}

/-! ## What a run has to do -/

/-- The document of what is recorded for the build. -/
def document? (s : Surroundings) (config : Config) (r : Request) (disk : Build.Disk) :
    Option Json :=
  match Build.read s.here disk.tree config.buildRoot r.build with
  | .error _ => none
  | .ok record =>
    (Build.document r.build record.started record.partials (r.selection config)
      s.now.zone).toOption

/-- The server that is configured. -/
def serverOf (config : Config) : Build.Server :=
  .connect (config.serverUrl.getD []) config.user config.password config.apiKey

/-- The request that publishes what is recorded for the build, unless nothing is to be
    sent or there is no server. -/
def request? (s : Surroundings) (config : Config) (r : Request) (disk : Build.Disk) :
    Option Build.Request :=
  if r.dryRun || config.serverUrl.getD [] = [] then none
  else (document? s config r disk).map (.publish (serverOf config))

/-- The configuration that the command has and what its words ask for, if they can be read
    and ask for no page. -/
def given? (s : Surroundings) (c : Context) (words : List Text) (t : Tree) :
    Option (Config × Request) :=
  match shape.read (isFolder s t) words with
  | .ok given =>
    if given.has helpSwitch.key then none
    else c.config.map fun config => (config, .ofGiven given)
  | .error _ => none

/-- What a run of the program gives the command to do, if it comes to that. -/
def job? (s : Surroundings) (words : List Text) (disk : Build.Disk) : Option (Config × Request) :=
  match s.nonEmpty? Program.shellVariable, ask words with
  | none, .ok (.command c g rest) =>
    if c.name = command.name then
      match (prepare s g c).run { disk := disk } with
      | (.ok context, _) => given? s context rest disk.tree
      | (.error _, _) => none
    else none
  | _, _ => none

/-- The name of the command that the words of the program ask for. -/
def commandName? (words : List Text) : Option Text :=
  match ask words with
  | .ok (.command c _ _) => some c.name
  | _ => none

/-- A request puts a document on a server. What it carries is a JSON text of the document. From
    this the same value is read as from any other text of it, and the document itself unless
    its texts do not tell all of it. -/
structure Carries (server : Build.Server) (document : Json) (request : Build.Request) : Prop where
  url : request.url = server.url ++ "api/build/"
  login : request.apiKey = server.apiKey ∧ request.login = server.login
  body : request.body = document.render .spaced
  printed : ∀ {l : Json.Layout}, l.IsPlain → ∀ b, (∀ c ∈ b, Json.isSpace c) →
    Json.parse request.body = Json.parse (document.render l ++ b)
  faithful : document.Faithful Json.maxDepth → Json.parse request.body = .ok document

theorem carries_publish (server : Build.Server) (document : Json) :
    Carries server document (.publish server document) where
  url := rfl
  login := ⟨rfl, rfl⟩
  body := rfl
  printed hl b hb := by
    have heq := Json.parse_render_eq Json.isPlain_spaced hl (List.forall_mem_nil _) hb document
    rwa [List.append_nil] at heq
  faithful h := h.parse_render Json.isPlain_spaced

/-! ## The document -/

theorem readDocument_of_some (h : document? s config r st.disk = some document) :
    (readDocument s config r).run st = (.ok document, st) := by
  rw [document?] at h
  rw [readDocument, run_getDisk_bind]
  cases hread : Build.read s.here st.disk.tree config.buildRoot r.build with
  | error e =>
    rw [hread] at h
    contradiction
  | ok record =>
    simp only [hread] at h ⊢
    cases hdocument : Build.document r.build record.started record.partials
        (r.selection config) s.now.zone with
    | error e =>
      rw [hdocument] at h
      contradiction
    | ok document' =>
      rw [hdocument] at h
      rw [← Option.some.inj h]
      rfl

/-- Where there is no document to make, the run ends. -/
theorem readDocument_of_none (h : document? s config r st.disk = none) :
    exitCode ((readDocument s config r).run st).1 ≠ 0 := by
  rw [document?] at h
  rw [readDocument, run_getDisk_bind]
  cases hread : Build.read s.here st.disk.tree config.buildRoot r.build with
  | error e =>
    simp only
    split
    · exact fails_error_exit s _ (by decide) st
    · exact fails_crash _ st
  | ok record =>
    simp only [hread] at h ⊢
    cases hdocument : Build.document r.build record.started record.partials
        (r.selection config) s.now.zone with
    | error e => exact fails_crash _ st
    | ok document' =>
      rw [hdocument] at h
      contradiction

theorem keeps_readDocument : Keeps State.results (readDocument s config r) := by
  refine (keeps_getDisk _).bind fun disk => ?_
  split
  · split
    · exact keeps_error_exit s _ _
    · exact keeps_crash _ _
  · dsimp only
    split
    · exact keeps_pure _ _
    · exact keeps_crash _ _

/-! ## The request -/

/-- What is told before the request goes out. -/
def announcement (s : Surroundings) : Text := Console.printed s.columns "Deploying build info..."

theorem run_info (s : Surroundings) (st : State) :
    (info s "Deploying build info...").run st =
      (.ok (), { st with out := st.out ++ announcement s ++ "\n" }) := by
  refine run_sayResult (told?_eq_some_iff.2 ⟨?_, Console.isWhole_printed _ (by decide)⟩) st
  exact Console.plain_styled _ (Console.isName_of_mem (by simp)) (by decide +kernel) (by decide)

/-- What comes of a request that is sent: the run goes on only when the server has taken it. -/
theorem run_send (s : Surroundings) (server : Build.Server) (document : Json) (st : State) :
    let o := (send s server document).run st
    o.2.effects = (st.disk, st.requests ++ [.publish server document]) ∧
      (exitCode o.1 = 0 → ∃ body, s.reply = .answer Build.successStatus body) := by
  intro o
  let sent : State := { st with requests := st.requests ++ [.publish server document] }
  cases houtcome : s.reply.outcome server with
  | ok =>
    have ho : o = (.ok (), sent) := by
      simp only [o, send, houtcome, run_modify_bind]
      rfl
    rw [ho]
    exact ⟨rfl, fun _ => Build.Reply.outcome_eq_ok_iff.1 houtcome⟩
  | error e =>
    -- However the answer is told, the run ends with it.
    obtain ⟨told, ho, hkeeps, hfails⟩ : ∃ told : Action Unit, o = told.run sent ∧
        Keeps State.effects told ∧ Fails told := by
      simp only [o, send, houtcome, run_modify_bind]
      cases e with
      | tooDeep container => exact ⟨_, rfl, keeps_crash _ _, fails_crash _⟩
      | rejected status body =>
        exact ⟨_, rfl, (keeps_error_exit s _ 3).effects, fails_error_exit s _ (by decide)⟩
      | unreachable endpoint reason =>
        exact ⟨_, rfl, (keeps_error_exit s _ 3).effects, fails_error_exit s _ (by decide)⟩
    rw [ho]
    exact ⟨hkeeps sent, fun hcode => absurd hcode (hfails sent)⟩

/-! ## The removal -/

/-- The second disk is the first one, or lacks some of what is in the folder of the build. -/
def LosesRecord (s : Surroundings) (config : Config) (b : Build)
    (before after : Build.Disk) : Prop :=
  after = before ∨
    ∃ l, before.tree.locate s.here (Build.folderOf config.buildRoot b) = .ok l ∧
      Tree.LosesAt l before.tree after.tree

theorem losesRecord_remove (s : Surroundings) (config : Config) (b : Build)
    (disk : Build.Disk) :
    LosesRecord s config b disk (Build.remove s.setting config.buildRoot b disk).2 := by
  rcases Build.remove_eq_or s.setting config.buildRoot b disk with hsame | ⟨l, hl, hgone⟩
  · exact .inl hsame
  · exact .inr ⟨l, hl, hgone ▸ .prune disk.tree l⟩

theorem losesRecord_removeSome (s : Surroundings) (config : Config) (b : Build)
    (disk : Build.Disk) :
    let l := Build.folderOf config.buildRoot b
    LosesRecord s config b disk
      { disk with tree := disk.tree.removeSome s.here l s.removedBefore } := by
  rcases Tree.removeSome_eq_or disk.tree s.here (Build.folderOf config.buildRoot b)
    s.removedBefore with hsame | hloses
  · exact .inl (by rw [hsame])
  · exact .inr hloses

/-- The removal of a record sends nothing, and touches nothing but the record. -/
theorem run_removeRecord (s : Surroundings) (config : Config) (b : Build) (st : State) :
    let o := (removeRecord s config b).run st
    o.2.requests = st.requests ∧ LosesRecord s config b st.disk o.2.disk := by
  intro o
  -- Whatever is told afterwards, the disk is as the removal has left it.
  have hend {disk : Build.Disk} (told : Action Unit) (ho : o = told.run { st with disk := disk })
      (hkeeps : Keeps State.effects told) (hdisk : LosesRecord s config b st.disk disk) :
      o.2.requests = st.requests ∧ LosesRecord s config b st.disk o.2.disk := by
    have heffects := hkeeps { st with disk := disk }
    rw [← ho] at heffects
    obtain ⟨hsame, hrequests⟩ := Prod.mk.inj heffects
    exact ⟨hrequests, hsame ▸ hdisk⟩
  let complain (complaint : Text) : Action Unit :=
    warning s ("Published, but could not remove recorded build data: " ++ complaint)
  cases htrouble : s.removalTrouble with
  | some complaint =>
    cases hfolder : Build.folder? config.buildRoot b with
    | error e =>
      refine hend (crash (.build e)) ?_ (keeps_crash _ _) (.inl rfl)
      simp only [o, removeRecord, htrouble, hfolder]
    | ok folder =>
      obtain ⟨_, rfl⟩ := Build.folder?_eq_ok_iff.1 hfolder
      refine hend (complain complaint) ?_ (keeps_sayBeside s _).effects
        (losesRecord_removeSome s config b st.disk)
      simp only [o, complain, removeRecord, htrouble, hfolder, run_getDisk_bind, run_setTree_bind]
  | none =>
    have hdisk := losesRecord_remove s config b st.disk
    cases hremove : Build.remove s.setting config.buildRoot b st.disk with
    | mk result disk =>
      rw [hremove] at hdisk
      cases result with
      | ok =>
        refine hend (pure ()) ?_ (keeps_pure _ _) hdisk
        simp only [o, removeRecord, htrouble, run_getDisk_bind, hremove]
        rfl
      | error e =>
        refine hend (if CollectEnv.isExpected e then complain e.message else crash (.build e))
          ?_ ?_ hdisk
        · simp only [o, complain, removeRecord, htrouble, run_getDisk_bind, hremove,
            run_setDisk_bind]
        · split
          · exact (keeps_sayBeside s _).effects
          · exact keeps_crash _ _

/-- A build is published by one request, and nothing is removed before the server has taken
    it. -/
theorem run_publish (s : Surroundings) (config : Config) (b : Build)
    (server : Build.Server) (document : Json) (st : State) :
    let o := (publish s config b server document).run st
    o.2.requests = st.requests ++ [.publish server document] ∧
      (exitCode o.1 = 0 → ∃ body, s.reply = .answer Build.successStatus body) ∧
      (o.2.disk = st.disk ∨ (∃ body, s.reply = .answer Build.successStatus body) ∧
        LosesRecord s config b st.disk o.2.disk) := by
  intro o
  let announced : State := { st with out := st.out ++ announcement s ++ "\n" }
  let message := "Build info successfully deployed. Browse it under " ++ server.browseUrl b
  have ho : o = (send s server document >>= fun _ => success s message >>= fun _ =>
      removeRecord s config b).run announced := by
    change (publish s config b server document).run st = _
    rw [publish, run_bind_of_ok (run_info s st)]
  have hsend := run_send s server document announced
  cases hsent : (send s server document).run announced with
  | mk sent st₁ =>
  rw [hsent] at hsend
  obtain ⟨heffects, haccepted⟩ := hsend
  cases sent with
  | error e =>
    obtain ⟨hdisk, hrequests⟩ := Prod.mk.inj heffects
    rw [ho, run_bind_of_error hsent]
    exact ⟨hrequests, haccepted, .inl hdisk⟩
  | ok =>
    -- The server has taken the build; this is told, and the record goes.
    have haccepted := haccepted rfl
    rw [ho, run_bind_of_ok hsent]
    have hsaid : ((success s message).run st₁).2.effects = st₁.effects := keeps_sayResult s _ st₁
    cases htold : (success s message).run st₁ with
    | mk told st₂ =>
    rw [htold] at hsaid
    obtain ⟨hdisk, hrequests⟩ := Prod.mk.inj (hsaid.trans heffects)
    cases told with
    | error e =>
      rw [run_bind_of_error htold]
      exact ⟨hrequests, fun _ => haccepted, .inl hdisk⟩
    | ok =>
      rw [run_bind_of_ok htold]
      obtain ⟨hsame, hloses⟩ := run_removeRecord s config b st₂
      exact ⟨hsame.trans hrequests, fun _ => haccepted, .inr ⟨haccepted, hdisk ▸ hloses⟩⟩

/-! ## The command -/

theorem perform_eq (hconfig : c.config = some config) :
    perform s c r =
      if !r.dryRun && config.serverUrl.getD [] = [] then
        error s "No server URL configured" >>= fun _ =>
          hint s "Set server.url in the config or pass --url" >>= fun _ => exit 1
      else readDocument s config r >>= fun document =>
        if r.dryRun then echo (document.render .indented)
        else publish s config r.build (serverOf config) document := by
  rw [perform, needConfig, hconfig]
  rfl

/-- A dry run prints the document. -/
theorem run_perform_dry (hconfig : c.config = some config) (hdry : r.dryRun = true)
    (h : document? s config r st.disk = some document) :
    (perform s c r).run st =
      (.ok (), { st with out := st.out ++ document.render .indented ++ "\n" }) := by
  rw [perform_eq hconfig, hdry, if_neg (by simp), run_bind_of_ok (readDocument_of_some h),
    if_pos rfl]
  exact run_echo_render document st

/-- What the command may do from a state on: send the request that publishes the build, if
    there is one, and remove nothing but the record of the build, after the server has taken
    it. Without that it is no success, unless nothing was to be sent. -/
structure Keeping (s : Surroundings) (config : Config) (r : Request) (before : State)
    (o : Except Stop Unit × State) : Prop where
  requests : o.2.requests = before.requests ++ (request? s config r before.disk).toList
  disk : o.2.disk = before.disk ∨ request? s config r before.disk ≠ none ∧
    (∃ body, s.reply = .answer Build.successStatus body) ∧
    LosesRecord s config r.build before.disk o.2.disk
  code : r.dryRun = false → exitCode o.1 = 0 → request? s config r before.disk ≠ none ∧
    ∃ body, s.reply = .answer Build.successStatus body

/-- An action that only prints will do where there is no request. -/
theorem keeping_of_effects {o : Except Stop Unit × State}
    (hrequest : request? s config r st.disk = none) (heffects : o.2.effects = st.effects)
    (hcode : r.dryRun = false → exitCode o.1 ≠ 0) : Keeping s config r st o := by
  obtain ⟨hdisk, hrequests⟩ := Prod.mk.inj heffects
  refine ⟨?_, .inl hdisk, fun hdry hzero => absurd hzero (hcode hdry)⟩
  rw [hrequest, hrequests]
  exact (List.append_nil _).symm

theorem keeping_perform (s : Surroundings) (hconfig : c.config = some config) (r : Request)
    (st : State) :
    Keeping s config r st ((perform s c r).run st) := by
  rw [perform_eq hconfig]
  -- Only what has a server, a document and is no dry run comes to send something.
  split
  · next hurl =>
    rw [Bool.and_eq_true, Bool.not_eq_true', decide_eq_true_eq] at hurl
    have hrequest : request? s config r st.disk = none := by simp [request?, hurl.2]
    have hkeeps : Keeps State.results (error s "No server URL configured" >>= fun _ =>
        hint s "Set server.url in the config or pass --url" >>= fun _ => (exit 1 : Action Unit)) :=
      (keeps_sayBeside s _).bind fun _ => (keeps_sayBeside s _).bind fun _ => keeps_exit _ _
    exact keeping_of_effects hrequest (hkeeps.effects st) fun _ =>
      fails_error s _ (Fails.bind (neverExits_sayBeside s _) fun _ => fails_exit (by decide)) st
  next hurl =>
  cases hdocument : document? s config r st.disk with
  | none =>
    have hrequest : request? s config r st.disk = none := by simp [request?, hdocument]
    have hfails := readDocument_of_none hdocument
    obtain ⟨hcode, hstate⟩ := run_bind_of_exitCode_ne_zero hfails fun document =>
      if r.dryRun then echo (document.render .indented)
      else publish s config r.build (serverOf config) document
    exact keeping_of_effects hrequest (hstate ▸ keeps_readDocument.effects st)
      fun _ => hcode ▸ hfails
  | some document =>
    rw [run_bind_of_ok (readDocument_of_some hdocument)]
    cases hdry : r.dryRun with
    | true =>
      have hrequest : request? s config r st.disk = none := by simp [request?, hdry]
      rw [if_pos rfl]
      exact keeping_of_effects hrequest (keeps_echo _ st) fun h => nomatch hdry.symm.trans h
    | false =>
      have hrequest : request? s config r st.disk =
          some (.publish (serverOf config) document) := by
        rw [hdry] at hurl
        rw [request?, hdry, hdocument]
        exact if_neg hurl
      obtain ⟨hrequests, hcode, hdisk⟩ :=
        run_publish s config r.build (serverOf config) document st
      have hsome : request? s config r st.disk ≠ none := by simp [hrequest]
      rw [if_neg Bool.false_ne_true]
      refine ⟨?_, hdisk.imp id fun h => ⟨hsome, h⟩, fun _ hzero => ⟨hsome, hcode hzero⟩⟩
      rw [hrequest]
      exact hrequests

/-! ## Whole runs -/

/-- A run that ends like this has done its job, or has printed at most when there is none. -/
def HasDone (s : Surroundings) (disk : Build.Disk) (job : Option (Config × Request))
    (o : Except Stop Unit × State) : Prop :=
  match job with
  | none => o.2.effects = (disk, [])
  | some (config, r) => ∃ c st, c.config = some config ∧ st.results = (disk, [], []) ∧
      o = (perform s c r).run st

/-- Without a configuration there is nothing to do. -/
theorem hasDone_perform {given : Given} (hst : st.results = (disk, [], [])) :
    HasDone s disk (c.config.map fun config => (config, .ofGiven given))
      ((perform s c (.ofGiven given)).run st) := by
  cases hconfig : c.config with
  | some config => exact ⟨c, st, hconfig, hst, rfl⟩
  | none =>
    -- The command ends where it asks for the configuration.
    have hneed : needConfig s c = error s "Configuration not loaded" >>= fun _ => exit 1 := by
      rw [needConfig, hconfig]
    have hfails : exitCode ((needConfig s c).run st).1 ≠ 0 :=
      hneed ▸ fails_error_exit s _ (by decide) st
    have hkeeps : Keeps State.results (needConfig s c) := hneed ▸ keeps_error_exit s _ _
    rw [perform]
    change State.effects _ = _
    rw [(run_bind_of_exitCode_ne_zero hfails _).2, hkeeps.effects st]
    exact State.effects_of_results hst

theorem hasDone_call (hst : st.results = (disk, [], [])) (name : Text) :
    HasDone s disk (given? s c words disk.tree) ((command.call name s c words).run st) := by
  have heffects : st.effects = (disk, []) := State.effects_of_results hst
  have hdisk : st.disk = disk := congrArg (·.1) heffects
  have hshape : command.shape = shape := rfl
  rw [Command.call, run_getDisk_bind, hdisk, given?, hshape]
  cases shape.read (isFolder s disk.tree) words with
  | error e => exact ((keeps_refuseUsage _ _ e).effects st).trans heffects
  | ok given =>
    simp only
    split
    · exact (keeps_echo _ st).trans heffects
    · exact hasDone_perform hst

theorem hasDone_program (hname : commandName? words = none ∨ commandName? words = some command.name)
    (hshell : s.nonEmpty? Program.shellVariable = none) :
    HasDone s disk (job? s words disk) ((program s words).run { disk := disk }) := by
  rw [job?, hshell]
  -- Without words, with words that cannot be read and for a page the program only prints.
  by_cases hwords : words = []
  · subst hwords
    exact ((keeps_printError _).bind fun _ => keeps_exit State.results 2).effects _
  rw [program, if_neg hwords]
  cases hask : ask words with
  | error e => exact (keeps_refuseUsage _ _ e).effects _
  | ok asked =>
  cases asked with
  | page => exact keeps_echo _ _
  | version => exact keeps_echo _ _
  | command c g rest =>
  -- The words ask for no other command, so the one that is found is this one.
  obtain rfl : c = command := by
    refine eq_of_mem_commands (mem_commands_of_ask hask) (by simp [commands, otherCommands]) ?_
    rw [commandName?, hask] at hname
    exact Option.some.inj (hname.resolve_left (by simp))
  have hprepare := keeps_prepare s g command { disk := disk }
  dsimp only
  rw [if_pos rfl]
  cases hprepared : (prepare s g command).run { disk := disk } with
  | mk prepared st =>
  rw [hprepared] at hprepare
  cases prepared with
  | error e =>
    rw [run_bind_of_error hprepared]
    exact State.effects_of_results hprepare
  | ok context =>
    rw [run_bind_of_ok hprepared]
    exact hasDone_call hprepare _

theorem hasDone_run (s : Surroundings) (disk : Build.Disk)
    (hname : commandName? words = none ∨ commandName? words = some command.name) :
    HasDone s disk (job? s words disk)
      ((unlessAsked s groupShape shapes (program s words)).run { disk := disk }) := by
  rw [unlessAsked]
  cases hshell : s.nonEmpty? Program.shellVariable with
  | none => exact hasDone_program hname hshell
  | some t =>
    rw [job?, hshell]
    exact keeps_answerShell s groupShape shapes (Shell.Question.ofText t) _

theorem commandName?_of_job {job : Config × Request} (h : job? s words disk = some job) :
    commandName? words = some command.name := by
  rw [job?] at h
  split at h
  · next hask =>
    rw [Option.ite_none_right_eq_some] at h
    rw [commandName?, hask]
    exact congrArg some h.1
  · contradiction

/-- A run with a job comes to do it, and nothing has happened before. -/
theorem exists_perform_of_job (h : job? s words disk = some (config, r)) :
    ∃ c st, c.config = some config ∧ st.results = (disk, [], []) ∧
      (unlessAsked s groupShape shapes (program s words)).run { disk := disk } =
        (perform s c r).run st := by
  have hdone := hasDone_run s disk (.inr (commandName?_of_job h))
  rw [h] at hdone
  exact hdone

/-- A dry run prints the document of what is recorded, and nothing else as a result. -/
theorem out_of_dryRun (h : job? s words disk = some (config, r)) (hdry : r.dryRun = true)
    (hdocument : document? s config r disk = some document) :
    (run s words disk).state.out = document.render .indented ++ "\n" := by
  obtain ⟨c, st, hconfig, hst, ho⟩ := exists_perform_of_job h
  obtain ⟨hdisk, hrest⟩ := Prod.mk.inj hst
  obtain ⟨_, hout⟩ := Prod.mk.inj hrest
  rw [run, (finish_eq _ _).2, ho, run_perform_dry hconfig hdry (hdisk.symm ▸ hdocument)]
  simp only [hout, List.nil_append]

/-- A run with a job may do what the command may do from the start of the run on. -/
theorem keeping_run (h : job? s words disk = some (config, r)) :
    Keeping s config r { disk := disk }
      ((unlessAsked s groupShape shapes (program s words)).run { disk := disk }) := by
  obtain ⟨c, st, hconfig, hst, ho⟩ := exists_perform_of_job h
  obtain ⟨hdisk, hrequests⟩ := Prod.mk.inj (State.effects_of_results hst)
  rw [ho]
  have hkeeping := keeping_perform s hconfig r st
  exact ⟨by rw [hkeeping.requests, hrequests, hdisk], hdisk ▸ hkeeping.disk,
    hdisk ▸ hkeeping.code⟩

/-- On its own, without a configuration, the command does nothing but to tell so. -/
theorem effects_runAlone (s : Surroundings) (words : List Text) (disk : Build.Disk) :
    (runAlone command s words disk).state.effects = (disk, []) := by
  rw [runAlone, (finish_eq _ _).2, unlessAsked]
  cases s.nonEmpty? Program.shellVariable with
  | some t => exact keeps_answerShell s command.shape [] (Shell.Question.ofText t) _
  | none =>
    have hdone : HasDone s disk (given? s {} words disk.tree)
        ((command.call Program.name s {} words).run { disk := disk }) := hasDone_call rfl _
    have hnone : given? s {} words disk.tree = none := by
      rw [given?]
      split
      · exact ite_self _
      · rfl
    rw [hnone] at hdone
    exact hdone

/-- A run of the program that asks for no other command than `build-publish`:

    * it sends the request for its job and no other, if there is one;
    * the files are as they were, unless a request was sent and answered with the status
      of a success; then they lack at most what was in the folder of the build;
    * a dry run sends nothing and changes no file;
    * what is sent carries the document of what is recorded to the server that is configured,
      and the same value is read of it as of what a dry run prints which finds the same;
    * unless it is a dry run, a run that comes to do its job is a success only when the
      server has taken the build.

    The command on its own, without a configuration, does nothing at all. -/
theorem run_loses_nothing
    (hname : commandName? words = none ∨ commandName? words = some command.name) :
    let o := run s words disk
    let job := job? s words disk
    o.state.requests = (job.bind fun j => request? s j.1 j.2 disk).toList ∧
      (o.state.disk = disk ∨ o.state.requests ≠ [] ∧ (∃ body, s.reply = .answer 204 body) ∧
        ∃ config r l, job = some (config, r) ∧
          disk.tree.locate s.here (Build.folderOf config.buildRoot r.build) = .ok l ∧
          Tree.LosesAt l disk.tree o.state.disk.tree) ∧
      (∀ config r, job = some (config, r) → r.dryRun = true →
        o.state.requests = [] ∧ o.state.disk = disk) ∧
      (∀ request ∈ o.state.requests, ∃ config r document, job = some (config, r) ∧
        document? s config r disk = some document ∧
        request = .publish (serverOf config) document ∧
        Carries (serverOf config) document request ∧
        ∀ words', job? s words' disk = some (config, { r with dryRun := true }) →
          (run s words' disk).state.out = document.render .indented ++ "\n" ∧
          Json.parse request.body = Json.parse (run s words' disk).state.out) ∧
      (∀ config r, job = some (config, r) → r.dryRun = false → o.code = 0 →
        o.state.requests ≠ [] ∧ ∃ body, s.reply = .answer 204 body) ∧
      ∀ words', (runAlone command s words' disk).state.effects = (disk, []) := by
  intro o job
  obtain ⟨hcode, hstate⟩ : o.code = _ ∧ o.state = _ :=
    finish_eq (unlessAsked s groupShape shapes (program s words)) disk
  cases hjob : job? s words disk with
  | none =>
    have hdone := hasDone_run s disk hname
    rw [hjob] at hdone
    obtain ⟨hdisk, hrequests⟩ := Prod.mk.inj hdone
    rw [← hstate] at hdisk hrequests
    simp only [job, hjob, hrequests]
    exact ⟨rfl, .inl hdisk, fun _ _ h => (nomatch h), fun _ h => (nomatch h),
      fun _ _ h => (nomatch h), fun words' => effects_runAlone s words' disk⟩
  | some j =>
    obtain ⟨config, r⟩ := j
    obtain ⟨hrequests, hdisk, hsuccess⟩ := keeping_run hjob
    rw [← hstate] at hrequests hdisk
    rw [← hcode] at hsuccess
    have hsent : o.state.requests = (request? s config r disk).toList := hrequests
    have hne (hsome : request? s config r disk ≠ none) : o.state.requests ≠ [] := by
      simpa [hsent] using hsome
    simp only [job, hjob]
    refine ⟨hsent, ?files, ?dry, ?document, ?code, fun words' => effects_runAlone s words' disk⟩
    case files =>
      rcases hdisk with hsame | ⟨hsome, haccepted, hsame | ⟨l, hl, hloses⟩⟩
      · exact .inl hsame
      · exact .inl hsame
      · exact .inr ⟨hne hsome, haccepted, config, r, l, rfl, hl, hloses⟩
    case dry =>
      rintro _ _ ⟨⟩ hdry
      have hnothing : o.state.requests = [] := by simp [hsent, request?, hdry]
      exact ⟨hnothing, hdisk.resolve_right fun h => hne h.1 hnothing⟩
    case document =>
      intro request hrequest
      rw [hsent, Option.mem_toList, request?, Option.ite_none_left_eq_some,
        Option.map_eq_some_iff] at hrequest
      obtain ⟨_, document, hdocument, rfl⟩ := hrequest
      have hcarries := carries_publish (serverOf config) document
      refine ⟨config, r, document, rfl, hdocument, rfl, hcarries, fun words' h => ?_⟩
      have hout := out_of_dryRun h rfl hdocument
      exact ⟨hout, hout ▸ hcarries.printed Json.isPlain_indented "\n" (by decide)⟩
    case code =>
      rintro _ _ ⟨⟩ hdry hzero
      obtain ⟨hsome, haccepted⟩ := hsuccess hdry hzero
      exact ⟨hne hsome, haccepted⟩

theorem run_loses_nothing_unreachable :
    let s : Surroundings := {
      here := []
      environment := [("HOME", "/h")]
      now := (⟨⟨2024, 1, 2⟩, 3, 4, 5, 0, none⟩ : Time.Timestamp)
      millis := 0
      suffix := Text.ofNat
      reply := .failure "no route to host" }
    let disk : Build.Disk := ⟨⟨[
      (["h"], .folder), (["h", ".cache"], .folder), (["h", ".cache", "artq"], .folder),
      (["h", ".cache", "artq", "builds"], .folder),
      (["h", ".cache", "artq", "builds", "app_1"], .folder),
      (["h", ".cache", "artq", "builds", "app_1", "details.json"],
        .file (Utf8.encode "\x7b\"started\": \"2024-01-02T03:04:05+00:00\"\x7d")),
      (["h", ".cache", "artq", "builds", "app_1", "partials"], .folder),
      (["h", ".cache", "artq", "builds", "app_1", "partials", "1-a.json"],
        .file (Utf8.encode "\x7b\"timestamp\": 1, \"artifacts\": []\x7d"))]⟩, 0⟩
    let words : List Text := ["-q", "-u", "http://h/", "build-publish", "app", "1"]
    let o := run s words disk
    commandName? words = some command.name ∧ o.state.requests.length = 1 ∧
      o.state.disk = disk ∧ o.code ≠ 0 := by
  intro s disk words o
  have hname : commandName? words = some command.name := by decide +kernel
  have hunanswered (body : Text) : s.reply ≠ .answer 204 body := fun h => nomatch h
  have hjob : ((job? s words disk).map fun j => (j.2, (request? s j.1 j.2 disk).isSome)) =
      some (⟨⟨"app", "1"⟩, none, none, false⟩, true) := by decide +kernel
  -- From here on nothing is evaluated.
  clear_value s disk words
  obtain ⟨⟨config, r⟩, hsome, hr⟩ := Option.map_eq_some_iff.1 hjob
  obtain ⟨rfl, hrequest⟩ := Prod.mk.inj hr
  obtain ⟨request, hrequest⟩ := Option.isSome_iff_exists.1 hrequest
  obtain ⟨hrequests, hdisk, _, _, hcode, _⟩ := @run_loses_nothing s words disk (.inr hname)
  refine ⟨hname, ?one, ?same, ?failed⟩
  case one =>
    rw [hsome] at hrequests
    exact (congrArg List.length hrequests).trans (by simp [hrequest])
  case same =>
    exact hdisk.resolve_right fun ⟨_, ⟨body, hbody⟩, _⟩ => hunanswered body hbody
  case failed =>
    intro hzero
    obtain ⟨_, body, hbody⟩ := hcode config _ hsome rfl hzero
    exact hunanswered body hbody

end Depot.Command.Publish
