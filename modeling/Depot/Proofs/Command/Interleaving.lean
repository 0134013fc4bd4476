import Depot.Proofs.Build.Reading
import Depot.Proofs.Command.Publish

/-!
# Publishing while others record

While one process publishes a build, others may record something for it. An `Act` is what
one of them does in one go. The parts of a run of `build-publish` come in their order
(`run_alone`), and what others record comes before them, between them and after them, as
it happens.

A `Scene` keeps apart what was recorded before the document was made, what was recorded
from then on, and what was recorded once the record was removed. Every act keeps the disk
and this account together (`Follows.step`), and so does every sequence of acts
(`Follows.run`). So the document is made from what came first, what came last is on the
disk, and what came between is in neither (`publish_beside_others`).
-/

namespace Depot.Command.Publish

open Build Files Time

variable {s : Surroundings} {config : Config} {r : Request} {c : Context} {st st' : State}
  {l : Location} {t : Tree} {document : Json}

/-! ## Acts -/

/-- Where the build is recorded that a run publishes. -/
def siteOf (s : Surroundings) (config : Config) (r : Request) : Site :=
  ⟨s.here, config.buildRoot, r.build, s.suffix⟩

/-- Sends the document. -/
def announce (s : Surroundings) (config : Config) (document : Json) : Action Unit := do
  info s "Deploying build info..."
  send s (serverOf config) document

/-- Tells that the build is published, and removes its record. -/
def conclude (s : Surroundings) (config : Config) (r : Request) : Action Unit := do
  success s ("Build info successfully deployed. Browse it under " ++
    (serverOf config).browseUrl r.build)
  removeRecord s config r.build

/-- What a process does in one go. -/
inductive Act where
  /-- A process records something for the build. -/
  | record (op : Operation) (h : op ≠ .remove)
  /-- The process that publishes makes the document. -/
  | read
  /-- It sends the document. -/
  | send
  /-- It removes the record. -/
  | remove

/-- What is recorded in an act. -/
def Act.operation? : Act → Option Operation
  | .record op _ => some op
  | _ => none

/-- How far the process is that publishes. -/
inductive Stage where
  | ready
  /-- The document is made. -/
  | holding (document : Json)
  /-- The server has taken it. -/
  | accepted (document : Json)
  /-- The record is removed. -/
  | done (document : Json)

/-- The document, once it is made. -/
def Stage.document? : Stage → Option Json
  | .ready => none
  | .holding document | .accepted document | .done document => some document

/-- Whether the record is removed. -/
def Stage.isDone : Stage → Bool
  | .done _ => true
  | .ready | .holding _ | .accepted _ => false

/-- The requests that were sent to get this far. -/
def Stage.requests (config : Config) : Stage → List Build.Request
  | .ready | .holding _ => []
  | .accepted document | .done document => [.publish (serverOf config) document]

/-- What there is between two acts. The partials have the names of their files. -/
structure Scene where
  /-- The state of the process that publishes. The disk is the one of all. -/
  state : State
  stage : Stage
  /-- The partials that were recorded before the document was made. -/
  early : List (Text × Partial)
  /-- Those that were recorded from then on until the record was removed. -/
  meanwhile : List (Text × Partial)
  /-- Those that were recorded afterwards. -/
  late : List (Text × Partial)

namespace Scene

/-- The scene in which a run starts that finds some partials recorded. -/
def opening (st : State) (es : List (Text × Partial)) : Scene := ⟨st, .ready, es, [], []⟩

/-- All partials that were recorded. -/
def recorded (c : Scene) : List (Text × Partial) := c.early ++ c.meanwhile ++ c.late

/-- The partials of which there should be files. -/
def kept (c : Scene) : List (Text × Partial) :=
  if c.stage.isDone then c.late else c.early ++ c.meanwhile

/-- The scene with further partials. -/
def note (c : Scene) (es : List (Text × Partial)) : Scene :=
  match c.stage with
  | .ready => { c with early := c.early ++ es }
  | .holding _ | .accepted _ => { c with meanwhile := c.meanwhile ++ es }
  | .done _ => { c with late := c.late ++ es }

/-- The scene after a part of the run, if that goes well. -/
def advance {α : Type} (c : Scene) (part : Action α) (next : α → Stage) : Option Scene :=
  match part.run c.state with
  | (.ok x, st) => some { c with state := st, stage := next x }
  | (.error _, _) => none

/-- The scene after something is recorded for the build. -/
def record (s : Surroundings) (config : Config) (r : Request) (op : Operation) (c : Scene) :
    Scene :=
  let site := siteOf s config r
  let (ok, disk) := site.perform op c.state.disk
  let file := op.partial?.map fun p => (site.fileName c.state.disk.drawn p, p)
  { c.note (if ok then file.toList else []) with state := { c.state with disk := disk } }

/-- The scene after an act. There is none when a part of the run is not the next one or
    ends the run. -/
def step (s : Surroundings) (config : Config) (r : Request) : Act → Scene → Option Scene
  | .record op _, c => some (c.record s config r op)
  | .read, c =>
    match c.stage with
    | .ready => c.advance (readDocument s config r) .holding
    | _ => none
  | .send, c =>
    match c.stage with
    | .holding document => c.advance (announce s config document) fun _ => .accepted document
    | _ => none
  | .remove, c =>
    match c.stage with
    | .accepted document => c.advance (conclude s config r) fun _ => .done document
    | _ => none

/-- The scene after acts one after the other. -/
def run (s : Surroundings) (config : Config) (r : Request) : List Act → Scene → Option Scene
  | [], c => some c
  | act :: acts, c => (step s config r act c).bind (run s config r acts)

section

variable {α : Type} {d d' : Scene} {part : Action α} {next : α → Stage}

theorem advance_of_ok {x : α} (d : Scene) (h : part.run d.state = (.ok x, st)) :
    d.advance part next = some { d with state := st, stage := next x } := by
  rw [advance, h]

theorem advance_of_error {e : Stop} (d : Scene) (h : part.run d.state = (.error e, st)) :
    d.advance part next = none := by
  rw [advance, h]

theorem exists_of_advance (h : d.advance part next = some d') :
    ∃ x st, part.run d.state = (.ok x, st) ∧ d' = { d with state := st, stage := next x } := by
  cases hpart : part.run d.state with
  | mk o st =>
  cases o with
  | error e => cases (advance_of_error d hpart).symm.trans h
  | ok x => exact ⟨x, st, rfl, (Option.some.inj ((advance_of_ok d hpart).symm.trans h)).symm⟩

end

/-! ### Steps -/

variable {d d' : Scene}

theorem step_read (h : d.stage = .ready) :
    step s config r .read d = d.advance (readDocument s config r) .holding := by
  simp only [step, h]

theorem stage_of_step_read (h : step s config r .read d = some d') : d.stage = .ready := by
  rw [step] at h
  split at h
  · assumption
  · contradiction

theorem step_send (h : d.stage = .holding document) : step s config r .send d =
    d.advance (announce s config document) fun _ => .accepted document := by
  simp only [step, h]

theorem stage_of_step_send (h : step s config r .send d = some d') :
    ∃ document, d.stage = .holding document := by
  rw [step] at h
  split at h
  · next document hstage => exact ⟨document, hstage⟩
  · contradiction

theorem step_remove (h : d.stage = .accepted document) : step s config r .remove d =
    d.advance (conclude s config r) fun _ => .done document := by
  simp only [step, h]

theorem stage_of_step_remove (h : step s config r .remove d = some d') :
    ∃ document, d.stage = .accepted document := by
  rw [step] at h
  split at h
  · next document hstage => exact ⟨document, hstage⟩
  · contradiction

end Scene

/-- A build is published by sending the document and removing the record. -/
theorem publish_eq : publish s config r.build (serverOf config) document =
    announce s config document >>= fun _ => conclude s config r := by
  rw [publish, announce, bind_assoc]
  unfold conclude
  rfl

/-- The parts of a run that publishes. -/
theorem perform_eq_parts (hconfig : c.config = some config) (hdry : r.dryRun = false)
    (hurl : config.serverUrl.getD [] ≠ []) :
    perform s c r = readDocument s config r >>= fun document =>
      announce s config document >>= fun _ => conclude s config r := by
  have hserver : ¬(!false && decide (config.serverUrl.getD [] = [])) = true := by
    simpa using hurl
  rw [perform_eq hconfig, hdry, if_neg hserver]
  simp only [Bool.false_eq_true, if_false, publish_eq]

/-- Without others, the acts of the process are the run of the command. -/
theorem run_alone (hconfig : c.config = some config) (hdry : r.dryRun = false)
    (hurl : config.serverUrl.getD [] ≠ []) (es : List (Text × Partial)) :
    (perform s c r).run st = (.ok (), st') ↔
      ∃ document, Scene.run s config r [.read, .send, .remove] (.opening st es) =
        some ⟨st', .done document, es, [], []⟩ := by
  rw [perform_eq_parts hconfig hdry hurl]
  let c₀ := Scene.opening st es
  -- Act by act: where the run ends, the process takes no further act.
  cases hread : (readDocument s config r).run st with
  | mk o st₁ =>
  cases o with
  | error e =>
    rw [run_bind_of_error hread, Scene.run, Scene.step_read rfl, c₀.advance_of_error hread]
    exact ⟨fun h => (nomatch h), fun ⟨_, h⟩ => nomatch h⟩
  | ok document =>
  let c₁ : Scene := { c₀ with state := st₁, stage := .holding document }
  rw [run_bind_of_ok hread, Scene.run, Scene.step_read rfl, c₀.advance_of_ok hread,
    Option.bind_some]
  cases hsend : (announce s config document).run st₁ with
  | mk o st₂ =>
  cases o with
  | error e =>
    rw [run_bind_of_error hsend, Scene.run, Scene.step_send rfl, c₁.advance_of_error hsend]
    exact ⟨fun h => (nomatch h), fun ⟨_, h⟩ => nomatch h⟩
  | ok =>
  let c₂ : Scene := { c₁ with state := st₂, stage := .accepted document }
  rw [run_bind_of_ok hsend, Scene.run, Scene.step_send rfl, c₁.advance_of_ok hsend,
    Option.bind_some, Scene.run, Scene.step_remove rfl]
  cases hremove : (conclude s config r).run st₂ with
  | mk o st₃ =>
  cases o with
  | error e =>
    rw [c₂.advance_of_error hremove]
    exact ⟨fun h => (nomatch h), fun ⟨_, h⟩ => nomatch h⟩
  | ok =>
    rw [c₂.advance_of_ok hremove]
    refine ⟨fun h => ?_, fun ⟨document', h⟩ => ?_⟩
    · cases h
      exact ⟨document, rfl⟩
    · cases h
      rfl

/-! ## The parts of the run -/

/-- What is made goes into the document that is sent. -/
theorem document?_of_run {o : State} (h : (readDocument s config r).run st = (.ok document, o)) :
    o = st ∧ document? s config r st.disk = some document := by
  cases hdocument : document? s config r st.disk with
  | none =>
    have hfails := readDocument_of_none hdocument
    rw [h] at hfails
    exact absurd rfl hfails
  | some document' =>
    cases h.symm.trans (readDocument_of_some hdocument)
    exact ⟨rfl, rfl⟩

theorem effects_announce (h : (announce s config document).run st = (.ok (), st')) :
    st'.effects = (st.disk, st.requests ++ [.publish (serverOf config) document]) := by
  have hsend := (run_send s (serverOf config) document
    { st with out := st.out ++ announcement s ++ "\n" }).1
  rw [announce, run_bind_of_ok (run_info s st)] at h
  rwa [h] at hsend

/-- The removal leaves the disk as it is without the record, however that is told. -/
theorem effects_removeRecord (htrouble : s.removalTrouble = none) (b : Build) (st : State) :
    ((removeRecord s config b).run st).2.effects =
      ((Build.remove s.setting config.buildRoot b st.disk).2, st.requests) := by
  rw [removeRecord, htrouble]
  dsimp only
  rw [run_getDisk_bind]
  cases Build.remove s.setting config.buildRoot b st.disk with
  | mk result disk =>
  cases result with
  | ok => rfl
  | error e =>
    dsimp only
    rw [run_setDisk_bind]
    split
    · exact (keeps_sayBeside s _).effects _
    · exact keeps_crash State.effects _ _

theorem effects_conclude (htrouble : s.removalTrouble = none)
    (h : (conclude s config r).run st = (.ok (), st')) :
    st'.effects = ((Build.remove s.setting config.buildRoot r.build st.disk).2, st.requests) := by
  let message := "Build info successfully deployed. Browse it under " ++
    (serverOf config).browseUrl r.build
  have hsaid : ((success s message).run st).2.effects = st.effects := keeps_sayResult s _ st
  -- What is told changes nothing, and unless it can be told nothing is removed.
  cases htold : (success s message).run st with
  | mk told st₁ =>
  rw [htold] at hsaid
  obtain ⟨hdisk, hrequests⟩ := Prod.mk.inj hsaid
  cases told with
  | error e =>
    rw [conclude, run_bind_of_error htold] at h
    cases h
  | ok =>
    have hremove : ((removeRecord s config r.build).run st₁).2.effects = _ :=
      effects_removeRecord htrouble r.build st₁
    rw [conclude, run_bind_of_ok htold] at h
    rw [h] at hremove
    dsimp only at hdisk hrequests
    rwa [hdisk, hrequests] at hremove

/-! ## The account -/

/-- The document is made from some partials, in the order in which they are listed. -/
def IsMadeFrom (s : Surroundings) (config : Config) (r : Request) (document : Json)
    (es : List (Text × Partial)) : Prop :=
  ∃ started, ∃ listed : List (Text × Partial), listed.Perm es ∧
    listed.Pairwise Ledger.Precedes ∧
    Build.document r.build started (listed.map (·.2)) (r.selection config) s.now.zone =
      .ok document

/-- The disk of a scene is the one of a ledger, and the account that the scene gives of the
    partials is right. -/
structure Scene.Follows (s : Surroundings) (config : Config) (r : Request) (l : Location)
    (first : Nat) (sent : List Build.Request) (d : Scene) (k : Ledger) : Prop where
  holds : (siteOf s config r).Holds l d.state.disk.tree k
  drawn : d.state.disk.drawn = k.drawn
  sound : Ledger.Sound (siteOf s config r) first { k with partials := d.recorded }
  kept : k.partials = d.kept
  unread : d.stage = .ready → d.meanwhile = []
  unremoved : d.stage.isDone = false → d.late = []
  made : ∀ document, d.stage.document? = some document → IsMadeFrom s config r document d.early
  whole : ∀ document, d.stage.document? = some document → r.build.IsWhole
  requests : d.state.requests = sent ++ d.stage.requests config

namespace Scene

variable {first : Nat} {sent : List Build.Request} {d d' : Scene} {k : Ledger} {act : Act}

theorem kept_sublist (d : Scene) : d.kept.Sublist d.recorded := by
  rw [kept, recorded]
  split
  · exact List.sublist_append_right _ _
  · exact List.sublist_append_left _ _

theorem stage_note (d : Scene) (es : List (Text × Partial)) : (d.note es).stage = d.stage := by
  rw [note]
  split <;> rfl

namespace Follows

section

variable (h : d.Follows s config r l first sent k)

include h

theorem sound_ledger : k.Sound (siteOf s config r) first :=
  h.sound.of_sublist (h.kept ▸ d.kept_sublist)

/-- Further partials go to the end of what was recorded, and have files. -/
theorem note (es : List (Text × Partial)) :
    (d.note es).recorded = d.recorded ++ es ∧ (d.note es).kept = d.kept ++ es ∧
      ((d.note es).stage = .ready → (d.note es).meanwhile = []) ∧
      ((d.note es).stage.isDone = false → (d.note es).late = []) ∧
      ∀ document, d.stage.document? = some document → (d.note es).early = d.early := by
  have hunread := h.unread
  have hunremoved := h.unremoved
  rw [d.stage_note]
  -- What is recorded counts as early, meanwhile or late by the stage of the process.
  obtain ⟨st, stage, early, meanwhile, late⟩ := d
  cases stage with
  | ready =>
    obtain rfl : meanwhile = [] := hunread rfl
    obtain rfl : late = [] := hunremoved rfl
    simp [Scene.note, recorded, Scene.kept, Stage.isDone, Stage.document?]
  | holding document =>
    obtain rfl : late = [] := hunremoved rfl
    simp [Scene.note, recorded, Scene.kept, Stage.isDone]
  | accepted document =>
    obtain rfl : late = [] := hunremoved rfl
    simp [Scene.note, recorded, Scene.kept, Stage.isDone]
  | done document => simp [Scene.note, recorded, Scene.kept, Stage.isDone]

/-- What others record goes on the disk and into the account. -/
theorem record {op : Operation} (hop : op ≠ .remove)
    (hsuffix : ∀ i, first ≤ i → i < k.drawn → s.suffix i ≠ s.suffix k.drawn)
    (hstarted : ∀ m, op.start? = some m → Timestamp.parse m.iso = .ok m)
    (hpartial : ∀ p, op.partial? = some p → IsRestored p.toJson) :
    (d.record s config r op).Follows s config r l first sent
      (k.perform (siteOf s config r) op).2 := by
  obtain ⟨hok, hholds, hdrawn⟩ := h.holds.perform h.drawn h.sound_ledger hsuffix op
  have hrecord : d.record s config r op =
      { d.note (k.added (siteOf s config r) op) with
        state := { d.state with disk := ((siteOf s config r).perform op d.state.disk).2 } } := by
    simp only [Scene.record, Ledger.added, hok, h.drawn]
  have hsound := h.sound.perform hsuffix hstarted hpartial
  rw [Ledger.perform_with hop] at hsound
  obtain ⟨hrecorded, hkept, hunread, hunremoved, hearly⟩ :=
    h.note (k.added (siteOf s config r) op)
  rw [hrecord]
  refine ⟨hholds, hdrawn, ?sound, ?kept, hunread, hunremoved, ?made, ?whole, ?requests⟩
  case sound =>
    rw [← hrecorded] at hsound
    exact hsound
  case kept =>
    rw [Ledger.partials_perform hop, h.kept]
    exact hkept.symm
  case made =>
    intro document hdocument
    rw [d.stage_note] at hdocument
    exact hearly document hdocument ▸ h.made document hdocument
  case whole =>
    rw [d.stage_note]
    exact h.whole
  case requests =>
    rw [d.stage_note]
    exact h.requests

/-- The document is made from what was recorded before. -/
theorem read (hstep : step s config r .read d = some d') :
    d'.Follows s config r l first sent k := by
  have hready := stage_of_step_read hstep
  obtain ⟨document, st, hread, rfl⟩ := exists_of_advance ((step_read hready).symm.trans hstep)
  obtain ⟨rfl, hdocument⟩ := document?_of_run hread
  have hunread : d.meanwhile = [] := h.unread hready
  have hunremoved : d.late = [] := h.unremoved (by rw [hready]; rfl)
  have hkept : d.kept = d.early := by
    rw [Scene.kept, hready, hunread]
    exact List.append_nil _
  refine ⟨h.holds, h.drawn, h.sound, ?kept, fun hstage => (nomatch hstage), fun _ => hunremoved,
    ?made, ?whole, ?requests⟩
  case kept =>
    rw [h.kept, hkept]
    change _ = d.early ++ d.meanwhile
    rw [hunread, List.append_nil]
  case made =>
    rintro _ ⟨⟩
    rw [document?] at hdocument
    split at hdocument
    · contradiction
    · next record hrecord =>
      obtain ⟨hstarted, hpartials⟩ := h.holds.record_of_read h.sound_ledger hrecord
      refine ⟨record.started, k.listed, ?_, h.sound_ledger.pairwise_listed, ?_⟩
      · rw [← hkept, ← h.kept]
        exact k.listed_perm
      · rw [← hpartials]
        cases hmade : Build.document r.build record.started record.partials
            (r.selection config) s.now.zone with
        | error e =>
          rw [hmade] at hdocument
          contradiction
        | ok document' =>
          rw [hmade] at hdocument
          exact congrArg _ (Option.some.inj hdocument)
  case whole =>
    rintro _ ⟨⟩
    rw [document?] at hdocument
    split at hdocument
    · contradiction
    · next hrecord => exact isWhole_of_read hrecord
  case requests =>
    have hrequests := h.requests
    rw [hready] at hrequests
    exact hrequests

/-- The document is sent. -/
theorem send (hstep : step s config r .send d = some d') :
    d'.Follows s config r l first sent k := by
  obtain ⟨document, hholding⟩ := stage_of_step_send hstep
  obtain ⟨_, st, hsend, rfl⟩ := exists_of_advance ((step_send hholding).symm.trans hstep)
  obtain ⟨hdisk, hrequests⟩ := Prod.mk.inj (effects_announce hsend)
  have hunremoved : d.late = [] := h.unremoved (by rw [hholding]; rfl)
  refine ⟨hdisk ▸ h.holds, hdisk ▸ h.drawn, h.sound, ?kept, fun hstage => (nomatch hstage),
    fun _ => hunremoved, ?made, ?whole, ?requests⟩
  case kept =>
    rw [h.kept, Scene.kept, hholding]
    rfl
  case made =>
    rintro _ ⟨⟩
    exact h.made document (by rw [hholding]; rfl)
  case whole =>
    exact fun _ _ => h.whole document (by rw [hholding]; rfl)
  case requests =>
    have hbefore := h.requests
    rw [hholding] at hbefore
    rw [hrequests, hbefore]
    exact congrArg (· ++ _) (List.append_nil sent)

/-- With the record go all partials that were recorded. -/
theorem remove (htrouble : s.removalTrouble = none)
    (hstep : step s config r .remove d = some d') :
    d'.Follows s config r l first sent { k with started := none, partials := [] } := by
  obtain ⟨document, haccepted⟩ := stage_of_step_remove hstep
  obtain ⟨_, st, hremove, rfl⟩ := exists_of_advance ((step_remove haccepted).symm.trans hstep)
  obtain ⟨hdisk, hrequests⟩ := Prod.mk.inj (effects_conclude htrouble hremove)
  have hwhole : r.build.IsWhole := h.whole document (by rw [haccepted]; rfl)
  obtain ⟨_, hholds, hdrawn⟩ := h.holds.remove hwhole s.now s.millis
  have hunremoved : d.late = [] := h.unremoved (by rw [haccepted]; rfl)
  refine ⟨?holds, ?drawn, ?sound, hunremoved.symm, fun hstage => (nomatch hstage),
    fun hstage => (nomatch hstage), ?made, fun _ _ => hwhole, ?requests⟩
  case holds =>
    rw [hdisk]
    exact hholds
  case drawn =>
    rw [hdisk]
    exact hdrawn.trans h.drawn
  case sound =>
    exact ⟨fun _ hm => (nomatch hm), h.sound.restored, h.sound.drawn, h.sound.name, h.sound.short,
      h.sound.nodup⟩
  case made =>
    rintro _ ⟨⟩
    exact h.made document (by rw [haccepted]; rfl)
  case requests =>
    have hbefore := h.requests
    rw [haccepted] at hbefore
    exact hrequests.trans hbefore

end

/-- Every act keeps the account, and draws one suffix at most. -/
theorem step {act : Act} (h : d.Follows s config r l first sent k)
    (htrouble : s.removalTrouble = none)
    (hsuffix : ∀ i, first ≤ i → i < k.drawn → s.suffix i ≠ s.suffix k.drawn)
    (hstarted : ∀ op, act.operation? = some op →
      ∀ m, op.start? = some m → Timestamp.parse m.iso = .ok m)
    (hpartial : ∀ op, act.operation? = some op →
      ∀ p, op.partial? = some p → IsRestored p.toJson)
    (hstep : Scene.step s config r act d = some d') :
    ∃ k' : Ledger, d'.Follows s config r l first sent k' ∧ k.drawn ≤ k'.drawn ∧
      k'.drawn ≤ k.drawn + 1 := by
  cases act with
  | record op hop =>
    obtain rfl := Option.some.inj hstep
    exact ⟨_, h.record hop hsuffix (hstarted op rfl) (hpartial op rfl),
      Ledger.drawn_perform _ op k⟩
  | read => exact ⟨k, h.read hstep, Nat.le_refl _, Nat.le_succ _⟩
  | send => exact ⟨k, h.send hstep, Nat.le_refl _, Nat.le_succ _⟩
  | remove => exact ⟨_, h.remove htrouble hstep, Nat.le_refl _, Nat.le_succ _⟩

/-- Acts one after the other keep the account, in whatever order they come. -/
theorem run {acts : List Act} {bound : Nat} (h : d.Follows s config r l first sent k)
    (htrouble : s.removalTrouble = none) (hbound : k.drawn + acts.length ≤ bound)
    (hsuffix : ∀ i j, first ≤ i → i < j → j < bound → s.suffix i ≠ s.suffix j)
    (hstarted : ∀ op ∈ acts.filterMap Act.operation?,
      ∀ m, op.start? = some m → Timestamp.parse m.iso = .ok m)
    (hpartial : ∀ op ∈ acts.filterMap Act.operation?,
      ∀ p, op.partial? = some p → IsRestored p.toJson)
    (hrun : Scene.run s config r acts d = some d') :
    ∃ k', d'.Follows s config r l first sent k' := by
  induction acts generalizing d k with
  | nil =>
    obtain rfl := Option.some.inj hrun
    exact ⟨k, h⟩
  | cons act acts ih =>
    rw [List.length_cons] at hbound
    obtain ⟨d₁, hstep, hrest⟩ := Option.bind_eq_some_iff.1 hrun
    have hmem (op : Operation) (hop : act.operation? = some op) :
        op ∈ (act :: acts).filterMap Act.operation? :=
      List.mem_filterMap.2 ⟨act, List.mem_cons_self, hop⟩
    have hrestmem (op : Operation) (hop : op ∈ acts.filterMap Act.operation?) :
        op ∈ (act :: acts).filterMap Act.operation? :=
      (List.sublist_cons_self act acts).filterMap _ |>.subset hop
    -- One suffix is drawn at most, so the bound holds for the acts that are left.
    obtain ⟨k₁, h₁, _, hdrawn⟩ := h.step htrouble
      (fun i hi hlt => hsuffix i k.drawn hi hlt (by omega))
      (fun op hop => hstarted op (hmem op hop)) (fun op hop => hpartial op (hmem op hop)) hstep
    exact ih h₁ (by omega) (fun op hop => hstarted op (hrestmem op hop))
      (fun op hop => hpartial op (hrestmem op hop)) hrest

end Follows

/-- Where a run starts, the account is the ledger of what was done before. -/
theorem follows_opening (hholds : (siteOf s config r).Holds l st.disk.tree k)
    (hdrawn : st.disk.drawn = k.drawn) (hk : k.Sound (siteOf s config r) first) :
    (opening st k.partials).Follows s config r l first st.requests k where
  holds := hholds
  drawn := hdrawn
  sound := by
    have hrecorded : (opening st k.partials).recorded = k.partials := by simp [recorded, opening]
    rw [hrecorded]
    exact hk
  kept := by simp [kept, opening, Stage.isDone]
  unread := fun _ => rfl
  unremoved := fun _ => rfl
  made := fun _ hdocument => nomatch hdocument
  whole := fun _ hdocument => nomatch hdocument
  requests := (List.append_nil _).symm

end Scene

/-! ## What is kept -/

/-- There is a file for a partial in the folder of the build. -/
def IsOnDisk (site : Site) (l : Location) (t : Tree) (e : Text × Partial) : Prop :=
  t.lookup (site.place l ++ [partialsName, e.1]) = some (.file (written e.2.toJson))

/-- The disk has files for just the partials that should be there. -/
theorem Scene.Follows.isOnDisk_iff {first : Nat} {sent : List Build.Request} {d : Scene}
    {k : Ledger} (h : d.Follows s config r l first sent k) {e : Text × Partial}
    (he : e ∈ d.recorded) :
    IsOnDisk (siteOf s config r) l d.state.disk.tree e ↔ e ∈ d.kept := by
  rw [IsOnDisk, h.holds.file, ← h.kept]
  constructor
  · intro hfile
    obtain ⟨p, hp, -⟩ := Option.map_eq_some_iff.1 hfile
    have hname : e.1 ∈ k.partials.map (·.1) := by
      by_contra hname
      cases (Ledger.file?_eq_none_iff.2 hname).symm.trans hp
    obtain ⟨e', he', hsame⟩ := List.mem_map.1 hname
    have hrecorded : e' ∈ d.recorded := d.kept_sublist.subset (h.kept ▸ he')
    exact List.inj_on_of_nodup_map h.sound.nodup hrecorded he hsame ▸ he'
  · intro hmem
    rw [h.sound_ledger.file?_of_mem hmem]
    rfl

/-- A build is published while others record partials for it, in any number, before, between
    and after the steps of the run.

    One request was sent, and it carries a document that is made from the partials that were
    recorded before it was made: each once, in the order of timestamps and file names. Those
    that were recorded once the record was removed have their files on the disk, and no others have. So nothing is
    lost just when nothing was recorded in between. -/
theorem publish_beside_others {history : List Operation} {acts : List Act} {d : Scene}
    {drawn : Nat} (hfresh : (siteOf s config r).IsFresh l t)
    (hsuffix : ∀ i j, drawn ≤ i → i < j → j < drawn + (history.length + acts.length) →
      s.suffix i ≠ s.suffix j)
    (hstarted : ∀ op ∈ history ++ acts.filterMap Act.operation?,
      ∀ m, op.start? = some m → Timestamp.parse m.iso = .ok m)
    (hpartial : ∀ op ∈ history ++ acts.filterMap Act.operation?,
      ∀ p, op.partial? = some p → IsRestored p.toJson)
    (htrouble : s.removalTrouble = none)
    (hdisk : st.disk = ((siteOf s config r).run history ⟨t, drawn⟩).2)
    (hrun : Scene.run s config r acts
      (.opening st (Ledger.run (siteOf s config r) history ⟨none, [], drawn⟩).2.partials) = some d)
    (hdone : d.stage = .done document) :
    ∃ started, ∃ listed : List (Text × Partial),
      (∃ request, d.state.requests = st.requests ++ [request] ∧
        request = .publish (serverOf config) document ∧
        Carries (serverOf config) document request) ∧
      Build.document r.build started (listed.map (·.2)) (r.selection config) s.now.zone =
        .ok document ∧
      listed.Perm d.early ∧ listed.Pairwise Ledger.Precedes ∧
      (∀ e ∈ d.recorded, IsOnDisk (siteOf s config r) l d.state.disk.tree e ↔ e ∈ d.late) ∧
      ((∀ e ∈ d.recorded,
        e ∈ listed ∨ IsOnDisk (siteOf s config r) l d.state.disk.tree e) ↔ d.meanwhile = []) := by
  -- Disk and account agree when the run starts, and so they do at its end.
  obtain ⟨⟨_, hholds, hsound⟩, hdrawn, hcount⟩ := (hfresh.holds drawn).run_drawn (d := ⟨t, drawn⟩)
    rfl (Ledger.sound_empty _ drawn) (Nat.add_le_add_left (Nat.le_add_right ..) drawn) hsuffix
    (fun op hop => hstarted op (List.mem_append_left _ hop))
    (fun op hop => hpartial op (List.mem_append_left _ hop))
  rw [← hdisk] at hholds hdrawn
  obtain ⟨k, h⟩ := (Scene.follows_opening hholds hdrawn hsound).run htrouble
    (by dsimp only at hcount; omega) hsuffix
    (fun op hop => hstarted op (List.mem_append_right _ hop))
    (fun op hop => hpartial op (List.mem_append_right _ hop)) hrun
  obtain ⟨started, listed, hperm, hsorted, hdocument⟩ := h.made document (by rw [hdone]; rfl)
  have hkept : d.kept = d.late := by rw [Scene.kept, hdone]; rfl
  have honDisk (e : Text × Partial) (he : e ∈ d.recorded) :
      IsOnDisk (siteOf s config r) l d.state.disk.tree e ↔ e ∈ d.late :=
    hkept ▸ h.isOnDisk_iff he
  have hnodup : d.recorded.Nodup := List.Nodup.of_map _ h.sound.nodup
  refine ⟨started, listed, ?requests, hdocument, hperm, hsorted, honDisk, fun hall => ?_,
    fun hnone e he => ?_⟩
  case requests =>
    have hrequests := h.requests
    rw [hdone] at hrequests
    exact ⟨_, hrequests, rfl, carries_publish _ _⟩
  · -- What was recorded in between is neither early nor late.
    refine List.eq_nil_iff_forall_not_mem.2 fun e he => ?_
    have hmem : e ∈ d.early ++ d.meanwhile := List.mem_append_right _ he
    rw [Scene.recorded, List.nodup_append, List.nodup_append] at hnodup
    rcases hall e (List.mem_append_left _ hmem) with hlisted | hfile
    · exact hnodup.1.2.2 e (hperm.mem_iff.1 hlisted) e he rfl
    · exact hnodup.2.2 e hmem e ((honDisk e (List.mem_append_left _ hmem)).1 hfile) rfl
  · rw [hperm.mem_iff, honDisk e he, ← List.mem_append]
    rwa [Scene.recorded, hnone, List.append_nil] at he

theorem publish_beside_others_three :
    let s : Surroundings := {
      here := []
      environment := []
      now := (⟨⟨2024, 1, 2⟩, 3, 4, 5, 0, none⟩ : Time.Timestamp)
      millis := 0
      suffix := Text.ofNat
      reply := .answer 204 [] }
    let config : Config := { serverUrl := some "http://h", buildRoot := ⟨['/'], ["builds"]⟩ }
    let r : Request := ⟨⟨"app", "1"⟩, none, none, false⟩
    let site := siteOf s config r
    let t : Tree := ⟨[(["builds"], .folder)]⟩
    let early : Operation := .saveEnv s.now 20 [("A", "b")]
    let meanwhile : Operation := .savePartial s.now ⟨10, some [], none, none⟩
    let late : Operation := .saveEnv s.now 30 [("C", "d")]
    let acts : List Act := [.record early nofun, .read, .record meanwhile nofun, .send, .remove,
      .record late nofun]
    let st : State := { disk := ⟨t, 0⟩ }
    let names : List (List Text) := [["20-0.json"], ["10-1.json"], ["30-2.json"]]
    site.IsFresh ["builds"] t ∧ ∃ d document,
      Scene.run s config r acts (.opening st []) = some d ∧ d.stage = .done document ∧
      [d.early, d.meanwhile, d.late].map (·.map (·.1)) = names ∧
      (∃ started, ∃ listed : List (Text × Partial),
        d.state.requests = [.publish (serverOf config) document] ∧
        Build.document r.build started (listed.map (·.2)) (r.selection config) s.now.zone =
          .ok document ∧
        listed.map (·.1) = ["20-0.json"]) ∧
      ∀ e ∈ d.recorded, IsOnDisk site ["builds"] d.state.disk.tree e ↔ e ∈ d.late := by
  intro s config r site t early meanwhile late acts st names
  have hrun : (Scene.run s config r acts (.opening st [])).any fun d =>
      d.stage.isDone ∧ [d.early, d.meanwhile, d.late].map (·.map (·.1)) = names := by
    decide +kernel
  obtain ⟨d, hd, hfacts⟩ := (Option.any_eq_true _ _).1 hrun
  obtain ⟨hdone, hnames⟩ := of_decide_eq_true hfacts
  obtain ⟨document, hdocument⟩ : ∃ document, d.stage = .done document := by
    cases hstage : d.stage with
    | done document => exact ⟨document, rfl⟩
    | _ => cases hstage ▸ hdone
  have hfresh : site.IsFresh ["builds"] t := by
    refine ⟨List.nodup_singleton _, by decide +kernel, by decide +kernel, fun l' hl => ?_⟩
    obtain ⟨rest, rfl⟩ := hl
    rfl
  have hsuffix : ∀ j < 6, ∀ i < j, s.suffix i ≠ s.suffix j := by decide
  have hpresent : present? s.now = some { s.now.shows with offset := some 0 } := rfl
  have hmoment : ∀ m, present? s.now = some m → Timestamp.parse m.iso = .ok m := by
    intro m hm
    rw [hpresent] at hm
    cases hm
    decide +kernel
  have hearly : ∀ p, early.partial? = some p → IsRestored p.toJson := by
    rintro p ⟨⟩
    refine isRestored_toJson rfl (.int (by decide)) (fun _ h => nomatch h) (fun _ h => nomatch h) ?_
    rintro ms ⟨⟩
    exact .object (by decide) (by decide) (List.forall_mem_singleton.2 (.text (by decide)))
  have hmeanwhile : ∀ p, meanwhile.partial? = some p → IsRestored p.toJson := by
    rintro p ⟨⟩
    refine isRestored_toJson rfl (.int (by decide)) ?_ (fun _ h => nomatch h) (fun _ h => nomatch h)
    rintro vs ⟨⟩
    exact .list (List.forall_mem_nil _)
  have hlate : ∀ p, late.partial? = some p → IsRestored p.toJson := by
    rintro p ⟨⟩
    refine isRestored_toJson rfl (.int (by decide)) (fun _ h => nomatch h) (fun _ h => nomatch h) ?_
    rintro ms ⟨⟩
    exact .object (by decide) (by decide) (List.forall_mem_singleton.2 (.text (by decide)))
  have hops : [] ++ acts.filterMap Act.operation? = [early, meanwhile, late] := rfl
  have hmoments : ∀ op ∈ [] ++ acts.filterMap Act.operation?,
      ∀ m, op.start? = some m → Timestamp.parse m.iso = .ok m := by
    rw [hops]
    exact List.forall_mem_cons.2 ⟨hmoment, List.forall_mem_cons.2 ⟨hmoment,
      List.forall_mem_singleton.2 hmoment⟩⟩
  have hrestored : ∀ op ∈ [] ++ acts.filterMap Act.operation?,
      ∀ p, op.partial? = some p → IsRestored p.toJson := by
    rw [hops]
    exact List.forall_mem_cons.2 ⟨hearly, List.forall_mem_cons.2 ⟨hmeanwhile,
      List.forall_mem_singleton.2 hlate⟩⟩
  have hbound : ∀ i j, 0 ≤ i → i < j → j < 0 + (0 + acts.length) → s.suffix i ≠ s.suffix j :=
    fun i j _ hij hj => hsuffix j hj i hij
  have hdisk : st.disk = (site.run [] ⟨t, 0⟩).2 := rfl
  have hunsent : st.requests = [] := rfl
  have htrouble : s.removalTrouble = none := rfl
  have hearlyNames : d.early.map (·.1) = [("20-0.json" : Text)] := (List.cons.inj hnames).1
  -- From here on nothing is evaluated.
  clear_value st acts early t r config s
  obtain ⟨started, listed, ⟨request, hsent, rfl, _⟩, hmade, hperm, _, hfiles, _⟩ :=
    publish_beside_others hfresh hbound hmoments hrestored htrouble hdisk hd hdocument
  rw [hunsent, List.nil_append] at hsent
  exact ⟨hfresh, d, document, hd, hdocument, hnames, ⟨started, listed, hsent, hmade,
    List.perm_singleton.1 (hearlyNames ▸ hperm.map (·.1))⟩, hfiles⟩

/-- A partial that is recorded between is lost: it is not in the document, and no file is
    left. -/
theorem publish_loses_between :
    let s : Surroundings := {
      here := []
      environment := []
      now := (⟨⟨2024, 1, 2⟩, 3, 4, 5, 0, none⟩ : Time.Timestamp)
      millis := 0
      suffix := Text.ofNat
      reply := .answer 204 [] }
    let config : Config := { serverUrl := some "http://h", buildRoot := ⟨['/'], ["builds"]⟩ }
    let r : Request := ⟨⟨"app", "1"⟩, none, none, false⟩
    let t : Tree := ⟨[(["builds"], .folder)]⟩
    let early : Operation := .saveEnv s.now 10 [("A", "b")]
    let meanwhile : Operation := .saveEnv s.now 20 [("C", "d")]
    let sent : List (Text × Json) := [("buildInfo.env.A", .text "b")]
    let lost : List (Text × Json) := [("buildInfo.env.C", .text "d")]
    let document := documentOf r.build "2024-01-02T03:04:05.000+0000" ⟨[], [], sent⟩
    ∃ d, Scene.run s config r [.record early nofun, .read, .record meanwhile nofun, .send, .remove]
        (.opening { disk := ⟨t, 0⟩ } []) = some d ∧ d.stage.isDone ∧
      d.recorded.map (·.2.env) = [some sent, some lost] ∧
      d.state.requests = [.publish (serverOf config) document] ∧
      d.state.disk.tree.entries = t.entries := by
  intro s config r t early meanwhile sent lost document
  have hrun : (Scene.run s config r [.record early nofun, .read, .record meanwhile nofun, .send,
      .remove] (.opening { disk := ⟨t, 0⟩ } [])).any fun d =>
        d.stage.isDone ∧ d.recorded.map (·.2.env) = [some sent, some lost] ∧
          d.state.requests = [.publish (serverOf config) document] ∧
          d.state.disk.tree.entries = t.entries := by
    decide +kernel
  obtain ⟨d, hd, hfacts⟩ := (Option.any_eq_true _ _).1 hrun
  exact ⟨d, hd, of_decide_eq_true hfacts⟩

end Depot.Command.Publish
