import Depot.Command.Group
import Depot.Proofs.Json.Printing
import Depot.Proofs.Text.Halves
import Mathlib.Data.List.Nodup

/-!
# What the steps of a run leave as it is

Most steps of a run print and do nothing else. `Keeps view a` says that a part of the
state is the same after the action `a`, however the action ends. It goes through a
sequence of actions (`Keeps.bind`), so that it is told once for each kind of step:

* messages beside the results keep the files, the requests and the results
  (`State.results`);
* results keep the files and the requests (`State.effects`).

An action that tells an error and ends the run is never a success (`Fails`). A message
that can be shown is printed, and nothing else is done (`run_sayBeside`, `run_sayResult`).
-/

namespace Depot.Command

open CommandLine

variable {α β γ : Type} {a : Action α} {f : α → Action β} {view : State → γ} {st : State}

/-! ## Sequences of actions -/

/-- An action after another one goes on where that has ended, and not at all where it has
    stopped the run. -/
theorem run_bind (a : Action α) (f : α → Action β) (st : State) :
    (a >>= f).run st =
      match a.run st with
      | (.ok x, st) => (f x).run st
      | (.error e, st) => (.error e, st) := by
  change (match a.run st with
    | (r, st) => (ExceptT.bindCont f r : StateM State (Except Stop β)) st) = _
  rcases a.run st with ⟨_ | _, st'⟩
  · rfl
  · rfl

theorem run_bind_of_ok {x : α} {st' : State} (h : a.run st = (.ok x, st')) (f : α → Action β) :
    (a >>= f).run st = (f x).run st' := by
  rw [run_bind, h]

theorem run_bind_of_error {e : Stop} {st' : State} (h : a.run st = (.error e, st'))
    (f : α → Action β) : (a >>= f).run st = (.error e, st') := by
  rw [run_bind, h]

theorem run_getDisk_bind (f : Build.Disk → Action β) (st : State) :
    (getDisk >>= f).run st = (f st.disk).run st := rfl

theorem run_modify_bind (g : State → State) (f : PUnit → Action β) (st : State) :
    (modify g >>= f).run st = (f ⟨⟩).run (g st) := rfl

theorem run_setDisk_bind (d : Build.Disk) (f : Unit → Action β) (st : State) :
    (setDisk d >>= f).run st = (f ()).run { st with disk := d } := rfl

theorem run_setTree_bind (t : Files.Tree) (f : Unit → Action β) (st : State) :
    (setTree t >>= f).run st = (f ()).run { st with disk := { st.disk with tree := t } } := rfl

/-- What `view` shows of the state is the same after the action. -/
def Keeps (view : State → γ) (a : Action α) : Prop := ∀ st, view (a.run st).2 = view st

theorem Keeps.bind (ha : Keeps view a) (hf : ∀ x, Keeps view (f x)) : Keeps view (a >>= f) := by
  intro st
  have hst := ha st
  rw [run_bind]
  generalize a.run st = r at hst ⊢
  obtain ⟨e | x, st'⟩ := r
  · exact hst
  · exact (hf x st').trans hst

theorem keeps_pure (view : State → γ) (x : α) : Keeps view (pure x) := fun _ => rfl

theorem keeps_getDisk (view : State → γ) : Keeps view getDisk := fun _ => rfl

theorem keeps_exit (view : State → γ) (code : Nat) : Keeps view (exit code : Action α) :=
  fun _ => rfl

theorem keeps_crash (view : State → γ) (c : Crash) : Keeps view (crash c : Action α) :=
  fun _ => rfl

theorem Keeps.forM {δ : Type} {g : δ → Action PUnit} (h : ∀ x, Keeps view (g x)) (xs : List δ) :
    Keeps view (xs.forM g) := by
  induction xs with
  | nil => exact keeps_pure view _
  | cons x xs ih => exact (h x).bind fun _ => ih

/-- The files and the requests. -/
def State.effects (st : State) : Build.Disk × List Build.Request := (st.disk, st.requests)

/-- The files, the requests and what was printed as a result. -/
def State.results (st : State) : Build.Disk × List Build.Request × Text :=
  (st.disk, st.requests, st.out)

theorem State.effects_of_results {disk : Build.Disk} {requests : List Build.Request} {out : Text}
    (h : st.results = (disk, requests, out)) : st.effects = (disk, requests) := by
  obtain ⟨hdisk, hrest⟩ := Prod.mk.inj h
  obtain ⟨hrequests, _⟩ := Prod.mk.inj hrest
  rw [State.effects, hdisk, hrequests]

theorem Keeps.effects (h : Keeps State.results a) : Keeps State.effects a :=
  fun st => State.effects_of_results (h st)

/-! ## Ends of runs -/

/-- The exit code of a run that ends like this. -/
def exitCode : Except Stop α → Nat
  | .ok _ => 0
  | .error (.exit code) => code
  | .error (.crash _) => 1

/-- The trouble that ends a run like this, if one does. -/
def crash? : Except Stop α → Option Crash
  | .error (.crash c) => some c
  | _ => none

/-- The action ends the run only by a trouble that is not expected. -/
def NeverExits (a : Action α) : Prop := ∀ st code, (a.run st).1 ≠ .error (.exit code)

/-- The action ends the run, and not as a success. -/
def Fails (a : Action α) : Prop := ∀ st, exitCode (a.run st).1 ≠ 0

theorem neverExits_pure (x : α) : NeverExits (pure x) := fun _ _ h => nomatch h

theorem neverExits_crash (c : Crash) : NeverExits (crash c : Action α) := fun _ _ h => nomatch h

theorem NeverExits.bind (ha : NeverExits a) (hf : ∀ x, NeverExits (f x)) :
    NeverExits (a >>= f) := by
  intro st code
  have hst := ha st
  rw [run_bind]
  generalize a.run st = r at hst ⊢
  obtain ⟨e | x, st'⟩ := r
  · exact fun h => hst code (congrArg Except.error (Except.error.inj h))
  · exact hf x st' code

theorem fails_exit {code : Nat} (h : code ≠ 0) : Fails (exit code : Action α) := fun _ => h

theorem fails_crash (c : Crash) : Fails (crash c : Action α) := fun _ => Nat.one_ne_zero

theorem Fails.bind (ha : NeverExits a) (hf : ∀ x, Fails (f x)) : Fails (a >>= f) := by
  intro st
  have hst := ha st
  rw [run_bind]
  generalize a.run st = r at hst ⊢
  obtain ⟨(code | c) | x, st'⟩ := r
  · exact absurd rfl (hst code)
  · exact Nat.one_ne_zero
  · exact hf x st'

/-- Nothing comes after an action that has failed. -/
theorem run_bind_of_exitCode_ne_zero (h : exitCode (a.run st).1 ≠ 0) (f : α → Action β) :
    exitCode ((a >>= f).run st).1 = exitCode (a.run st).1 ∧
      ((a >>= f).run st).2 = (a.run st).2 := by
  rw [run_bind]
  generalize a.run st = r at h ⊢
  obtain ⟨(code | c) | x, st'⟩ := r
  · exact ⟨rfl, rfl⟩
  · exact ⟨rfl, rfl⟩
  · exact absurd rfl h

/-! ## Printing -/

theorem keeps_printError (t : Text) : Keeps State.results (printError t) := fun _ => rfl

theorem neverExits_printError (t : Text) : NeverExits (printError t) := fun _ _ h => nomatch h

theorem keeps_shown (s : Surroundings) (message : Text) :
    Keeps State.results (shown s message) := by
  rw [shown]
  split
  · exact keeps_pure _ _
  · exact (keeps_printError _).bind fun _ => keeps_crash _ _

theorem neverExits_shown (s : Surroundings) (message : Text) : NeverExits (shown s message) := by
  rw [shown]
  split
  · exact neverExits_pure _
  · exact (neverExits_printError _).bind fun _ => neverExits_crash _

theorem keeps_sayBeside (s : Surroundings) (message : Text) :
    Keeps State.results (sayBeside s message) :=
  (keeps_shown s message).bind fun _ => keeps_printError _

theorem neverExits_sayBeside (s : Surroundings) (message : Text) :
    NeverExits (sayBeside s message) :=
  (neverExits_shown s message).bind fun _ => neverExits_printError _

theorem keeps_printLine (t : Text) : Keeps State.effects (printLine t) := by
  rw [printLine]
  split
  · exact keeps_crash _ _
  · exact fun _ => rfl

theorem keeps_echo (t : Text) : Keeps State.effects (echo t) := keeps_printLine _

theorem keeps_sayResult (s : Surroundings) (message : Text) :
    Keeps State.effects (sayResult s message) :=
  (keeps_shown s message).effects.bind fun _ => keeps_printLine _

/-- Telling an error ends no run by itself; the exit code does. -/
theorem fails_error (s : Surroundings) (message : Text) {next : Action α} (h : Fails next) :
    Fails (error s message >>= fun _ => next) :=
  Fails.bind (neverExits_sayBeside s _) fun _ => h

/-- Telling an error and ending the run. -/
theorem keeps_error_exit (s : Surroundings) (message : Text) (code : Nat) :
    Keeps State.results (error s message >>= fun _ => (exit code : Action α)) :=
  (keeps_sayBeside s _).bind fun _ => keeps_exit _ _

theorem fails_error_exit (s : Surroundings) (message : Text) {code : Nat} (h : code ≠ 0) :
    Fails (error s message >>= fun _ => (exit code : Action α)) :=
  fails_error s message (fails_exit h)

/-- A text without halves of surrogate pairs is printed beside the results as it is. -/
theorem flatMap_besideResults {t : Text} (h : t.IsWhole) : t.flatMap besideResults = t := by
  have hsingle : t.flatMap besideResults = t.flatMap fun c => [c] :=
    List.flatMap_congr fun c hc => by
      rw [besideResults, h c hc]
      rfl
  rw [hsingle, List.flatMap_singleton']

/-- What is shown of a message is printed beside the results. -/
theorem run_sayBeside {s : Surroundings} {message t : Text}
    (h : Console.plain s.columns message = .ok t) (st : State) :
    (sayBeside s message).run st =
      (.ok (), { st with err := st.err ++ (t ++ "\n").flatMap besideResults }) := by
  rw [sayBeside, shown, h]
  rfl

theorem run_printLine {t : Text} (h : t.IsWhole) (st : State) :
    (printLine t).run st = (.ok (), { st with out := st.out ++ t ++ "\n" }) := by
  rw [printLine, Text.any_isHalf_eq_false_iff.2 h]
  rfl

/-- What is printed of a message as a result, if it can be: its tags have to be in order, and
    half of a surrogate pair cannot be printed. -/
def told? (s : Surroundings) (message : Text) : Option Text :=
  (Console.plain s.columns message).toOption.filter fun t => !t.any CodePoint.isHalf

theorem told?_eq_some_iff {s : Surroundings} {message t : Text} :
    told? s message = some t ↔ Console.plain s.columns message = .ok t ∧ t.IsWhole := by
  rw [told?, Option.filter_eq_some_iff, Bool.not_eq_true', Text.any_isHalf_eq_false_iff]
  cases Console.plain s.columns message <;> simp [Except.toOption]

theorem run_sayResult {s : Surroundings} {message t : Text} (h : told? s message = some t)
    (st : State) :
    (sayResult s message).run st = (.ok (), { st with out := st.out ++ t ++ "\n" }) := by
  obtain ⟨hplain, hwhole⟩ := told?_eq_some_iff.1 h
  rw [sayResult, shown, hplain]
  exact run_printLine hwhole st

/-- A message that cannot be told ends the run. -/
theorem exitCode_sayResult_of_none {s : Surroundings} {message : Text}
    (h : told? s message = none) (st : State) : exitCode ((sayResult s message).run st).1 = 1 := by
  rw [sayResult, shown]
  cases hplain : Console.plain s.columns message with
  | error fault => rfl
  | ok t =>
    have hhalf : t.any CodePoint.isHalf = true := by
      rw [told?, hplain, Option.filter_eq_none_iff] at h
      simpa using h t rfl
    change exitCode ((printLine t).run st).1 = 1
    rw [printLine, hhalf]
    rfl

/-- JSON is printed as it is. -/
theorem run_echo_render (v : Json) (st : State) :
    (echo (v.render .indented)).run st =
      (.ok (), { st with out := st.out ++ v.render .indented ++ "\n" }) := by
  have hprinted := Json.isPrinted_render (l := .indented) (by decide) (by decide) v
  have hescape : Console.escape ∉ v.render .indented := fun hmem =>
    absurd (hprinted _ hmem) (by decide)
  have hhalf : (v.render .indented).any CodePoint.isHalf = false :=
    List.any_eq_false.2 fun c hc => by simp [hprinted.isHalf_eq_false c hc]
  rw [echo, Console.withoutSequences_of_no_escape hescape, printLine, hhalf]
  rfl

/-! ## Starting a run -/

section

variable {words : List Text} {c c' : Command} {g : Given} {rest : List Text} {asked : Asked}

/-- The switches of the program ask for pages alone. -/
theorem asked_of_readGroup (h : readGroup words = .ok (g, some asked)) :
    asked = .page ∨ asked = .version := by
  rw [readGroup] at h
  split at h
  · contradiction
  · next g' _ =>
    simp only at h
    split at h
    · contradiction
    · obtain ⟨o, _, ho⟩ := List.exists_of_findSome?_eq_some (Prod.mk.inj (Except.ok.inj h)).2
      split at ho
      · exact .inl (Option.some.inj ho).symm
      · split at ho
        · exact .inr (Option.some.inj ho).symm
        · contradiction

theorem mem_commands_of_ask (h : ask words = .ok (.command c g rest)) : c ∈ commands := by
  have hswitch {ws : List Text} {g' : Given} {asked : Asked}
      (hasked : readGroup ws = .ok (g', some asked)) (h : asked = .command c g rest) :
      c ∈ commands := by
    rcases asked_of_readGroup hasked with rfl | rfl
    · contradiction
    · contradiction
  -- The switches never ask for a command, so it is one that was found by its name.
  rw [ask] at h
  split at h
  · contradiction
  · next hasked => exact hswitch hasked (Except.ok.inj h)
  split at h
  · contradiction
  split at h
  · next hfound =>
    cases h
    exact List.mem_of_find?_eq_some hfound
  split at h
  · contradiction
  · next hasked => exact hswitch hasked (Except.ok.inj h)
  · contradiction

/-- The names of the commands are distinct. -/
theorem eq_of_mem_commands (h : c ∈ commands) (h' : c' ∈ commands) (hname : c.name = c'.name) :
    c = c' := by
  have hnodup : (commands.map (·.name)).Nodup := by decide
  exact List.inj_on_of_nodup_map hnodup h h' hname

end

theorem keeps_refuseUsage (program usage : Text) (e : UsageError) :
    Keeps State.results (refuseUsage program usage e : Action α) := by
  unfold refuseUsage
  split
  · exact keeps_crash _ _
  · exact (keeps_printError _).bind fun _ => keeps_exit _ _

theorem keeps_loadConfig (s : Surroundings) (g : Given) : Keeps State.results (loadConfig s g) := by
  refine (keeps_getDisk _).bind fun disk => ?_
  simp only
  split
  · exact keeps_pure _ _
  · split
    · exact (keeps_sayBeside s _).bind fun _ => (keeps_sayBeside s _).bind fun _ => keeps_exit _ _
    · exact keeps_crash _ _

/-- Before a command runs, nothing is done but to tell what looks wrong. -/
theorem keeps_prepare (s : Surroundings) (g : Given) (c : Command) :
    Keeps State.results (prepare s g c) := by
  refine Keeps.bind (fun _ => rfl) fun _ => (keeps_loadConfig s g).bind fun loaded => ?_
  obtain ⟨config, warnings⟩ := loaded
  simp only
  split
  · exact (Keeps.forM (fun _ => keeps_sayBeside s _) warnings).bind fun _ => keeps_pure _ _
  · exact keeps_pure _ _

theorem keeps_answerShell (s : Surroundings) (shape : Shape) (inner : List (Text × Shape))
    (q : Shell.Question) : Keeps State.effects (answerShell s shape inner q) := by
  cases q with
  | unknown => exact keeps_exit _ _
  | script shell => exact keeps_echo _
  | proposals shell =>
    rw [answerShell]
    split
    · exact keeps_crash _ _
    · exact keeps_echo _

/-- A configuration in which nothing looks wrong is loaded without a word. -/
theorem run_prepare_of_no_warnings {s : Surroundings} {g : Given} {disk : Build.Disk}
    {config : Config} (c : Command)
    (h : ((loadConfig s g).run { disk := disk }).1 = .ok (config, [])) :
    (prepare s g c).run { disk := disk } =
      (.ok { config := some config, verbose := g.isOn "verbose" false || g.isOn "debug" false },
        { disk := disk, logged := g.isOn "debug" false }) := by
  have hload (st : State) (hst : st.disk = disk) :
      (loadConfig s g).run st = (.ok (config, []), st) := by
    rw [loadConfig, run_getDisk_bind] at h ⊢
    rw [hst]
    simp only at h ⊢
    split
    · next loaded hloaded =>
      rw [hloaded] at h
      exact congrArg (·, st) h
    · next e he =>
      rw [he] at h
      simp only at h
      -- A configuration that is not loaded ends the run, told or not.
      have hfails : Fails (if isTold e then do
          error s e.message
          hint s "Fix the file or regenerate it with 'artq init-config --force'"
          exit 1
        else crash (.config e) : Action (Config × List Config.Warning)) := by
        split
        · exact fails_error s _
            (Fails.bind (neverExits_sayBeside s _) fun _ => fails_exit (by decide))
        · exact fails_crash _
      exact absurd (congrArg exitCode h) (hfails _)
  rw [prepare, run_modify_bind, run_bind_of_ok (hload _ rfl)]
  simp only
  split <;> rfl

/-- Words that can be read and ask for no page bring a command to what it does. -/
theorem run_call {c : Command} {s : Surroundings} {context : Context} {words : List Text}
    {given : Given} {st : State} (name : Text)
    (hread : c.shape.read (isFolder s st.disk.tree) words = .ok given)
    (hhelp : given.has helpSwitch.key = false) :
    (c.call name s context words).run st = (c.body s context given).run st := by
  rw [Command.call, run_getDisk_bind, hread]
  simp only [hhelp, Bool.false_eq_true, if_false]

/-! ## Whole runs -/

/-- A run of the program whose words ask for a command comes to the command once it is
    prepared. -/
theorem run_program_of_command {s : Surroundings} {words rest : List Text} {c : Command}
    {g : Given} {context : Context} {disk : Build.Disk} {st : State}
    (hshell : s.nonEmpty? Program.shellVariable = none)
    (hask : ask words = .ok (.command c g rest))
    (hprepare : (prepare s g c).run { disk := disk } = (.ok context, st)) :
    (unlessAsked s groupShape shapes (program s words)).run { disk := disk } =
      (c.call (Program.name ++ " " ++ c.name) s context rest).run st := by
  have hwords : words ≠ [] := by
    rintro rfl
    have hnone : ask [] = .error .noCommand := by rfl
    rw [hnone] at hask
    contradiction
  rw [unlessAsked, hshell, program]
  simp only
  rw [if_neg hwords, hask]
  exact run_bind_of_ok hprepare _

/-- What becomes of a run is told by how its action ends. -/
theorem finish_eq (action : Action Unit) (disk : Build.Disk) :
    (finish action disk).code = exitCode (action.run { disk := disk }).1 ∧
      (finish action disk).state = (action.run { disk := disk }).2 := by
  rw [finish]
  rcases action.run { disk := disk } with ⟨(_ | _) | _, _⟩ <;> exact ⟨rfl, rfl⟩

theorem crash_finish (action : Action Unit) (disk : Build.Disk) :
    (finish action disk).crash = crash? (action.run { disk := disk }).1 := by
  rw [finish]
  rcases action.run { disk := disk } with ⟨(_ | _) | _, _⟩ <;> rfl

end Depot.Command
