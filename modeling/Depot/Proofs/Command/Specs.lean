import Depot.Proofs.Command.Query
import Depot.Proofs.Command.Telling
import Depot.Proofs.Files.Paths
import Depot.Proofs.Files.Tree
import Depot.Proofs.Spec.Refusals

/-!
# Queries for a spec file

`start?` is how a run of the program comes to the `query` command, whatever it has been
warned about before: nothing is changed, sent or printed as a result until then
(`run_of_start`).

A run that is given a spec file and cannot read a spec from it prints no queries. What is
wrong is told as an error with an exit code of its own if the file cannot be read or has a
defect (`IsRefused`). Bytes that are beyond the reader end the run by a crash. `run_of_spec`
has this for every run and every content of the file.
-/

namespace Depot.Command.Query

open CommandLine Spec

/-- The command as a run of the program comes to it. -/
structure Start where
  config : Config
  /-- Whether the progress is told. -/
  verbose : Bool
  request : Request
  /-- What has become of the run so far. -/
  state : State

variable {s : Surroundings} {words : List Text} {disk : Build.Disk} {b : Start}
  {es : List Entry} {name : Text} {bytes : Bytes}

/-! ## Starting -/

/-- What the command does its work with. -/
def Start.context (b : Start) : Context := { config := some b.config, verbose := b.verbose }

/-- How a run of the program comes to the command, if it does. -/
def start? (s : Surroundings) (words : List Text) (disk : Build.Disk) : Option Start :=
  match s.nonEmpty? Program.shellVariable, ask words with
  | none, .ok (.command c g rest) =>
    if c.name = command.name then
      match (prepare s g c).run { disk := disk }, shape.read (isFolder s disk.tree) rest with
      | (.ok context, st), .ok given =>
        if given.has helpSwitch.key then none
        else context.config.map fun config => ⟨config, context.verbose, .ofGiven given, st⟩
      | _, _ => none
    else none
  | _, _ => none

/-- The value of a switch that was given. -/
theorem exists_occurrence_of_text? {g : Given} {key t : Text} (h : g.text? key = some t) :
    ∃ o ∈ g.switches, o.key = key := by
  rw [Given.text?] at h
  split at h
  · next hvalue =>
    obtain ⟨o, ho, _⟩ := Option.map_eq_some_iff.1 hvalue
    exact ⟨o, List.mem_reverse.1 (List.mem_of_find?_eq_some ho),
      of_decide_eq_true (List.find?_some (p := fun o : Occurrence => decide (o.key = key)) ho)⟩
  · contradiction

/-- The path of a spec file has no NUL, or the words would not have been read. -/
theorem not_mem_of_read {isFolder : Text → Bool} {given : Given}
    (h : shape.read isFolder words = .ok given) (hhelp : given.has helpSwitch.key = false)
    (hspec : given.text? "spec" = some name) : .char '\x00' ∉ name := by
  obtain ⟨o, ho, hkey⟩ := exists_occurrence_of_text? hspec
  rw [Shape.read] at h
  split at h
  · contradiction
  next g _ =>
  split at h
  · next hpage =>
    obtain rfl := Except.ok.inj h
    exact absurd (hhelp.symm.trans hpage) (by simp)
  split at h
  · contradiction
  next hcheck =>
  split at h
  · contradiction
  obtain rfl := Except.ok.inj h
  -- The operand of the switch is a file, and for a file the check refuses a NUL.
  have hswitch : ((shape.allSwitches.find? fun sw => sw.key = Text.ofString "spec").map
      (·.operand)) = some .file := by
    decide +kernel
  rw [← hkey] at hswitch
  obtain ⟨sw, hfound, hoperand⟩ := Option.map_eq_some_iff.1 hswitch
  have hnone := List.findSome?_eq_none_iff.1 hcheck o ho
  simp only [hfound] at hnone
  simp only [hkey, hspec, Switch.check, hoperand] at hnone
  intro hmem
  rw [if_pos hmem] at hnone
  contradiction

/-- A run that comes to the command has done nothing before but to tell what looks wrong. -/
theorem run_of_start (h : start? s words disk = some b) :
    (unlessAsked s groupShape shapes (program s words)).run { disk := disk } =
      (perform s b.context b.request).run b.state ∧ b.state.results = (disk, [], []) ∧
      ∀ name, b.request.spec = some name → .char '\x00' ∉ name := by
  rw [start?] at h
  split at h
  · next c g rest hshell hask =>
    rw [Option.ite_none_right_eq_some] at h
    obtain ⟨hname, h⟩ := h
    split at h
    · next context st given hprepare hread =>
      rw [Option.ite_none_left_eq_some, Option.map_eq_some_iff, Bool.not_eq_true] at h
      obtain ⟨hhelp, config, hconfig, rfl⟩ := h
      -- The name tells which of the commands was asked for.
      obtain rfl := eq_of_mem_commands (mem_commands_of_ask hask)
        (by simp [commands, otherCommands]) hname
      have hst := keeps_prepare s g command { disk := disk }
      rw [hprepare] at hst
      have hdisk : st.disk = disk := (Prod.mk.inj hst).1
      refine ⟨?_, hst, fun name hspec => not_mem_of_read hread hhelp hspec⟩
      rw [run_program_of_command hshell hask hprepare, run_call _ (hdisk.symm ▸ hread) hhelp,
        Start.context, ← hconfig]
      rfl
    · contradiction
  · contradiction

/-! ## Loading -/

/-- The run is asked for the queries of a spec file, and for nothing that only goes with a
    pattern. -/
structure Request.IsForSpec (r : Request) (name : Text) : Prop where
  pattern : r.pattern = none
  spec : r.spec = some name
  properties : r.properties = []
  recursive : r.recursive = true

/-- The spec file at a path cannot be read or is no spec, for this reason. -/
inductive IsRefused (here : Files.Location) (t : Files.Tree) (path : Files.Path) : Defect → Prop
  | unreadable {e : Files.FileError} (h : t.read here path = .error e) :
      IsRefused here t path (.unreadable e.trouble.words)
  | wrong {bytes : Bytes} {d : Defect} (h : t.read here path = .ok bytes)
      (hd : IsWrongDocument bytes d) : IsRefused here t path d

variable {st : State} {path : Files.Path} {d : Defect} {c : Context} {r : Request}

theorem run_loadSpec_of_refused (hnul : .char '\x00' ∉ path.text)
    (h : IsRefused s.here st.disk.tree path d) :
    (loadSpec s path).run st =
      (error s (d.message path.text) >>= fun _ => exit 3 : Action (List Entry)).run st := by
  rw [loadSpec, run_getDisk_bind]
  cases h with
  | @unreadable e h =>
    have htrouble : e.trouble ≠ .nul := fun he => hnul (Files.Tree.mem_text_of_read h he)
    rw [h]
    simp only
  | wrong h hd =>
    rw [h]
    simp only [parseBytes_eq_defect_iff.2 hd]

theorem run_loadSpec_of_beyond {e : ReadError} (hread : st.disk.tree.read s.here path = .ok bytes)
    (hparse : parseBytes bytes = .error e) (he : ∀ d, e ≠ .defect d) :
    (loadSpec s path).run st = (.error (.crash (.spec e)), st) := by
  rw [loadSpec, run_getDisk_bind, hread]
  simp only [hparse]
  rfl

theorem run_perform_of_spec (h : r.IsForSpec name) :
    perform s c r = loadSpec s (Files.Path.parse name) >>= compileEntries s c r := by
  have hnone : ¬(r.properties ≠ [] ∨ (!r.recursive) = true) := by
    simp [h.properties, h.recursive]
  rw [perform, h.pattern, h.spec]
  simp only [if_neg hnone]

/-! ## Whole runs -/

section

variable (hstart : start? s words disk = some b) (hspec : b.request.IsForSpec name)

include hstart hspec

/-- A run that comes to load its spec file does so before anything else. -/
theorem run_of_isForSpec :
    (unlessAsked s groupShape shapes (program s words)).run { disk := disk } =
      (loadSpec s (Files.Path.parse name) >>=
        compileEntries s b.context b.request).run b.state := by
  rw [(run_of_start hstart).1, run_perform_of_spec hspec]

/-- What is wrong with a spec file is told. -/
theorem run_of_refused (h : IsRefused s.here disk.tree (Files.Path.parse name) d) :
    Refuses s (d.message (Files.Path.parse name).text) 3 (run s words disk) ∧
      (run s words disk).state.results = (disk, [], []) := by
  obtain ⟨_, hst, hnul⟩ := run_of_start hstart
  have hpath : .char '\x00' ∉ (Files.Path.parse name).text := fun hmem => by
    rcases Files.Path.mem_text_parse hmem with heq | heq | hmem
    · exact absurd heq (by decide)
    · exact absurd heq (by decide)
    · exact hnul name hspec.spec hmem
  have hdisk : b.state.disk = disk := (Prod.mk.inj hst).1
  rw [← hdisk] at h
  rw [← hst, run]
  exact refuses_of_run ((run_of_isForSpec hstart hspec).trans
    (run_bind_of_exit (run_loadSpec_of_refused hpath h) _))

/-- A spec file that is beyond the reader ends the run. -/
theorem run_of_beyond {e : ReadError}
    (hread : disk.tree.read s.here (Files.Path.parse name) = .ok bytes)
    (hparse : parseBytes bytes = .error e) (he : ∀ d, e ≠ .defect d) :
    (run s words disk).code = 1 ∧ (run s words disk).crash = some (.spec e) ∧
      (run s words disk).state.results = (disk, [], []) := by
  obtain ⟨_, hst, _⟩ := run_of_start hstart
  have hdisk : b.state.disk = disk := (Prod.mk.inj hst).1
  have hrun := run_of_isForSpec hstart hspec
  rw [← hdisk] at hread
  rw [run_bind_of_error (run_loadSpec_of_beyond hread hparse he)] at hrun
  rw [run, (finish_eq _ _).1, (finish_eq _ _).2, crash_finish, hrun]
  exact ⟨rfl, rfl, hst⟩

end

/-- A document given as bytes is read as entries, of which there is one at least, or it has a
    defect, or it is beyond the reader; it is not beyond the reader if it is a text with no
    more opening brackets than may lie around each other and no more digits in a row than are
    read.

    A run that is given a spec file reads entries from it, or sends nothing, changes no file and
    prints no result. If the file cannot be read or has a defect, the run tells so and ends with
    3, as soon as the message can be told, for which it is enough that there are no brackets in
    it. If the file is beyond the reader, the run ends by a crash. -/
theorem run_of_spec (hstart : start? s words disk = some b) (hspec : b.request.IsForSpec name) :
    (∀ bytes,
      (match parseBytes bytes with
        | .ok es => es ≠ [] ∧ ¬IsBeyond bytes
        | .error (.defect d) => IsWrongDocument bytes d ∧ ¬IsBeyond bytes
        | .error _ => IsBeyond bytes) ∧
      ∀ t, Encoding.decodeDocument bytes = .ok t → Json.openings t ≤ Json.maxDepth →
        ¬Json.HasManyDigits t → ¬IsBeyond bytes) ∧
    let o := run s words disk
    let path := Files.Path.parse name
    (∃ bytes es, disk.tree.read s.here path = .ok bytes ∧ parseBytes bytes = .ok es) ∨
      (o.state.requests = [] ∧ o.state.disk = disk ∧ o.state.out = []) ∧
        ((∃ d, IsRefused s.here disk.tree path d ∧ Refuses s (d.message path.text) 3 o ∧
            (.char '[' ∉ d.message path.text → o.code = 3 ∧ o.crash = none)) ∨
          ∃ bytes e, disk.tree.read s.here path = .ok bytes ∧ IsBeyond bytes ∧
            parseBytes bytes = .error e ∧ o.code = 1 ∧ o.crash = some (.spec e)) := by
  refine ⟨fun bytes => ⟨parseBytes_cases bytes, fun t ht hopen hdigits hbeyond => ?_⟩, ?_⟩
  · rcases hbeyond.shows with ⟨e, he⟩ | ⟨t', ht', hshows⟩
    · rw [ht] at he
      contradiction
    · obtain rfl := Except.ok.inj (ht.symm.trans ht')
      exact hshows.elim (Nat.not_lt.2 hopen) hdigits
  intro o path
  have hresults (h : o.state.results = (disk, [], [])) :
      o.state.requests = [] ∧ o.state.disk = disk ∧ o.state.out = [] := by
    obtain ⟨hdisk, hrest⟩ := Prod.mk.inj h
    obtain ⟨hrequests, hout⟩ := Prod.mk.inj hrest
    exact ⟨hrequests, hdisk, hout⟩
  have htold {d : Defect} (hd : IsRefused s.here disk.tree path d) := by
    obtain ⟨hrefuses, hkept⟩ := run_of_refused hstart hspec hd
    exact And.intro (hresults hkept) (And.intro hrefuses hrefuses.code_eq)
  cases hread : disk.tree.read s.here path with
  | error e =>
    obtain ⟨hkept, hends⟩ := htold (.unreadable hread)
    exact .inr ⟨hkept, .inl ⟨_, .unreadable hread, hends⟩⟩
  | ok bytes =>
  cases hparse : parseBytes bytes with
  | ok es => exact .inl ⟨bytes, es, rfl, hparse⟩
  | error e =>
  by_cases hdefect : ∃ d, e = .defect d
  · obtain ⟨d, rfl⟩ := hdefect
    have hd := IsRefused.wrong hread (parseBytes_eq_defect_iff.1 hparse)
    obtain ⟨hkept, hends⟩ := htold hd
    exact .inr ⟨hkept, .inl ⟨d, hd, hends⟩⟩
  · have hother : ∀ d, e ≠ .defect d := fun d hd => hdefect ⟨d, hd⟩
    obtain ⟨hcode, hcrash, hkept⟩ := run_of_beyond hstart hspec hread hparse hother
    exact .inr ⟨hresults hkept, .inr ⟨bytes, e, rfl, isBeyond_iff.2 ⟨e, hparse, hother⟩, hparse,
      hcode, hcrash⟩⟩

/-- A list without elements is no spec. -/
theorem run_of_spec_without_files :
    let s : Surroundings := {
      here := []
      environment := [("HOME", "/h")]
      now := (⟨⟨2024, 1, 2⟩, 3, 4, 5, 0, none⟩ : Time.Timestamp)
      millis := 0
      suffix := Text.ofNat
      reply := .answer 204 [] }
    let disk : Build.Disk := ⟨⟨[(["c.toml"], .file []),
      (["s.json"], .file (Utf8.encode "\x7b\"files\": []\x7d"))]⟩, 0⟩
    let words : List Text := ["-c", "c.toml", "query", "--spec", "s.json"]
    let o := run s words disk
    o.code = 3 ∧ o.crash = none ∧ o.state.out = [] ∧ o.state.disk = disk := by
  intro s disk words o
  have hstart : ((start? s words disk).map fun b => (b.request.pattern, b.request.spec,
      b.request.properties, b.request.recursive)) =
        some (none, some (Text.ofString "s.json"), [], true) := by
    decide +kernel
  let bytes : Bytes := Utf8.encode "\x7b\"files\": []\x7d"
  have hread : disk.tree.read s.here (Files.Path.parse "s.json") = .ok bytes := by decide +kernel
  have hparse : parseBytes bytes = .error (.defect .emptyFiles) := by decide +kernel
  have hopen : .char '[' ∉ Defect.emptyFiles.message (Files.Path.parse "s.json").text := by
    decide +kernel
  -- From here on nothing is evaluated.
  clear_value s disk words bytes
  obtain ⟨b, hb, hr⟩ := Option.map_eq_some_iff.1 hstart
  simp only [Prod.mk.injEq] at hr
  obtain ⟨hpattern, hspec, hproperties, hrecursive⟩ := hr
  obtain ⟨hbytes, hlaw⟩ := run_of_spec hb ⟨hpattern, hspec, hproperties, hrecursive⟩
  have hbeyond := (hbytes bytes).1
  rw [hparse] at hbeyond
  rcases hlaw with ⟨bytes', es, hread', hes⟩ |
    ⟨⟨_, hdisk, hout⟩, ⟨d, hd, _, htold⟩ | ⟨bytes', e, hread', he, _⟩⟩
  · obtain rfl := Except.ok.inj (hread.symm.trans hread')
    rw [hparse] at hes
    contradiction
  · obtain rfl : d = .emptyFiles := by
      cases hd with
      | unreadable h =>
        rw [hread] at h
        contradiction
      | wrong h hd =>
        obtain rfl := Except.ok.inj (hread.symm.trans h)
        have heq := hparse.symm.trans (parseBytes_eq_defect_iff.2 hd)
        exact (ReadError.defect.inj (Except.error.inj heq)).symm
    exact ⟨(htold hopen).1, (htold hopen).2, hout, hdisk⟩
  · obtain rfl := Except.ok.inj (hread.symm.trans hread')
    exact absurd he hbeyond.2

/-- A spec file may be a byte that is no text. Then the run crashes. -/
theorem run_crashes_of_spec_without_text :
    let s : Surroundings := {
      here := []
      environment := [("HOME", "/h")]
      now := (⟨⟨2024, 1, 2⟩, 3, 4, 5, 0, none⟩ : Time.Timestamp)
      millis := 0
      suffix := Text.ofNat
      reply := .answer 204 [] }
    let disk : Build.Disk := ⟨⟨[(["c.toml"], .file []), (["s.json"], .file [0xff])]⟩, 0⟩
    let words : List Text := ["-c", "c.toml", "query", "--spec", "s.json"]
    let fault : DecodeError := ⟨"utf-8", 0, [0xff], "invalid start byte"⟩
    parseBytes [0xff] = .error (.notText fault) ∧ (run s words disk).code = 1 ∧
      (run s words disk).crash = some (.spec (.notText fault)) := by
  intro s disk words fault
  have hstart : ((start? s words disk).map fun b => (b.request.pattern, b.request.spec,
      b.request.properties, b.request.recursive)) =
        some (none, some (Text.ofString "s.json"), [], true) := by
    decide +kernel
  have hread : disk.tree.read s.here (Files.Path.parse "s.json") = .ok [0xff] := by
    decide +kernel
  have hparse : parseBytes [0xff] = .error (.notText fault) := by decide +kernel
  -- From here on nothing is evaluated.
  clear_value s disk words fault
  obtain ⟨b, hb, hr⟩ := Option.map_eq_some_iff.1 hstart
  simp only [Prod.mk.injEq] at hr
  obtain ⟨hpattern, hspec, hproperties, hrecursive⟩ := hr
  obtain ⟨hcode, hcrash, _⟩ :=
    run_of_beyond hb ⟨hpattern, hspec, hproperties, hrecursive⟩ hread hparse nofun
  exact ⟨hparse, hcode, hcrash⟩

end Depot.Command.Query
