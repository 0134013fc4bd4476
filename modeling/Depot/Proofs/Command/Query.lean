import Depot.Proofs.Command.Telling
import Depot.Proofs.Spec.Compilation

/-!
# What the query command prints

`job?` is what a run of `query` has to compile, once its words, a configuration in which
nothing looks wrong, and the spec file are read. What it tells and prints is given by the
entries that compile on their own (`Job.compiled`) and those that do not
(`Job.failures`), each with its place:

* `run_compileEach_keepGoing`, `run_compileEach_of_ok`, `run_compileEach_of_error`: what the
  loop over the entries compiles and tells, by induction on the entries;
* `run_printQueries_json`, `run_printQueries_text`: what is printed of the queries;
* `run_agrees`: from these, for whole runs.

A message with no bracket in it is shown as `Console.shownText` has it, with emoji in
place of their codes, on lines as wide as the console (`toldBehind`). A query printed as
text loses the control sequences in it, and one with half of a surrogate pair cannot be
printed so; as JSON, queries are escaped.
-/

namespace Depot.Command.Query

open CommandLine Spec

/-! ## What a run has to do -/

/-- The queries that a run has to compile. -/
structure Job where
  config : Config
  /-- Whether the progress is told. -/
  verbose : Bool
  request : Request
  entries : List Entry

namespace Job

/-- The fields that the queries ask for. -/
def fields (j : Job) : List Text := (j.request.fields.map splitFields).getD j.config.fields

/-- The failures of the entries that do not compile on their own. -/
def failures (j : Job) : List Entry.Failure :=
  Entry.failuresFrom 0 j.fields j.request.folders j.entries

end Job

/-- The query of an entry at a place, if it compiles on its own. -/
def compiledAt? (fields : List Text) (folders : Bool) (p : Entry × Nat) : Option Compiled :=
  (p.1.compile fields folders).toOption.map (⟨p.2, p.1, ·⟩)

/-- The queries of the entries that compile on their own, with their places. -/
def compiledFrom (index : Nat) (fields : List Text) (folders : Bool) (es : List Entry) :
    List Compiled :=
  (es.zipIdx index).filterMap (compiledAt? fields folders)

/-- The queries of the entries that compile on their own. -/
def Job.compiled (j : Job) : List Compiled := compiledFrom 0 j.fields j.request.folders j.entries

/-- The entries of the pattern that a run is asked for, or of the spec file. -/
def entriesOf? (s : Surroundings) (r : Request) (disk : Build.Disk) : Option (List Entry) :=
  match r.pattern, r.spec with
  | some pattern, none =>
    some [{ pattern := pattern, properties := r.properties, recursive := r.recursive }]
  | none, some path =>
    if r.properties ≠ [] ∨ !r.recursive then none
    else
      match disk.tree.read s.here (Files.Path.parse path) with
      | .ok bytes => (Spec.parseBytes bytes).toOption
      | .error _ => none
  | _, _ => none

variable {s : Surroundings} {words : List Text} {disk : Build.Disk} {j : Job} {c : Context}
  {r : Request} {st : State} {es : List Entry}

/-- What a run of the program gives the command to do, if it comes to that with nothing to be
    warned about. -/
def job? (s : Surroundings) (words : List Text) (disk : Build.Disk) : Option Job :=
  match s.nonEmpty? Program.shellVariable, ask words with
  | none, .ok (.command c g rest) =>
    if c.name = command.name then
      match ((loadConfig s g).run { disk := disk }).1, shape.read (isFolder s disk.tree) rest with
      | .ok (config, []), .ok given =>
        if given.has helpSwitch.key then none
        else (entriesOf? s (.ofGiven given) disk).map fun entries =>
          ⟨config, g.isOn "verbose" false || g.isOn "debug" false, .ofGiven given, entries⟩
      | _, _ => none
    else none
  | _, _ => none

/-- A spec file that can be read is read without a word. -/
theorem run_loadSpec {path : Files.Path} {bytes : Bytes}
    (hread : st.disk.tree.read s.here path = .ok bytes) (hparse : Spec.parseBytes bytes = .ok es) :
    (loadSpec s path).run st = (.ok es, st) := by
  rw [loadSpec, run_getDisk_bind, hread]
  simp only [hparse]
  rfl

theorem run_perform (h : entriesOf? s r st.disk = some es) :
    (perform s c r).run st = (compileEntries s c r es).run st := by
  rw [entriesOf?] at h
  rw [perform]
  cases hpattern : r.pattern with
  | some pattern =>
    cases hspec : r.spec with
    | some path => simp [hpattern, hspec] at h
    | none =>
      simp only [hpattern, hspec, Option.some.injEq] at h
      rw [← h]
  | none =>
    cases hspec : r.spec with
    | none => simp [hpattern, hspec] at h
    | some path =>
      simp only [hpattern, hspec, Option.ite_none_left_eq_some] at h
      obtain ⟨honly, h⟩ := h
      simp only [if_neg honly]
      cases hread : st.disk.tree.read s.here (Files.Path.parse path) with
      | error e => simp [hread] at h
      | ok bytes =>
        cases hparse : Spec.parseBytes bytes with
        | error e => simp [hread, hparse, Except.toOption] at h
        | ok es' =>
          simp only [hread, hparse, Except.toOption, Option.some.injEq] at h
          subst h
          exact run_bind_of_ok (run_loadSpec hread hparse) _

/-- A run with a job comes to compile its entries, and nothing has happened before. -/
theorem exists_compileEntries_of_job (h : job? s words disk = some j) :
    ∃ logged, (unlessAsked s groupShape shapes (program s words)).run { disk := disk } =
      (compileEntries s { config := some j.config, verbose := j.verbose } j.request j.entries).run
        { disk := disk, logged := logged } := by
  rw [job?] at h
  split at h
  · next c g rest hshell hask =>
    rw [Option.ite_none_right_eq_some] at h
    obtain ⟨hname, h⟩ := h
    split at h
    · next hload hread =>
      rw [Option.ite_none_left_eq_some, Option.map_eq_some_iff] at h
      obtain ⟨hhelp, entries, hentries, rfl⟩ := h
      obtain rfl := eq_of_mem_commands (mem_commands_of_ask hask)
        (by simp [commands, otherCommands]) hname
      refine ⟨g.isOn "debug" false, ?_⟩
      rw [run_program_of_command hshell hask (run_prepare_of_no_warnings command hload),
        run_call _ hread (by simpa using hhelp)]
      exact run_perform hentries
    · contradiction
  · contradiction

/-! ## What is told -/

/-- A line that is printed beside the results. -/
def lineBeside (t : Text) : Text := (t ++ "\n").flatMap besideResults

section

variable (columns : Option Console.Width)

/-- What is printed of a message behind a label. -/
def toldBehind (label message : Text) : Text :=
  lineBeside <| Console.printed columns <|
    Console.expandTabs (label ++ " " ++ Console.shownText message)

/-- What is printed of the progress at an entry. -/
def progressLine (verbose : Bool) (p : Entry × Nat) : Text :=
  if verbose then lineBeside (Console.printed columns (progressText p.2 p.1)) else []

/-- What is printed at an entry by a run that keeps going. -/
def warnedAt (verbose : Bool) (fields : List Text) (folders : Bool) (p : Entry × Nat) : Text :=
  progressLine columns verbose p ++
    (Entry.failureAt? fields folders p).elim [] fun f => toldBehind columns "Warning:" f.message

/-- What is printed of a message, if it can be told. -/
def toldOf (message : Text) : Text :=
  match Console.plain columns message with
  | .ok t => lineBeside t
  | .error _ => []

/-- What is printed at an entry by a run that keeps going, if what it warns about can be told. -/
def toldAt (verbose : Bool) (fields : List Text) (folders : Bool) (p : Entry × Nat) : Text :=
  progressLine columns verbose p ++
    (Entry.failureAt? fields folders p).elim [] fun f => toldOf columns (warningText f.message)

end

section

variable {label message : Text} (hlabel : label.IsWhole) (htab : .char '\t' ∉ label)
  (h : Console.IsVerbatim message) (hwhole : message.IsWhole)

include hlabel htab h hwhole

/-- Where nothing is shown as something else, lines are broken and no more. -/
theorem toldBehind_of_isVerbatim (columns : Option Console.Width) :
    toldBehind columns label message =
      Console.printed columns (label ++ " " ++ message) ++ "\n" := by
  have hline : .char '\t' ∉ label ++ " " ++ message := by
    simp only [List.mem_append, not_or]
    exact ⟨⟨htab, by decide⟩, h.noTab⟩
  have hall : Text.IsWhole (label ++ " " ++ message) :=
    Text.isWhole_append.2 ⟨Text.isWhole_append.2 ⟨hlabel, Text.isWhole_ofString " "⟩, hwhole⟩
  rw [toldBehind, lineBeside, h.shownText_eq, Console.expandTabs_of_no_tab hline]
  exact flatMap_besideResults
    (Text.isWhole_append.2 ⟨Console.isWhole_printed columns hall, Text.isWhole_ofString "\n"⟩)

/-- A message that fits is told as it is. -/
theorem toldBehind_of_fits {columns : Option Console.Width}
    (hfits : Console.Fits columns (label ++ " " ++ message)) :
    toldBehind columns label message = label ++ " " ++ message ++ "\n" := by
  rw [toldBehind_of_isVerbatim hlabel htab h hwhole, Console.printed_of_fits hfits]

/-- A message of separate characters is told up to the blanks in it. -/
theorem ink_toldBehind (columns : Option Console.Width)
    (hseparate : Console.IsSeparate (label ++ " " ++ message)) :
    Text.ink (toldBehind columns label message) = Text.ink (label ++ " " ++ message) := by
  have hend : Text.ink (Text.ofString "\n") = [] := by decide
  rw [toldBehind_of_isVerbatim hlabel htab h hwhole, Text.ink_append, hend, List.append_nil,
    Console.ink_printed columns hseparate]

/-- It is told on lines that are no wider than the console. -/
theorem cells_le_of_mem_toldBehind {w : Console.Width} {line : Text}
    (hseparate : Console.IsSeparate (label ++ " " ++ message))
    (hline : line ∈ Text.pieces '\n' (toldBehind (some w) label message)) :
    Console.cells line ≤ w.cells := by
  have hend : Text.ofString "\n" = .char '\n' :: [] := rfl
  rw [toldBehind_of_isVerbatim hlabel htab h hwhole, hend, Text.pieces_append_cons,
    List.mem_append] at hline
  rcases hline with hline | hline
  · exact Console.cells_le_of_mem_printed hseparate hline
  · rw [List.mem_singleton.1 hline]
    exact Nat.zero_le _

end

theorem run_sayBeside_toldOf {message t : Text} (h : Console.plain s.columns message = .ok t)
    (st : State) : (sayBeside s message).run st =
      (.ok (), { st with err := st.err ++ toldOf s.columns message }) := by
  rw [run_sayBeside h, toldOf, h]
  rfl

theorem toldOf_warningText (columns : Option Console.Width) {message : Text}
    (h : Console.tokens message = Console.characters message) :
    toldOf columns (warningText message) = toldBehind columns "Warning:" message := by
  rw [toldOf, plain_warningText columns h]
  rfl

theorem run_error {message : Text} (h : .char '[' ∉ message) (st : State) :
    (error s message).run st =
      (.ok (), { st with err := st.err ++ toldBehind s.columns "Error:" message }) :=
  run_sayBeside (plain_errorText s.columns (Console.tokens_of_no_bracket h)) st

/-- Printed characters other than brackets and colons are shown as they are. -/
theorem isVerbatim_of_isPrinted {t : Text} (h : Json.IsPrinted t) (hopen : .char '[' ∉ t)
    (hcolon : t.count (.char ':') ≤ 1) : Console.IsVerbatim t where
  noOpen := hopen
  noCode := Console.Emoji.replace_of_count_le_one hcolon
  noDropped c hc := by
    rw [← Bool.not_eq_true]
    intro hdropped
    obtain ⟨hlt, hne⟩ := Console.lt_of_isDropped hdropped
    rcases h c hc with rfl | ⟨hle, _⟩
    · exact hne rfl
    · exact Nat.not_le.2 hlt hle
  noTab hmem := by
    rcases h _ hmem with heq | ⟨hle, _⟩
    · exact absurd heq (by decide)
    · exact absurd hle (by decide)

theorem isVerbatim_progressText (index : Nat) (e : Entry) :
    Console.IsVerbatim (progressText index e) ∧
      Text.endsWith '\\' (progressText index e) = false := by
  obtain ⟨kind, hkind, htext⟩ : ∃ kind ∈ (["wildcard", "simple", "aql", "empty"] : List Text),
      progressText index e = "Entry #" ++ Text.ofNat (index + 1) ++ ": " ++ kind := by
    rw [progressText]
    cases e.kind? with
    | none => exact ⟨_, by simp, rfl⟩
    | some k => cases k <;> exact ⟨_, by simp [Kind.name], rfl⟩
  -- What is told of an entry is its number and one of four words.
  have hkinds : ∀ kind ∈ (["wildcard", "simple", "aql", "empty"] : List Text),
      Json.IsPrinted kind ∧ .char '[' ∉ kind ∧ kind.count (.char ':') = 0 ∧
        kind.getLast?.any (· ≠ .char '\\') = true := by decide
  obtain ⟨hprinted, hopen, hcolon, hlast⟩ := hkinds kind hkind
  have hbracket : .char '[' ∉ Text.ofNat (index + 1) := Text.not_mem_ofNat (by decide)
  have hcolons : (Text.ofNat (index + 1)).count (.char ':') = 0 :=
    List.count_eq_zero.2 (Text.not_mem_ofNat (by decide))
  rw [htext]
  refine ⟨isVerbatim_of_isPrinted ?_ ?_ ?_, ?_⟩
  · simp only [Json.isPrinted_append]
    exact ⟨⟨⟨by decide, Json.isPrinted_ofNat _⟩, by decide⟩, hprinted⟩
  · simp only [List.mem_append, not_or]
    exact ⟨⟨⟨by decide, hbracket⟩, by decide⟩, hopen⟩
  · simp only [List.count_append, hcolons, hcolon]
    decide
  · rw [Text.endsWith, List.getLast?_append]
    cases hend : kind.getLast? with
    | none => simp [hend] at hlast
    | some c => simpa [hend] using hlast

theorem run_progress (p : Entry × Nat) (st : State) :
    (progress s c (progressText p.2 p.1)).run st =
      (.ok (), { st with err := st.err ++ progressLine s.columns c.verbose p }) := by
  rw [progress, progressLine]
  split
  · have hname : Console.IsName "info" := Console.isName_of_mem (by simp)
    obtain ⟨hverbatim, hend⟩ := isVerbatim_progressText p.2 p.1
    exact run_sayBeside (Console.plain_styled s.columns hname hverbatim hend) st
  · rw [List.append_nil]
    rfl

/-! ## The loop over the entries -/

section

variable {fields : List Text} {folders : Bool} {e : Entry}

theorem compiledFrom_cons_of_error {fault : Entry.Fault}
    (h : e.compile fields folders = .error fault) (index : Nat) (es : List Entry) :
    compiledFrom index fields folders (e :: es) = compiledFrom (index + 1) fields folders es := by
  rw [compiledFrom, List.zipIdx_cons, List.filterMap_cons, compiledAt?, h]
  rfl

theorem compiledFrom_cons_of_ok {q : Text} (h : e.compile fields folders = .ok q) (index : Nat)
    (es : List Entry) : compiledFrom index fields folders (e :: es) =
      ⟨index, e, q⟩ :: compiledFrom (index + 1) fields folders es := by
  rw [compiledFrom, List.zipIdx_cons, List.filterMap_cons, compiledAt?, h]
  rfl

/-- Where all entries compile, their queries are what compiles on its own. -/
theorem map_compiledFrom_of_ok {index : Nat} {es : List Entry} {qs : List Text}
    (h : Entry.compileFrom index fields folders es = .ok qs) :
    (compiledFrom index fields folders es).map (·.query) = qs ∧
      (compiledFrom index fields folders es).map (fun q => (q.entry, q.index)) =
        es.zipIdx index := by
  induction es generalizing index qs with
  | nil =>
    rw [Entry.compileFrom] at h
    obtain rfl := Except.ok.inj h
    exact ⟨rfl, rfl⟩
  | cons e es ih =>
    obtain ⟨q, qs', hcompile, hes, rfl⟩ := Entry.compileFrom_cons_eq_ok_iff.1 h
    obtain ⟨hqueries, hplaces⟩ := ih hes
    rw [compiledFrom_cons_of_ok hcompile, List.map_cons, List.map_cons, hqueries, hplaces]
    exact ⟨rfl, rfl⟩

/-- A run that keeps going compiles what compiles on its own, and warns about the rest, if all
    that can be told. -/
theorem run_compileEach_keepGoing (index : Nat) (es : List Entry) (st : State)
    (htold : ∀ f ∈ Entry.failuresFrom index fields folders es,
      ∃ t, Console.plain s.columns (warningText f.message) = .ok t) :
    (compileEach s c fields folders true index es).run st =
      (.ok (compiledFrom index fields folders es,
          decide (Entry.failuresFrom index fields folders es ≠ [])),
        { st with err := st.err ++
            (es.zipIdx index).flatMap (toldAt s.columns c.verbose fields folders) }) := by
  induction es generalizing index st with
  | nil =>
    rw [compileEach, List.zipIdx_nil, List.flatMap_nil, List.append_nil]
    rfl
  | cons e es ih =>
    rw [compileEach, run_bind_of_ok (run_progress (e, index) st), List.zipIdx_cons,
      List.flatMap_cons, toldAt, Entry.failureAt?]
    -- What is told of the entry goes behind what was told before, and the rest behind that.
    cases hcompile : e.compile fields folders with
    | error fault =>
      rw [Entry.failuresFrom_cons_of_error hcompile] at htold ⊢
      obtain ⟨⟨t, ht⟩, hrest⟩ := List.forall_mem_cons.1 htold
      rw [compiledFrom_cons_of_error hcompile, decide_eq_true (List.cons_ne_nil _ _)]
      simp only [if_true]
      rw [warning, run_bind_of_ok (run_sayBeside_toldOf ht _),
        run_bind_of_ok (ih (index + 1) _ hrest), Option.elim_some]
      simp only [List.append_assoc]
      rfl
    | ok query =>
      rw [Entry.failuresFrom_cons_of_ok hcompile] at htold ⊢
      rw [compiledFrom_cons_of_ok hcompile]
      simp only
      rw [run_bind_of_ok (ih (index + 1) _ htold), Option.elim_none]
      simp only [List.append_assoc, List.nil_append]
      rfl

/-- The messages without brackets are told behind their labels. -/
theorem flatMap_toldAt (columns : Option Console.Width) {verbose : Bool} {index : Nat}
    {es : List Entry}
    (hopen : ∀ f ∈ Entry.failuresFrom index fields folders es, .char '[' ∉ f.message) :
    (es.zipIdx index).flatMap (toldAt columns verbose fields folders) =
      (es.zipIdx index).flatMap (warnedAt columns verbose fields folders) := by
  refine List.flatMap_congr fun p hp => ?_
  rw [toldAt, warnedAt]
  cases hf : Entry.failureAt? fields folders p with
  | none => rw [Option.elim_none, Option.elim_none]
  | some f =>
    have hmessage := hopen f (List.mem_filterMap.2 ⟨p, hp, hf⟩)
    rw [Option.elim_some, Option.elim_some,
      toldOf_warningText columns (Console.tokens_of_no_bracket hmessage)]

/-- Entries that all compile are compiled. -/
theorem run_compileEach_of_ok {index : Nat} {qs : List Text}
    (h : Entry.compileFrom index fields folders es = .ok qs) (st : State) :
    (compileEach s c fields folders false index es).run st =
      (.ok (compiledFrom index fields folders es, false), { st with
        err := st.err ++ (es.zipIdx index).flatMap (progressLine s.columns c.verbose) }) := by
  induction es generalizing index qs st with
  | nil =>
    rw [compileEach, List.zipIdx_nil, List.flatMap_nil, List.append_nil]
    rfl
  | cons e es ih =>
    obtain ⟨q, qs', hcompile, hes, -⟩ := Entry.compileFrom_cons_eq_ok_iff.1 h
    rw [compileEach, run_bind_of_ok (run_progress (e, index) st), hcompile]
    simp only
    rw [run_bind_of_ok (ih hes _), compiledFrom_cons_of_ok hcompile, List.zipIdx_cons,
      List.flatMap_cons, List.append_assoc]
    rfl

/-- The first entry that does not compile is told of, unless the run keeps going. -/
theorem run_compileEach_of_error {index : Nat} {f : Entry.Failure}
    (h : Entry.compileFrom index fields folders es = .error f) (st : State) :
    (compileEach s c fields folders false index es).run st =
      (error s f.message >>= fun _ => exit 2 : Action _).run { st with
        err := st.err ++ ((es.take (f.index + 1 - index)).zipIdx index).flatMap
          (progressLine s.columns c.verbose) } := by
  induction es generalizing index st with
  | nil => contradiction
  | cons e es ih =>
    rw [compileEach, run_bind_of_ok (run_progress (e, index) st)]
    rcases Entry.compileFrom_cons_eq_error_iff.1 h with ⟨fault, hcompile, rfl⟩ | ⟨q, hcompile, hes⟩
    · rw [hcompile, Nat.add_sub_cancel_left, List.take_succ_cons, List.take_zero,
        List.zipIdx_cons, List.zipIdx_nil, List.flatMap_singleton]
      simp only [Bool.false_eq_true, if_false]
    · have hle : index + 1 ≤ f.index :=
        Entry.index_of_mem_failuresFrom (List.mem_of_head? (Entry.compileFrom_eq_error_iff.1 hes))
      have htake : f.index + 1 - index = (f.index + 1 - (index + 1)) + 1 := by omega
      rw [hcompile, htake, List.take_succ_cons, List.zipIdx_cons, List.flatMap_cons,
        ← List.append_assoc]
      exact run_bind_of_exit (ih hes _) _

end

/-! ## Printing -/

theorem run_printQueries_json (qs : List Compiled) (st : State) :
    (printQueries true qs).run st = (.ok (),
      { st with out := st.out ++ (Json.list (qs.map Compiled.toJson)).render .indented ++ "\n" }) :=
  run_echo_render _ st

/-- Texts with a line break after each. -/
def inLines (ts : List Text) : Text := ts.flatMap fun t => t ++ ("\n" : Text)

/-- Queries are printed line by line without their control sequences, if no half of a
    surrogate pair is in what is left. -/
theorem run_printQueries_text {qs : List Compiled}
    (h : ∀ q ∈ qs, Text.IsWhole (Console.withoutSequences q.query)) (st : State) :
    (printQueries false qs).run st = (.ok (),
      { st with out := st.out ++ inLines (qs.map fun q => Console.withoutSequences q.query) }) := by
  induction qs generalizing st with
  | nil =>
    rw [List.map_nil, inLines, List.flatMap_nil, List.append_nil]
    rfl
  | cons q qs ih =>
    obtain ⟨hq, hqs⟩ := List.forall_mem_cons.1 h
    have hrest := ih hqs { st with out := st.out ++ Console.withoutSequences q.query ++ "\n" }
    change ((echo q.query >>= fun _ => qs.forM fun c => echo c.query) : Action PUnit).run st = _
    rw [echo, run_bind_of_ok (run_printLine hq st), List.map_cons, inLines, List.flatMap_cons,
      ← inLines]
    simp only [List.append_assoc] at hrest ⊢
    exact hrest

/-- Otherwise the run ends by that. -/
theorem exitCode_printQueries_text {qs : List Compiled}
    (h : ¬∀ q ∈ qs, Text.IsWhole (Console.withoutSequences q.query)) (st : State) :
    exitCode ((printQueries false qs).run st).1 = 1 := by
  induction qs generalizing st with
  | nil => exact absurd (List.forall_mem_nil _) h
  | cons q qs ih =>
    change exitCode (((echo q.query >>= fun _ => qs.forM fun c => echo c.query) :
      Action PUnit).run st).1 = 1
    by_cases hq : Text.IsWhole (Console.withoutSequences q.query)
    · rw [echo, run_bind_of_ok (run_printLine hq st)]
      exact ih (fun hqs => h (List.forall_mem_cons.2 ⟨hq, hqs⟩)) _
    · have hcrash : (echo q.query).run st = (.error (.crash .half), st) := by
        rw [← Text.any_isHalf_eq_false_iff, Bool.not_eq_false] at hq
        rw [echo, printLine, hq]
        rfl
      rw [run_bind_of_error hcrash]
      rfl

/-- A query is printed as its own text: there are no control sequences in it, and no half of a
    surrogate pair. -/
def IsLine (q : Text) : Prop := Console.withoutSequences q = q ∧ q.IsWhole

instance (q : Text) : Decidable (IsLine q) :=
  inferInstanceAs (Decidable (Console.withoutSequences q = q ∧ q.IsWhole))

theorem IsLine.isWhole {q : Text} (h : IsLine q) : Text.IsWhole (Console.withoutSequences q) :=
  h.1.symm ▸ h.2

/-- Queries are printed as they are only if each of them is. -/
theorem inLines_eq_iff {qs : List Compiled}
    (hwhole : ∀ q ∈ qs, Text.IsWhole (Console.withoutSequences q.query)) :
    inLines (qs.map fun q => Console.withoutSequences q.query) = inLines (qs.map (·.query)) ↔
      ∀ q ∈ qs, IsLine q.query := by
  have hmap : inLines (qs.map fun q => Console.withoutSequences q.query) =
      (qs.map (·.query)).flatMap fun q => Console.withoutSequences q ++ ("\n" : Text) := by
    rw [inLines, List.flatMap_map, List.flatMap_map]
  rw [hmap, inLines, Console.flatMap_withoutSequences_eq_iff, List.forall_mem_map]
  refine forall₂_congr fun q hq => ⟨fun h => ⟨h, ?_⟩, fun h => h.1⟩
  rw [← h]
  exact hwhole q hq

/-- The results of a run are these queries with a line break after each, or as a JSON list
    with their places, kinds and patterns, and the run ends with this code. As text this is so
    if and only if every query can be printed as its own text. -/
structure Prints (j : Job) (qs : List Compiled) (code : Nat) (o : Outcome) : Prop where
  json : j.request.asJson = true → o.code = code ∧
    o.state.out = (Json.list (qs.map Compiled.toJson)).render .indented ++ "\n"
  text : j.request.asJson = false →
    (o.code = code ∧ o.state.out = inLines (qs.map (·.query)) ↔ ∀ q ∈ qs, IsLine q.query)

/-- Results are printed beside nothing else. -/
theorem keeps_printQueries (asJson : Bool) (qs : List Compiled) :
    Keeps (fun st => (st.effects, st.err)) (printQueries asJson qs) := by
  have hecho (t : Text) : Keeps (fun st => (st.effects, st.err)) (echo t) := by
    rw [echo, printLine]
    split
    · exact keeps_crash _ _
    · exact fun _ => rfl
  rw [printQueries]
  split
  · exact hecho _
  · exact Keeps.forM (fun q => hecho q.query) qs

/-- What is left to do when the entries are compiled: to print the queries, and to tell by the
    exit code whether there was a failure. -/
theorem prints_of_run {qs : List Compiled} {failed : Bool} {action : Action Unit}
    (hrun : action.run { disk := disk } = (printQueries j.request.asJson qs >>= fun _ =>
      (if failed then exit 2 else pure () : Action Unit)).run st)
    (hst : st.out = []) :
    Prints j qs (if failed then 2 else 0) (finish action disk) ∧
      (finish action disk).state.effects = st.effects ∧
      (finish action disk).state.err = st.err := by
  have hend (st : State) : exitCode ((if failed then exit 2 else pure () : Action Unit).run st).1 =
      (if failed then 2 else 0) ∧
      ((if failed then exit 2 else pure () : Action Unit).run st).2 = st := by
    cases failed <;> exact ⟨rfl, rfl⟩
  have hcode : (if failed then 2 else 0) ≠ 1 := by cases failed <;> decide
  have hkeeps : Keeps (fun st => (st.effects, st.err)) (printQueries j.request.asJson qs >>=
      fun _ => (if failed then exit 2 else pure () : Action Unit)) :=
    (keeps_printQueries _ _).bind fun _ st => by rw [(hend st).2]
  have hkept := Prod.mk.inj (hkeeps st)
  rw [← hrun, ← (finish_eq action disk).2] at hkept
  refine ⟨⟨fun hjson => ?_, fun htext => ?_⟩, hkept⟩
  · rw [hjson, run_bind_of_ok (run_printQueries_json qs st)] at hrun
    rw [(finish_eq _ _).1, (finish_eq _ _).2, hrun, (hend _).1, (hend _).2, hst]
    exact ⟨rfl, rfl⟩
  · rw [htext] at hrun
    rw [(finish_eq _ _).1, (finish_eq _ _).2, hrun]
    -- Half of a surrogate pair in a query stops the printing, and the code tells so.
    by_cases hwhole : ∀ q ∈ qs, Text.IsWhole (Console.withoutSequences q.query)
    · rw [run_bind_of_ok (run_printQueries_text hwhole st), (hend _).1, (hend _).2, hst]
      rw [List.nil_append, inLines_eq_iff hwhole]
      exact and_iff_right rfl
    · have hone := exitCode_printQueries_text hwhole st
      rw [(run_bind_of_exitCode_ne_zero (hone ▸ Nat.one_ne_zero) _).1, hone]
      exact ⟨fun h => absurd h.1.symm hcode, fun h => absurd (fun q hq => (h q hq).isWhole) hwhole⟩

/-! ## Whole runs -/

theorem compileEntries_eq (s : Surroundings) (j : Job) :
    compileEntries s { config := some j.config, verbose := j.verbose } j.request j.entries =
      compileEach s { config := some j.config, verbose := j.verbose } j.fields
          j.request.folders j.request.keepGoing 0 j.entries >>= fun o =>
        printQueries j.request.asJson o.1 >>= fun _ => if o.2 then exit 2 else pure () := rfl

section

variable (hjob : job? s words disk = some j) (hopen : ∀ f ∈ j.failures, .char '[' ∉ f.message)

include hjob hopen

/-- A run that keeps going prints the queries of the entries that compile on their own. -/
theorem run_of_keepGoing (hkeep : j.request.keepGoing = true) :
    (run s words disk).state.effects = (disk, []) ∧
      Prints j j.compiled (if j.failures = [] then 0 else 2) (run s words disk) ∧
      (run s words disk).state.err =
        j.entries.zipIdx.flatMap (warnedAt s.columns j.verbose j.fields j.request.folders) := by
  obtain ⟨logged, hrun⟩ := exists_compileEntries_of_job hjob
  have hloop := run_compileEach_keepGoing (c := { config := some j.config, verbose := j.verbose })
    0 j.entries { disk := disk, logged := logged } fun f hf =>
      ⟨_, plain_warningText s.columns (Console.tokens_of_no_bracket (hopen f hf))⟩
  rw [flatMap_toldAt s.columns hopen] at hloop
  rw [compileEntries_eq s, hkeep, run_bind_of_ok hloop] at hrun
  obtain ⟨hprints, heffects, herr⟩ := prints_of_run hrun rfl
  have hcode : (if decide (j.failures ≠ []) = true then 2 else 0) =
      if j.failures = [] then 0 else 2 := by
    by_cases h : j.failures = [] <;> simp [h]
  exact ⟨heffects, hcode ▸ hprints, herr⟩

/-- A run that does not keep going prints the queries of all entries, or nothing. -/
theorem run_of_not_keepGoing (hkeep : j.request.keepGoing = false) :
    (run s words disk).state.effects = (disk, []) ∧
      match Entry.compileAll j.entries j.fields j.request.folders with
      | .ok _ => Prints j j.compiled 0 (run s words disk) ∧
          (run s words disk).state.err = j.entries.zipIdx.flatMap (progressLine s.columns j.verbose)
      | .error f => (run s words disk).code = 2 ∧ (run s words disk).state.out = [] ∧
          (run s words disk).state.err =
            (j.entries.take (f.index + 1)).zipIdx.flatMap (progressLine s.columns j.verbose) ++
              toldBehind s.columns "Error:" f.message := by
  obtain ⟨logged, hrun⟩ := exists_compileEntries_of_job hjob
  rw [compileEntries_eq s, hkeep] at hrun
  rw [Entry.compileAll]
  cases hall : Entry.compileFrom 0 j.fields j.request.folders j.entries with
  | ok qs =>
    rw [run_bind_of_ok (run_compileEach_of_ok hall _)] at hrun
    obtain ⟨hprints, heffects, herr⟩ := prints_of_run hrun rfl
    exact ⟨heffects, hprints, herr⟩
  | error f =>
    have hmem := List.mem_of_head? (Entry.compileFrom_eq_error_iff.1 hall)
    rw [run_bind_of_exit (run_compileEach_of_error hall _),
      run_bind_of_ok (run_error (hopen f hmem) _)] at hrun
    rw [run, (finish_eq _ _).1, (finish_eq _ _).2, hrun]
    exact ⟨rfl, rfl, rfl, List.append_assoc _ _ _⟩

end

/-- Compiling a list at once and running the query command agree.

    Two lists one after the other compile to the queries of both, or fail as the first one
    does, or as the second one with its place counted on.

    A run of the command whose failures have no bracket in their messages changes no file
    and sends nothing. Without `--keep-going` it prints the queries of all entries, or
    prints nothing, tells of the failure that compiling the list at once gives, and ends with
    2. With `--keep-going` it prints the queries of the entries that compile on their own,
    warns about each of the others at its place, and ends with 2 if there is one.

    Where nothing in the message of a failure is shown as something else, what is told of it is
    the message if that has room in the lines of the console. In any case in which no character
    joins others or changes their look, it is the message up to the blanks in it, on lines that
    are no wider than the console. -/
theorem run_agrees (fields : List Text) (folders : Bool) (xs ys : List Entry)
    (s : Surroundings) (words : List Text) (disk : Build.Disk) (j : Job) :
    (Entry.compileAll (xs ++ ys) fields folders =
      match Entry.compileAll xs fields folders, Entry.compileAll ys fields folders with
      | .error f, _ => .error f
      | .ok _, .error f => .error { f with index := xs.length + f.index }
      | .ok qs, .ok qs' => .ok (qs ++ qs')) ∧
    (job? s words disk = some j → (∀ f ∈ j.failures, .char '[' ∉ f.message) →
      let o := run s words disk
      o.state.effects = (disk, []) ∧
      (j.request.keepGoing = false →
        match Entry.compileAll j.entries j.fields j.request.folders with
        | .ok qs => j.compiled.map (·.query) = qs ∧
            j.compiled.map (fun q => (q.entry, q.index)) = j.entries.zipIdx ∧
            Prints j j.compiled 0 o ∧
            o.state.err = j.entries.zipIdx.flatMap (progressLine s.columns j.verbose)
        | .error f => o.code = 2 ∧ o.state.out = [] ∧
            o.state.err =
              (j.entries.take (f.index + 1)).zipIdx.flatMap (progressLine s.columns j.verbose) ++
              toldBehind s.columns "Error:" f.message) ∧
      (j.request.keepGoing = true →
        Prints j j.compiled (if j.failures = [] then 0 else 2) o ∧
        o.state.err =
          j.entries.zipIdx.flatMap (warnedAt s.columns j.verbose j.fields j.request.folders)) ∧
      ∀ f ∈ j.failures, Console.IsVerbatim f.message → f.message.IsWhole →
        ∀ label ∈ (["Error:", "Warning:"] : List Text),
          let line := label ++ " " ++ f.message
          (Console.Fits s.columns line → toldBehind s.columns label f.message = line ++ "\n") ∧
          (Console.IsSeparate f.message →
            Text.ink (toldBehind s.columns label f.message) = Text.ink line ∧
            ∀ w ∈ s.columns, ∀ t ∈ Text.pieces '\n' (toldBehind s.columns label f.message),
              Console.cells t ≤ w.cells)) := by
  refine ⟨Entry.compileAll_append xs ys, fun hjob hopen => ?_⟩
  intro o
  refine ⟨?effects, ?first, ?keepGoing, ?verbatim⟩
  case effects =>
    cases hkeep : j.request.keepGoing with
    | true => exact (run_of_keepGoing hjob hopen hkeep).1
    | false => exact (run_of_not_keepGoing hjob hopen hkeep).1
  case first =>
    intro hkeep
    have hrun := (run_of_not_keepGoing hjob hopen hkeep).2
    cases hall : Entry.compileAll j.entries j.fields j.request.folders with
    | ok qs =>
      rw [hall] at hrun
      obtain ⟨hqueries, hplaces⟩ := map_compiledFrom_of_ok hall
      exact ⟨hqueries, hplaces, hrun⟩
    | error f =>
      rw [hall] at hrun
      exact hrun
  case keepGoing => exact fun hkeep => (run_of_keepGoing hjob hopen hkeep).2
  case verbatim =>
    intro f _ hverbatim hwhole label hlabel
    have hlabels : ∀ label ∈ (["Error:", "Warning:"] : List Text),
        Text.IsWhole label ∧ .char '\t' ∉ label ∧ Console.IsSeparate (label ++ " ") := by decide
    obtain ⟨hlabelWhole, htab, hseparate⟩ := hlabels label hlabel
    refine ⟨toldBehind_of_fits hlabelWhole htab hverbatim hwhole, fun h => ?_⟩
    have hall := Console.isSeparate_append.2 ⟨hseparate, h⟩
    refine ⟨ink_toldBehind hlabelWhole htab hverbatim hwhole s.columns hall, fun w hw t ht => ?_⟩
    rw [Option.mem_def.1 hw] at ht
    exact cells_le_of_mem_toldBehind hlabelWhole htab hverbatim hwhole hall ht

theorem run_agrees_three_entries :
    let s : Surroundings := {
      here := []
      environment := [("HOME", "/h")]
      now := (⟨⟨2024, 1, 2⟩, 3, 4, 5, 0, none⟩ : Time.Timestamp)
      millis := 0
      suffix := Text.ofNat
      reply := .answer 204 []
      columns := some 80 }
    let spec : Text := "\x7b\"files\": [\x7b\"pattern\": \"libs/a\"\x7d, " ++
      "\x7b\"pattern\": \"libs/b\", \"props\": \"bad\"\x7d, \x7b\"pattern\": \"libs/c\"\x7d]\x7d"
    let disk : Build.Disk :=
      ⟨⟨[(["c.toml"], .file []), (["spec.json"], .file (Utf8.encode spec))]⟩, 0⟩
    let words : List Text := ["-c", "c.toml", "query", "--spec", "spec.json", "--fields", "n", "-k"]
    let query (name : Text) : Text :=
      "items.find(\x7b\"repo\": \"libs\",\"$or\": [\x7b\"$and\": [\x7b\"path\": " ++
        "\x7b\"$match\": \".\"\x7d,\"name\": \x7b\"$match\": \"" ++ name ++
        "\"\x7d\x7d]\x7d]\x7d).include(n)"
    let o := run s words disk
    o.code = 2 ∧ o.state.out = inLines [query "a", query "c"] ∧
      o.state.err =
        "Warning: Spec entry #2 ('bad'): Invalid property 'bad': expected key=value\n" := by
  intro s spec disk words query o
  let entries : List Entry := [{ pattern := "libs/a" },
    { pattern := "libs/b", properties := "bad" }, { pattern := "libs/c" }]
  let message : Text := "Spec entry #2 ('bad'): Invalid property 'bad': expected key=value"
  have hjob : ((job? s words disk).map fun j =>
      ([j.verbose, j.request.keepGoing, j.request.asJson, j.request.folders], j.fields,
        j.entries)) = some ([false, true, false, false], [Text.ofString "n"], entries) := by
    decide +kernel
  have hfailures : (Entry.failuresFrom 0 [Text.ofString "n"] false entries).map (·.message) =
      [message] := by decide +kernel
  have hcompiled : (compiledFrom 0 [Text.ofString "n"] false entries).map (·.query) =
      [query "a", query "c"] := by decide +kernel
  have hlines : ∀ q ∈ ([query "a", query "c"] : List Text), IsLine q := by decide +kernel
  have hwarned : entries.zipIdx.flatMap (warnedAt s.columns false [Text.ofString "n"] false) =
      Text.ofString
        "Warning: Spec entry #2 ('bad'): Invalid property 'bad': expected key=value\n" := by
    decide +kernel
  have hbracket : .char '[' ∉ message := by decide +kernel
  -- From here on nothing is evaluated.
  clear_value s disk words message entries query
  obtain ⟨j, hj, hr⟩ := Option.map_eq_some_iff.1 hjob
  simp only [Prod.mk.injEq, List.cons.injEq, and_true] at hr
  obtain ⟨⟨hverbose, hkeep, hjson, hfolders⟩, hfields, hentries⟩ := hr
  rw [← hfields, ← hfolders, ← hentries] at hfailures hcompiled
  have hopen : ∀ f ∈ j.failures, .char '[' ∉ f.message := by
    intro f hf
    have hmem : f.message ∈ [message] := hfailures ▸ List.mem_map_of_mem hf
    rwa [List.mem_singleton.1 hmem]
  have hsome : j.failures ≠ [] := fun hnone => by
    have hnil : j.failures.map (·.message) = [message] := hfailures
    simp [hnone] at hnil
  obtain ⟨_, _, hgoes, _⟩ := (run_agrees [] false [] [] s words disk j).2 hj hopen
  obtain ⟨hprints, herr⟩ := hgoes hkeep
  rw [if_neg hsome] at hprints
  have hqueries : j.compiled.map (·.query) = [query "a", query "c"] := hcompiled
  obtain ⟨hcode, hout⟩ := (hprints.text hjson).2 fun q hq =>
    hlines q.query (hqueries ▸ List.mem_map_of_mem hq)
  rw [hqueries] at hout
  rw [hverbose, hfields, hfolders, hentries, hwarned] at herr
  exact ⟨hcode, hout, herr⟩

/-- A code of an emoji in a property list is not told as it was written. -/
theorem run_tells_emoji :
    let s : Surroundings := {
      here := []
      environment := [("HOME", "/h")]
      now := (⟨⟨2024, 1, 2⟩, 3, 4, 5, 0, none⟩ : Time.Timestamp)
      millis := 0
      suffix := Text.ofNat
      reply := .answer 204 [] }
    let disk : Build.Disk := ⟨⟨[(["c.toml"], .file [])]⟩, 0⟩
    let words : List Text := ["-c", "c.toml", "query", "libs/a", "--props", ":100:"]
    ∃ j f, job? s words disk = some j ∧ j.verbose = false ∧ j.request.keepGoing = false ∧
      (∀ f ∈ j.failures, .char '[' ∉ f.message) ∧
      Entry.compileAll j.entries j.fields j.request.folders = .error f ∧
      f.message = "Spec entry #1 (':100:'): Invalid property ':100:': expected key=value" ∧
      (run s words disk).state.err =
        "Error: Spec entry #1 ('💯'): Invalid property '💯': expected key=value\n" := by
  intro s disk words
  let f : Entry.Failure := ⟨0, ":100:", .property ⟨":100:"⟩⟩
  have hjob : ((job? s words disk).map fun j => ([j.verbose, j.request.keepGoing],
      Entry.failuresFrom 0 j.fields j.request.folders j.entries)) = some ([false, false], [f]) := by
    decide +kernel
  have hmessage : f.message =
      "Spec entry #1 (':100:'): Invalid property ':100:': expected key=value" := by decide +kernel
  have hbracket : .char '[' ∉ f.message := by decide +kernel
  have htold : toldBehind s.columns "Error:" f.message =
      "Error: Spec entry #1 ('💯'): Invalid property '💯': expected key=value\n" := by
    decide +kernel
  -- From here on nothing is evaluated.
  clear_value s disk words f
  obtain ⟨j, hj, hr⟩ := Option.map_eq_some_iff.1 hjob
  simp only [Prod.mk.injEq, List.cons.injEq, and_true] at hr
  obtain ⟨⟨hverbose, hkeep⟩, hfailures⟩ := hr
  have hopen : ∀ f ∈ j.failures, .char '[' ∉ f.message := by
    intro f' hf'
    have hmem : f' ∈ [f] := hfailures ▸ hf'
    rwa [List.mem_singleton.1 hmem]
  have hbatch : Entry.compileAll j.entries j.fields j.request.folders = .error f :=
    Entry.compileFrom_eq_error_iff.2 (by rw [hfailures]; rfl)
  have hrun := (run_of_not_keepGoing hj hopen hkeep).2
  rw [hbatch] at hrun
  obtain ⟨_, _, herr⟩ := hrun
  rw [htold, hverbose] at herr
  have hsilent (ps : List (Entry × Nat)) : ps.flatMap (progressLine s.columns false) = [] :=
    List.flatMap_eq_nil_iff.2 fun _ _ => rfl
  refine ⟨j, f, hj, hverbose, hkeep, hopen, hbatch, hmessage, ?_⟩
  rw [herr, hsilent, List.nil_append]

end Depot.Command.Query
