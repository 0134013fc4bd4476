import Depot.Proofs.Command.Specs
import Depot.Proofs.Text.Quoted

/-!
# Failures that are told

A failure is told with the number of its entry and the part of it that is to blame, between
quotes (`naming`). Both are in what the run prints beside its results (`names_toldBehind`), if
the message has no tag and there is no code of an emoji in front of the reason. A bracket or a
colon in the part to blame may make one of these. They are there as they are if the console
has room for them in one line; else there are line breaks in them, in place of blanks or
between their characters.

`run_of_failures` has this for whole runs, whatever they have been warned about before: what
they print of the failures and of the queries that compile, and how they end where a message
cannot be told.
-/

namespace Depot.Command.Query

open CommandLine Spec

variable {s : Surroundings} {words : List Text} {disk : Build.Disk} {b : Start} {c : Context}
  {es : List Entry} {f : Entry.Failure} {fields : List Text} {folders : Bool}

/-! ## Messages about failures -/

/-- The number of the entry that fails, and the part of it that is to blame. -/
def naming (f : Entry.Failure) : Text :=
  "Spec entry #" ++ Text.ofNat (f.index + 1) ++ " (" ++ Text.quoted f.fragment ++ "):"

theorem message_eq (f : Entry.Failure) :
    f.message = naming f ++ .char ' ' :: f.fault.message := by
  have hclose : ("): " : Text) = ("):" : Text) ++ [.char ' '] := rfl
  rw [Entry.Failure.message, naming, hclose]
  simp only [List.append_assoc, List.singleton_append]

/-- A number and a text between quotes are printable. -/
theorem isLegible_naming (f : Entry.Failure) : Text.IsLegible (naming f) := by
  simp only [naming, Text.isLegible_append]
  exact ⟨⟨⟨⟨by decide, Text.isLegible_ofNat _⟩, by decide⟩, Text.isLegible_quoted _⟩, by decide⟩

/-- No part of the message is taken for a tag, and none in front of the reason for the code of
    an emoji. -/
structure IsUnmarked (f : Entry.Failure) : Prop where
  noTag : Console.tokens f.message = Console.characters f.message
  noCode : Console.Emoji.replace (naming f) = naming f

/-- The reason quotes nothing but the part to blame. -/
theorem reason_eq_or {index : Nat} (hf : f ∈ Entry.failuresFrom index fields folders es) :
    f.fault.message = Entry.Fault.empty.message ∨ ∃ piece ⊆ f.fragment,
      f.fault.message = Text.ofString "Invalid property '" ++ piece ++ "': expected key=value" := by
  obtain ⟨p, _, hp⟩ := List.mem_filterMap.1 hf
  rw [Entry.failureAt?] at hp
  split at hp
  · obtain rfl := Option.some.inj hp
    next fault _ =>
    cases fault with
    | empty => exact .inl rfl
    | property m =>
      refine .inr ⟨m.fragment, ?_, rfl⟩
      by_cases hnil : m.fragment = []
      · exact hnil ▸ List.nil_subset _
      · rw [Entry.Fault.fragment, if_pos hnil]
        exact List.Subset.refl _
  · contradiction

/-- There is no markup where the part to blame has neither brackets nor colons. -/
theorem isUnmarked_of_mem {index : Nat} (hf : f ∈ Entry.failuresFrom index fields folders es)
    (hopen : .char '[' ∉ f.fragment) (hcolon : .char ':' ∉ f.fragment) : IsUnmarked f := by
  have hreason : .char '[' ∉ f.fault.message := by
    rcases reason_eq_or hf with heq | ⟨piece, hpiece, heq⟩
    · exact heq ▸ (by decide : .char '[' ∉ Entry.Fault.empty.message)
    · simp only [heq, List.mem_append, not_or]
      exact ⟨⟨by decide, fun hmem => hopen (hpiece hmem)⟩, by decide⟩
  refine ⟨Console.tokens_of_no_bracket ?_, Console.Emoji.replace_of_count_le_one ?_⟩
  · have hnumber : .char '[' ∉ Text.ofNat (f.index + 1) := Text.not_mem_ofNat (by decide)
    have hquoted : .char '[' ∉ Text.quoted f.fragment := Text.not_mem_quoted (by decide) hopen
    simp only [message_eq, naming, List.mem_append, List.mem_cons, not_or]
    exact ⟨⟨⟨⟨⟨by decide, hnumber⟩, by decide⟩, hquoted⟩, by decide⟩, by decide, hreason⟩
  · have hnumber : (Text.ofNat (f.index + 1)).count (.char ':') = 0 :=
      List.count_eq_zero.2 (Text.not_mem_ofNat (by decide))
    have hquoted : (Text.quoted f.fragment).count (.char ':') = 0 :=
      List.count_eq_zero.2 (Text.not_mem_quoted (by decide) hcolon)
    simp only [naming, List.count_append, hnumber, hquoted]
    decide

/-- Nothing of the number and the part to blame is left out or replaced. -/
theorem IsUnmarked.shownText_naming (h : IsUnmarked f) :
    Console.shownText (naming f) = naming f := by
  rw [Console.shownText, h.noCode, List.filter_eq_self]
  intro c hc
  rw [Bool.not_eq_true', ← Bool.not_eq_true]
  intro hdropped
  have hlt := (Console.lt_of_isDropped hdropped).1
  have hprintable := isLegible_naming f c hc
  rw [Text.isPrintable, if_pos (by omega), decide_eq_true_eq] at hprintable
  omega

theorem isSeparate_naming (h : Console.IsSeparate f.fragment) : Console.IsSeparate (naming f) := by
  have hnumber : Console.IsSeparate (Text.ofNat (f.index + 1)) := fun c hc =>
    ⟨fun heq => Text.not_mem_ofNat (by decide) (heq ▸ hc),
      fun heq => Text.not_mem_ofNat (by decide) (heq ▸ hc)⟩
  have hescaping : Console.IsSeparate Text.escaping := by decide
  have hquoted : Console.IsSeparate (Text.quoted f.fragment) := fun c hc =>
    (Text.mem_quoted hc).elim (fun hmem => h c hmem.1) (hescaping c)
  simp only [naming, Console.isSeparate_append]
  exact ⟨⟨⟨⟨by decide, hnumber⟩, by decide⟩, hquoted⟩, by decide⟩

/-- What is shown of a failure has the characters of the part to blame and of the program. -/
theorem isSeparate_shownText_of_mem {index : Nat}
    (hf : f ∈ Entry.failuresFrom index fields folders es) (hopen : .char '[' ∉ f.fragment)
    (hcolon : .char ':' ∉ f.fragment) (h : Console.IsSeparate f.fragment) :
    Console.IsSeparate (Console.shownText f.message) := by
  have hreason : Console.IsSeparate f.fault.message ∧ f.fault.message.count (.char ':') ≤ 1 := by
    rcases reason_eq_or hf with heq | ⟨piece, hpiece, heq⟩
    · exact heq ▸ (by decide : Console.IsSeparate Entry.Fault.empty.message ∧
        Entry.Fault.empty.message.count (.char ':') ≤ 1)
    · have hnone : piece.count (.char ':') = 0 :=
        List.count_eq_zero.2 fun hmem => hcolon (hpiece hmem)
      simp only [heq, Console.isSeparate_append, List.count_append, hnone]
      exact ⟨⟨⟨by decide, h.subset hpiece⟩, by decide⟩, by decide⟩
  have hshown : Console.shownText f.fault.message ⊆ f.fault.message := by
    rw [Console.shownText, Console.Emoji.replace_of_count_le_one hreason.2]
    exact List.filter_subset_self _
  rw [message_eq, Console.shownText_append_blank,
    (isUnmarked_of_mem hf hopen hcolon).shownText_naming,
    Console.isSeparate_append]
  exact ⟨isSeparate_naming h, List.forall_mem_cons.2 ⟨by decide, hreason.1.subset hshown⟩⟩

/-- What is printed has the number of the entry and the part to blame in it: as they are if they
    have room in the line that they start behind a label, and up to the blanks in them if every
    character takes cells of its own. -/
structure Names (columns : Option Console.Width) (label : Text) (f : Entry.Failure)
    (printed : Text) : Prop where
  whole : Console.Fits columns (label ++ " " ++ naming f) → naming f <:+: printed
  ink : Console.IsSeparate (Console.shownText f.message) →
    Text.ink (naming f) <:+: Text.ink printed

theorem Names.of_isInfix {columns : Option Console.Width} {label t u : Text}
    (h : Names columns label f t) (htu : t <:+: u) : Names columns label f u where
  whole hfits := (h.whole hfits).trans htu
  ink hseparate := (h.ink hseparate).trans (htu.filter _)

/-- Behind every label, a failure is told with its number and the part to blame. -/
theorem names_toldBehind (columns : Option Console.Width) {label : Text}
    (hlabel : label ∈ (["Error:", "Warning:"] : List Text)) (h : IsUnmarked f) :
    Names columns label f (toldBehind columns label f.message) := by
  have hlabels : ∀ label ∈ (["Error:", "Warning:"] : List Text), Text.IsLegible (label ++ " ") ∧
      Console.IsSeparate (label ++ " ") ∧ label ≠ [] ∧ label.head?.any Text.isBlank = false := by
    decide
  obtain ⟨hlegible, hseparate, hne, hstart⟩ := hlabels label hlabel
  have hfront : Text.IsLegible (label ++ " " ++ naming f) :=
    Text.isLegible_append.2 ⟨hlegible, isLegible_naming f⟩
  have hsplit : label ++ " " ++ Console.shownText f.message =
      label ++ " " ++ naming f ++ .char ' ' :: Console.shownText f.fault.message := by
    rw [message_eq, Console.shownText_append_blank, h.shownText_naming, ← List.append_assoc]
  rw [toldBehind, lineBeside, hsplit]
  refine ⟨fun hfits => ?_, fun hshown => ?_⟩
  · -- What comes before the reason has no tab in it and room in its line, so that it stays there.
    have hblank : Text.IsLegible (label ++ " " ++ naming f ++ [CodePoint.char ' ']) :=
      Text.isLegible_append.2 ⟨hfront, by decide⟩
    obtain ⟨rest, hrest⟩ := Console.prefix_expandTabs (hblank.not_mem (by decide))
      (hblank.not_mem (by decide)) (Console.shownText f.fault.message)
    have hend : Text.stripEnd (label ++ " " ++ naming f) = label ++ " " ++ naming f := by
      have hclose : ("):" : Text) = [.char ')'] ++ [.char ':'] := rfl
      rw [naming, hclose, ← List.append_assoc, ← List.append_assoc]
      exact List.rdropWhile_concat_neg _ _ _ (by decide)
    have hhead : (label ++ " " ++ naming f).head?.any Text.isBlank = false := by
      rwa [List.append_assoc, List.head?_append_of_ne_nil _ hne]
    obtain ⟨more, hmore⟩ := Console.prefix_printed (by simp [hne]) hhead hend
      (hfront.not_mem (by decide +kernel)) (hfront.not_mem (by decide)) hfits rest
    rw [List.append_cons, ← hrest, ← List.append_cons, ← hmore, List.append_assoc,
      List.flatMap_append, flatMap_besideResults hfront.isWhole]
    exact ⟨label ++ " ", _, rfl⟩
  · have hall : Console.IsSeparate
        (label ++ " " ++ naming f ++ .char ' ' :: Console.shownText f.fault.message) := by
      rw [← hsplit]
      exact Console.isSeparate_append.2 ⟨hseparate, hshown⟩
    have hnaming : (Text.ink (naming f)).flatMap besideResults = Text.ink (naming f) :=
      flatMap_besideResults fun c hc => (isLegible_naming f).isWhole c (List.mem_of_mem_filter hc)
    rw [ink_flatMap_besideResults, Text.ink_append,
      Console.ink_printed columns (Console.isSeparate_expandTabs hall), Console.ink_expandTabs,
      Text.ink_append, Text.ink_append]
    simp only [List.flatMap_append, hnaming, List.append_assoc]
    exact ⟨_, _, List.append_assoc ..⟩

/-! ## Messages that cannot be told -/

/-- The first failure that cannot be told ends a run that keeps going. -/
theorem run_compileEach_of_untold {index : Nat} {fault : Console.Fault}
    (h : ((Entry.failuresFrom index fields folders es).mapM fun f =>
      Console.plain s.columns (warningText f.message)) = .error fault) (st : State) :
    ∃ st', (compileEach s c fields folders true index es).run st =
      (.error (.crash (.markup fault)), st') ∧ st'.results = st.results := by
  induction es generalizing index st with
  | nil => contradiction
  | cons e es ih =>
    rw [compileEach, run_bind_of_ok (run_progress (e, index) st)]
    cases hcompile : e.compile fields folders with
    | ok q =>
      rw [Entry.failuresFrom_cons_of_ok hcompile] at h
      obtain ⟨st', hrun, hst'⟩ :=
        ih h { st with err := st.err ++ progressLine s.columns c.verbose (e, index) }
      exact ⟨st', run_bind_of_error hrun _, hst'⟩
    | error reason =>
      rw [Entry.failuresFrom_cons_of_error hcompile, List.mapM_cons, bind_eq_error_iff] at h
      simp only [if_true]
      -- Either the failure of this entry is the one, or one further on.
      rcases h with huntold | ⟨t, htold, h⟩
      · obtain ⟨st', hrun, hst'⟩ := run_sayBeside_of_untold huntold
          { st with err := st.err ++ progressLine s.columns c.verbose (e, index) }
        exact ⟨st', run_bind_of_error hrun _, hst'⟩
      · -- This one is told, and another one further on is not.
        rw [warning, run_bind_of_ok (run_sayBeside_toldOf htold _)]
        obtain ⟨st', hrun, hst'⟩ := ih (bind_pure_eq_error_iff.1 h) _
        exact ⟨st', run_bind_of_error hrun _, hst'⟩

/-! ## Whole runs -/

/-- What a run has to do with some entries when it has come to the command. -/
def Start.job (b : Start) (es : List Entry) : Job := ⟨b.config, b.verbose, b.request, es⟩

section

variable (hstart : start? s words disk = some b) (hentries : entriesOf? s b.request disk = some es)

include hstart hentries

/-- A run that has its entries comes to compile them. -/
theorem run_of_entries :
    (unlessAsked s groupShape shapes (program s words)).run { disk := disk } =
      ExceptT.run (compileEach s b.context (b.job es).fields (b.job es).request.folders
          (b.job es).request.keepGoing 0 (b.job es).entries >>= fun o =>
        printQueries (b.job es).request.asJson o.1 >>= fun _ => if o.2 then exit 2 else pure ())
        b.state := by
  obtain ⟨hrun, hst, _⟩ := run_of_start hstart
  have hdisk : b.state.disk = disk := (Prod.mk.inj hst).1
  rw [hrun, run_perform (hdisk.symm ▸ hentries)]
  exact congrArg (fun a : Action Unit => a.run b.state) (compileEntries_eq s (b.job es))

/-- A run that does not keep going tells of the first failure and prints nothing. -/
theorem run_of_first_failure (hkeep : (b.job es).request.keepGoing = false)
    (hf : (b.job es).failures.head? = some f) :
    Refuses s f.message 2 (run s words disk) ∧
      (run s words disk).state.results = (disk, [], []) := by
  have hst := (run_of_start hstart).2.1
  have hrun := run_of_entries hstart hentries
  rw [hkeep, run_bind_of_exit (run_compileEach_of_error
    (Entry.compileFrom_eq_error_iff.2 hf) b.state)] at hrun
  obtain ⟨hrefuses, hresults⟩ := refuses_of_run hrun
  exact ⟨hrefuses, hresults.trans hst⟩

/-- A run that keeps going, and can tell of all failures, prints the queries of the entries that
    compile on their own. -/
theorem run_of_told (hkeep : (b.job es).request.keepGoing = true)
    (hsome : (b.job es).failures ≠ [])
    (htold : ∀ f ∈ (b.job es).failures,
      ∃ t, Console.plain s.columns (warningText f.message) = .ok t) :
    (run s words disk).state.effects = (disk, []) ∧
      Prints (b.job es) (b.job es).compiled 2 (run s words disk) ∧
      ∀ f ∈ (b.job es).failures,
        toldOf s.columns (warningText f.message) <:+: (run s words disk).state.err := by
  have hst := (run_of_start hstart).2.1
  have hout : b.state.out = [] := (Prod.mk.inj (Prod.mk.inj hst).2).2
  have hrun := run_of_entries hstart hentries
  rw [hkeep, run_bind_of_ok (run_compileEach_keepGoing 0 _ b.state htold)] at hrun
  obtain ⟨hprints, heffects, herr⟩ := prints_of_run (j := b.job es) hrun hout
  have hcode : (if decide ((b.job es).failures ≠ []) = true then 2 else 0) = 2 :=
    if_pos (decide_eq_true hsome)
  refine ⟨heffects.trans (State.effects_of_results hst), hcode ▸ hprints, fun f hf => ?_⟩
  obtain ⟨p, hp, hfailure⟩ := List.mem_filterMap.1 hf
  have hat := List.infix_of_mem_flatten (List.mem_map_of_mem
    (f := toldAt s.columns b.context.verbose (b.job es).fields (b.job es).request.folders) hp)
  rw [toldAt, hfailure, Option.elim_some, ← List.flatMap_def] at hat
  rw [run, herr]
  exact ((List.suffix_append _ _).isInfix.trans hat).trans (List.suffix_append _ _).isInfix

/-- A run that keeps going, and comes to a failure that it cannot tell, prints nothing. -/
theorem run_of_untold {fault : Console.Fault} (hkeep : (b.job es).request.keepGoing = true)
    (h : ((b.job es).failures.mapM fun f => Console.plain s.columns (warningText f.message)) =
      .error fault) :
    (run s words disk).code = 1 ∧ (run s words disk).crash = some (.markup fault) ∧
      (run s words disk).state.results = (disk, [], []) := by
  have hst := (run_of_start hstart).2.1
  have hrun := run_of_entries hstart hentries
  obtain ⟨st', hloop, hst'⟩ := run_compileEach_of_untold (c := b.context) h b.state
  rw [hkeep, run_bind_of_error hloop] at hrun
  rw [run, (finish_eq _ _).1, (finish_eq _ _).2, crash_finish, hrun]
  exact ⟨rfl, rfl, hst'.trans hst⟩

end

/-- Failures are told with their entries and the parts of them that are to blame.

    A run that has an entry that does not compile changes no file and sends nothing. Without
    `--keep-going` it prints no query, tells of the first failure and ends with 2. With
    `--keep-going` it tells of every failure, prints the queries of the entries that compile on
    their own, and ends with 2. If a message cannot be told, it is a crash that ends the run.

    If there is no markup in a failure, it is told with the number of its entry and the part to
    blame as they are, where these have room in one line of the console, and otherwise broken
    into lines (`Names`). There is no markup if the part to blame has neither brackets nor
    colons. -/
theorem run_of_failures (hstart : start? s words disk = some b)
    (hentries : entriesOf? s b.request disk = some es) (hsome : (b.job es).failures ≠ []) :
    let j := b.job es
    let o := run s words disk
    o.state.effects = (disk, []) ∧
    (j.request.keepGoing = false → o.state.out = [] ∧
      ∃ f, j.failures.head? = some f ∧ Refuses s f.message 2 o ∧
        (IsUnmarked f → o.code = 2 ∧ Names s.columns "Error:" f o.state.err)) ∧
    (j.request.keepGoing = true →
      (match j.failures.mapM fun f => Console.plain s.columns (warningText f.message) with
        | .ok _ => Prints j j.compiled 2 o ∧
            ∀ f ∈ j.failures, toldOf s.columns (warningText f.message) <:+: o.state.err
        | .error fault => o.code = 1 ∧ o.crash = some (.markup fault) ∧ o.state.out = []) ∧
      ((∀ f ∈ j.failures, IsUnmarked f) →
        Prints j j.compiled 2 o ∧ ∀ f ∈ j.failures, Names s.columns "Warning:" f o.state.err)) ∧
    ∀ f ∈ j.failures, .char '[' ∉ f.fragment → .char ':' ∉ f.fragment → IsUnmarked f ∧
      (Console.IsSeparate f.fragment → Console.IsSeparate (Console.shownText f.message)) := by
  intro j o
  obtain ⟨f, hf⟩ := Option.isSome_iff_exists.1 (List.isSome_head?.2 hsome)
  have hfirst (hkeep : j.request.keepGoing = false) :=
    run_of_first_failure hstart hentries hkeep hf
  have htold (hkeep : j.request.keepGoing = true) {ts : List Text}
      (h : (j.failures.mapM fun f => Console.plain s.columns (warningText f.message)) = .ok ts) :=
    run_of_told hstart hentries hkeep hsome (exists_mapM_eq_ok_iff.1 ⟨ts, h⟩)
  have huntold (hkeep : j.request.keepGoing = true) {fault : Console.Fault}
      (h : (j.failures.mapM fun f => Console.plain s.columns (warningText f.message)) =
        .error fault) :=
    run_of_untold hstart hentries hkeep h
  have hresults (h : o.state.results = (disk, [], [])) :
      o.state.effects = (disk, []) ∧ o.state.out = [] :=
    ⟨State.effects_of_results h, (Prod.mk.inj (Prod.mk.inj h).2).2⟩
  refine ⟨?effects, ?first, ?keepGoing, ?unmarked⟩
  case effects =>
    cases hkeep : j.request.keepGoing with
    | false => exact (hresults (hfirst hkeep).2).1
    | true =>
      cases h : j.failures.mapM fun f => Console.plain s.columns (warningText f.message) with
      | ok ts => exact (htold hkeep h).1
      | error fault => exact (hresults (huntold hkeep h).2.2).1
  case first =>
    intro hkeep
    obtain ⟨hrefuses, hkept⟩ := hfirst hkeep
    refine ⟨(hresults hkept).2, f, hf, hrefuses, fun hunmarked => ?_⟩
    obtain ⟨hcode, _, herr⟩ := hrefuses.told _ (plain_errorText s.columns hunmarked.noTag)
    have htold : toldBehind s.columns "Error:" f.message <:+ o.state.err := herr
    exact ⟨hcode, (names_toldBehind _ (by simp) hunmarked).of_isInfix htold.isInfix⟩
  case keepGoing =>
    refine fun hkeep => ⟨?_, fun hunmarked => ?_⟩
    · cases h : j.failures.mapM fun f => Console.plain s.columns (warningText f.message) with
      | ok ts => exact (htold hkeep h).2
      | error fault =>
        obtain ⟨hcode, hcrash, hkept⟩ := huntold hkeep h
        exact ⟨hcode, hcrash, (hresults hkept).2⟩
    · obtain ⟨_, hprints, herr⟩ := run_of_told hstart hentries hkeep hsome fun f hf =>
        ⟨_, plain_warningText s.columns (hunmarked f hf).noTag⟩
      refine ⟨hprints, fun f hf => ?_⟩
      have htold := herr f hf
      rw [toldOf_warningText s.columns (hunmarked f hf).noTag] at htold
      exact (names_toldBehind _ (by simp) (hunmarked f hf)).of_isInfix htold
  case unmarked =>
    exact fun f hf hopen hcolon => ⟨isUnmarked_of_mem hf hopen hcolon,
      isSeparate_shownText_of_mem hf hopen hcolon⟩

theorem run_of_failures_two_of_three :
    let s : Surroundings := {
      here := []
      environment := [("HOME", "/h")]
      now := (⟨⟨2024, 1, 2⟩, 3, 4, 5, 0, none⟩ : Time.Timestamp)
      millis := 0
      suffix := Text.ofNat
      reply := .answer 204 []
      columns := some 80 }
    let spec : Text := "\x7b\"files\": [\x7b\"pattern\": \"libs/a\", \"props\": \"it's\"\x7d, " ++
      "\x7b\"pattern\": \"libs/b\"\x7d, \x7b\"pattern\": \"libs/c\", \"props\": \"=v\"\x7d]\x7d"
    let disk : Build.Disk :=
      ⟨⟨[(["c.toml"], .file []), (["s.json"], .file (Utf8.encode spec))]⟩, 0⟩
    let words : List Text := ["-c", "c.toml", "query", "--spec", "s.json", "--fields", "n", "-k"]
    let query : Text :=
      "items.find(\x7b\"repo\": \"libs\",\"$or\": [\x7b\"$and\": [\x7b\"path\": " ++
        "\x7b\"$match\": \".\"\x7d,\"name\": \x7b\"$match\": \"b\"\x7d\x7d]\x7d]\x7d).include(n)"
    let o := run s words disk
    o.code = 2 ∧ o.state.out = inLines [query] ∧
      ("Spec entry #1 (\"it's\"):" : Text) <:+: o.state.err ∧
      ("Spec entry #3 ('=v'):" : Text) <:+: o.state.err := by
  intro s spec disk words query o
  let entries : List Entry := [{ pattern := "libs/a", properties := "it's" },
    { pattern := "libs/b" }, { pattern := "libs/c", properties := "=v" }]
  let failures : List Entry.Failure :=
    [⟨0, "it's", .property ⟨"it's"⟩⟩, ⟨2, "=v", .property ⟨"=v"⟩⟩]
  let request : Request := ⟨none, some "s.json", [], true, false, some "n", false, true⟩
  have hstart : ((start? s words disk).map fun b => (b.request, (b.job entries).fields)) =
      some (request, [Text.ofString "n"]) := by
    decide +kernel
  have hentries : entriesOf? s request disk = some entries := by decide +kernel
  have hfailures : Entry.failuresFrom 0 [Text.ofString "n"] false entries = failures := by
    decide +kernel
  have hqueries : (compiledFrom 0 [Text.ofString "n"] false entries).map (·.query) = [query] := by
    decide +kernel
  have hgiven : request.keepGoing = true ∧ request.asJson = false ∧ request.folders = false :=
    ⟨rfl, rfl, rfl⟩
  have hlines : ∀ q ∈ [query], IsLine q := by decide +kernel
  have hopen : ∀ f ∈ failures, .char '[' ∉ f.fragment ∧ .char ':' ∉ f.fragment := by decide
  have hnames : failures.map naming =
      [Text.ofString "Spec entry #1 (\"it's\"):", Text.ofString "Spec entry #3 ('=v'):"] := by
    decide +kernel
  have hfits : ∀ f ∈ failures, Console.Fits s.columns ("Warning:" ++ " " ++ naming f) := by
    decide +kernel
  have hsome : failures ≠ [] := List.cons_ne_nil _ _
  -- From here on nothing is evaluated.
  clear_value s disk words query entries failures request
  obtain ⟨b, hb, hr⟩ := Option.map_eq_some_iff.1 hstart
  obtain ⟨rfl, hfields⟩ := Prod.mk.inj hr
  obtain ⟨hkeep, hjson, hfolders⟩ := hgiven
  rw [← hfields, ← hfolders] at hfailures hqueries
  have hjob : (b.job entries).failures = failures := hfailures
  obtain ⟨_, _, hgoes, hunmarked⟩ := run_of_failures hb hentries (hjob ▸ hsome)
  obtain ⟨hprints, herr⟩ := (hgoes hkeep).2 fun f hf =>
    have hclear := hopen f (hjob ▸ hf)
    (hunmarked f hf hclear.1 hclear.2).1
  obtain ⟨hcode, hout⟩ := (hprints.text hjson).2 fun q hq =>
    hlines q.query (hqueries ▸ List.mem_map_of_mem hq)
  have htold : ∀ n ∈ failures.map naming, n <:+: o.state.err :=
    List.forall_mem_map.2 fun f hf => (herr f (hjob ▸ hf)).whole (hfits f hf)
  rw [hnames] at htold
  exact ⟨hcode, hout.trans (congrArg inLines hqueries), htold _ (by simp), htold _ (by simp)⟩

/-- A property list may be what looks like the end of a style. Then the run crashes. -/
theorem run_crashes_of_bracket :
    let s : Surroundings := {
      here := []
      environment := [("HOME", "/h")]
      now := (⟨⟨2024, 1, 2⟩, 3, 4, 5, 0, none⟩ : Time.Timestamp)
      millis := 0
      suffix := Text.ofNat
      reply := .answer 204 [] }
    let spec : Text :=
      "\x7b\"files\": [\x7b\"pattern\": \"libs/a\", \"props\": \"[/error]\"\x7d]\x7d"
    let disk : Build.Disk :=
      ⟨⟨[(["c.toml"], .file []), (["s.json"], .file (Utf8.encode spec))]⟩, 0⟩
    let words : List Text := ["-c", "c.toml", "query", "--spec", "s.json"]
    let entry : Entry := { pattern := "libs/a", properties := "[/error]" }
    let f : Entry.Failure := ⟨0, "[/error]", .property ⟨"[/error]"⟩⟩
    ∃ b, start? s words disk = some b ∧ entriesOf? s b.request disk = some [entry] ∧
      (b.job [entry]).failures = [f] ∧ (run s words disk).code = 1 ∧
      (run s words disk).crash = some (.markup .unmatched) := by
  intro s spec disk words entry f
  have hstart : ((start? s words disk).map fun b => (entriesOf? s b.request disk,
      b.request.keepGoing, (b.job [entry]).failures)) = some (some [entry], false, [f]) := by
    decide +kernel
  have hmessage : f.message = Text.ofString "Spec entry #1 ('" ++ .char '[' :: .char '/' ::
      (Text.ofString "error" ++ .char ']' ::
        Text.ofString "'): Invalid property '[/error]': expected key=value") := by
    decide +kernel
  have huntold : Console.plain s.columns (errorText f.message) = .error .unmatched := by
    rw [hmessage]
    exact plain_errorText_of_closing _ (by decide) (by decide) (Console.isName_of_mem (by simp))
  -- From here on nothing is evaluated.
  clear_value s disk words entry f
  obtain ⟨b, hb, hr⟩ := Option.map_eq_some_iff.1 hstart
  simp only [Prod.mk.injEq] at hr
  obtain ⟨hentries, hkeep, hfailures⟩ := hr
  have hfirst := run_of_first_failure (f := f) hb hentries hkeep (by rw [hfailures]; rfl)
  exact ⟨b, hb, hentries, hfailures, hfirst.1.untold _ huntold⟩

end Depot.Command.Query
