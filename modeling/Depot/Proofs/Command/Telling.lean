import Depot.Proofs.Command.Steps
import Depot.Proofs.Console.Markup
import Depot.Proofs.Text.Quoted

/-!
# What a run tells

A run tells a message beside its results if the message can be shown. Otherwise the message
ends the run by a crash (`run_sayBeside_of_untold`). A message in which no tag is found can
always be shown (`plain_errorText`, `plain_warningText`), in particular one without brackets
(`Console.tokens_of_no_bracket`). One that closes a style cannot (`plain_errorText_of_closing`).

`Refuses s message code o`: the outcome is that of a run whose last act was to tell an error and
to end with a code.
-/

namespace Depot.Command

variable {α β : Type} {s : Surroundings} {message : Text} {fault : Console.Fault} {code : Nat}

/-! ## Messages -/

/-- A message about an error can be told when it has no tag. -/
theorem plain_errorText (columns : Option Console.Width)
    (h : Console.tokens message = Console.characters message) :
    Console.plain columns (errorText message) =
      .ok (Console.printed columns
        (Console.expandTabs ("Error:" ++ " " ++ Console.shownText message))) := by
  have hname : Console.IsName "error" := Console.isName_of_mem (by simp)
  have hlabel : Console.IsVerbatim "Error:" := by decide
  exact Console.plain_labelled columns hname hlabel (by decide) h

/-- A warning can be told when it has no tag. -/
theorem plain_warningText (columns : Option Console.Width)
    (h : Console.tokens message = Console.characters message) :
    Console.plain columns (warningText message) =
      .ok (Console.printed columns
        (Console.expandTabs ("Warning:" ++ " " ++ Console.shownText message))) := by
  have hname : Console.IsName "warning" := Console.isName_of_mem (by simp)
  have hlabel : Console.IsVerbatim "Warning:" := by decide
  exact Console.plain_labelled columns hname hlabel (by decide) h

/-- A message about an error cannot be told when it closes a style: none is open in it. -/
theorem plain_errorText_of_closing (columns : Option Console.Width) {t name u : Text}
    (ht : .char '[' ∉ t)
    (hend : Text.endsWith '\\' (" " ++ t) = false) (hname : Console.IsName name) :
    Console.plain columns (errorText (t ++ .char '[' :: .char '/' :: (name ++ .char ']' :: u))) =
      .error .unmatched := by
  have hstyle : Console.IsName "error" := Console.isName_of_mem (by simp)
  have hlabel : Console.IsVerbatim "Error:" := by decide
  have hopen : .char '[' ∉ (" " : Text) ++ t :=
    fun hmem => (List.mem_append.1 hmem).elim (by decide) ht
  rw [errorText, List.append_assoc, ← List.append_assoc (Text.ofString " ")]
  exact Console.plain_of_closing columns hstyle hlabel.noOpen (by decide) hname hopen hend

/-- A message that cannot be told ends the run by a crash. -/
theorem run_sayBeside_of_untold (h : Console.plain s.columns message = .error fault)
    (st : State) : ∃ st', (sayBeside s message).run st = (.error (.crash (.markup fault)), st') ∧
      st'.results = st.results := by
  refine ⟨((sayBeside s message).run st).2, Prod.ext ?_ rfl, keeps_sayBeside s message st⟩
  rw [sayBeside, shown, h]
  rfl

/-- Neither a half of a surrogate pair nor what it is shown by is a blank. -/
theorem ink_flatMap_besideResults (t : Text) :
    Text.ink (t.flatMap besideResults) = (Text.ink t).flatMap besideResults := by
  have hescaping : ∀ c ∈ Text.escaping, Text.isBlank c = false := by decide
  have hone (c : CodePoint) :
      Text.ink (besideResults c) = if Text.isBlank c then [] else besideResults c := by
    rw [besideResults]
    cases hhalf : c.isHalf with
    | true =>
      have hblank : Text.isBlank c = false := Text.isBlank_eq_false_of_isHalf hhalf
      simp only [hblank, Bool.false_eq_true, if_false, if_true]
      exact List.filter_eq_self.2 fun d hd => by
        simp [hescaping d (Text.mem_escaping_of_mem_showNumber hd)]
    | false => cases hblank : Text.isBlank c <;> simp [Text.ink, hblank]
  induction t with
  | nil => rfl
  | cons c t ih =>
    rw [List.flatMap_cons, Text.ink_append, ih, hone]
    cases hblank : Text.isBlank c <;> simp [Text.ink, hblank]

/-! ## Refusals -/

/-- The run has told an error and ended with a code, if the message can be told. -/
structure Refuses (s : Surroundings) (message : Text) (code : Nat) (o : Outcome) : Prop where
  told : ∀ t, Console.plain s.columns (errorText message) = .ok t →
    o.code = code ∧ o.crash = none ∧ (t ++ "\n").flatMap besideResults <:+ o.state.err
  untold : ∀ fault, Console.plain s.columns (errorText message) = .error fault →
    o.code = 1 ∧ o.crash = some (.markup fault)

/-- The run has ended with a code when it told a message without brackets. -/
theorem Refuses.code_eq {o : Outcome} (h : Refuses s message code o)
    (hopen : .char '[' ∉ message) : o.code = code ∧ o.crash = none := by
  obtain ⟨hcode, hcrash, _⟩ :=
    h.told _ (plain_errorText s.columns (Console.tokens_of_no_bracket hopen))
  exact ⟨hcode, hcrash⟩

/-- What would come after the end of the run does not matter. -/
theorem run_bind_of_exit {action : Action α} {tell : Action Unit} {st st' : State}
    (h : action.run st = (tell >>= fun _ => exit code).run st') (f : α → Action β) :
    (action >>= f).run st = (tell >>= fun _ => exit code).run st' := by
  rw [run_bind, h, run_bind, run_bind]
  -- The run ends, by the code or by what cannot be told.
  cases tell.run st' with
  | mk ended st => cases ended <;> rfl

/-- An action that tells an error and ends the run refuses what it was asked for, and leaves the
    results as they are. -/
theorem refuses_of_run {action : Action Unit} {disk : Build.Disk} {st : State}
    (hrun : action.run { disk := disk } = (error s message >>= fun _ => exit code).run st) :
    Refuses s message code (finish action disk) ∧
      (finish action disk).state.results = st.results := by
  obtain ⟨hcode, hstate⟩ := finish_eq action disk
  have hcrash := crash_finish action disk
  rw [hrun, error] at hcode hstate hcrash
  refine ⟨⟨fun t ht => ?_, fun fault hfault => ?_⟩, ?_⟩
  · rw [run_bind_of_ok (run_sayBeside ht st)] at hcode hstate hcrash
    rw [hcode, hstate, hcrash]
    exact ⟨rfl, rfl, List.suffix_append _ _⟩
  · obtain ⟨st', huntold, _⟩ := run_sayBeside_of_untold hfault st
    rw [run_bind_of_error huntold] at hcode hcrash
    exact ⟨hcode, hcrash⟩
  · rw [hstate]
    exact keeps_error_exit s message code st

end Depot.Command
