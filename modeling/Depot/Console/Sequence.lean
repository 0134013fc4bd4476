import Depot.Text

/-!
# Control sequences

A terminal takes an escape character with an opening bracket and what follows it, up
to a final character, as an order and shows nothing for it. Between the bracket and
the final character stand parameters and, behind them, intermediate characters.
Results are printed without such sequences (`withoutSequences`), so that a text given
to the program gives no orders.
-/

namespace Depot.Console

/-- The character that starts a control sequence. -/
def escape : CodePoint := '\x1b'

/-- Whether a character belongs to the parameters of a control sequence. -/
def isParameter (c : CodePoint) : Bool := '0' ≤ c && c ≤ '?'

/-- Whether a character may stand between the parameters and the final character of a
    control sequence. -/
def isIntermediate (c : CodePoint) : Bool := ' ' ≤ c && c ≤ '/'

/-- Whether a character ends a control sequence. -/
def isFinal (c : CodePoint) : Bool := '@' ≤ c && c ≤ '~'

/-- The number of characters of the control sequence that a text starts with. -/
def sequenceLength? : Text → Option Nat
  | '\x1b' :: '[' :: t =>
    let parameters := t.takeWhile isParameter
    let t := t.drop parameters.length
    let intermediates := t.takeWhile isIntermediate
    match t.drop intermediates.length with
    | c :: _ => if isFinal c then some (parameters.length + intermediates.length + 3) else none
    | [] => none
  | _ => none

/-- The text without control sequences, after some characters that belong to one
    before. -/
def dropSequences : Nat → Text → Text
  | _, [] => []
  | skipped + 1, _ :: t => dropSequences skipped t
  | 0, c :: t =>
    match sequenceLength? (c :: t) with
    | some n => dropSequences (n - 1) t
    | none => c :: dropSequences 0 t

/-- The text without control sequences. -/
def withoutSequences (t : Text) : Text := dropSequences 0 t

/-- A text without escape characters stays as it is. -/
theorem withoutSequences_of_no_escape {t : Text} (h : escape ∉ t) : withoutSequences t = t := by
  have key : ∀ t : Text, escape ∉ t → dropSequences 0 t = t := by
    intro t
    induction t with
    | nil => intro _; rfl
    | cons c t ih =>
      intro h
      have hc : sequenceLength? (c :: t) = none := by
        unfold sequenceLength?
        split
        · rename_i same
          exact absurd (same ▸ List.mem_cons_self) h
        · rfl
      simp [dropSequences, hc, ih fun m => h (List.mem_cons_of_mem _ m)]
  exact key t h

end Depot.Console
