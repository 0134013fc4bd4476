import Depot.Toml.Basic

/-!
# Days and times in TOML

A day, a time of day, or both with a `T` or a blank between them; behind both a
distance from universal time may stand. Of the fraction of a second six digits
count.
-/

namespace Depot.Toml

/-- The number that two digits write, if it lies between two bounds. -/
def twoDigits? (low high : Nat) (a b : CodePoint) : Option Nat := do
  let n := 10 * (← Text.digit? a) + (← Text.digit? b)
  if low ≤ n ∧ n ≤ high then some n else none

/-- The day in front of a text. A month may have 31 days here. -/
def day? (t : Text) : Option (Time.Date × Text) :=
  match t with
  | a :: b :: c :: d :: '-' :: e :: f :: '-' :: g :: h :: rest => do
    let century ← twoDigits? 0 99 a b
    let year ← twoDigits? 0 99 c d
    let month ← twoDigits? 1 12 e f
    let day ← twoDigits? 1 31 g h
    pure (⟨100 * century + year, month, day⟩, rest)
  | _ => none

/-- The microseconds of a fraction in front of a text. -/
def microseconds (t : Text) : Nat × Text :=
  match t with
  | '.' :: t' =>
    let digits := t'.takeWhile fun c => (Text.digit? c).isSome
    if digits = [] then (0, t)
    else
      let shown := digits.take 6
      ((Text.toNat? shown).getD 0 * Nat.pow 10 (6 - shown.length), t'.drop digits.length)
  | t => (0, t)

/-- A time of day. -/
structure Clock where
  hour : Nat
  minute : Nat
  second : Nat
  microsecond : Nat

/-- The time of day in front of a text. -/
def clock? (t : Text) : Option (Clock × Text) :=
  match t with
  | a :: b :: ':' :: c :: d :: ':' :: e :: f :: rest => do
    let hour ← twoDigits? 0 23 a b
    let minute ← twoDigits? 0 59 c d
    let second ← twoDigits? 0 59 e f
    let (microsecond, rest) := microseconds rest
    pure (⟨hour, minute, second, microsecond⟩, rest)
  | _ => none

/-- The distance from universal time in front of a text, in microseconds. -/
def distance (t : Text) : Option Int × Text :=
  match t with
  | 'Z' :: rest => (some 0, rest)
  | 'z' :: rest => (some 0, rest)
  | s :: a :: b :: ':' :: c :: d :: rest =>
    match twoDigits? 0 23 a b, twoDigits? 0 59 c d with
    | some hours, some minutes =>
      let size : Int := (60 * hours + minutes) * 60000000
      if s = '+' then (some size, rest)
      else if s = '-' then (some (-size), rest)
      else (none, t)
    | _, _ => (none, t)
  | t => (none, t)

/-- Whether the calendar has a day. -/
def inCalendar (d : Time.Date) : Bool :=
  1 ≤ d.year && d.day ≤ Time.Date.daysInMonth d.year d.month

/-- The time behind the day in front of a text, if there is one. -/
def clockAfterDay? (t : Text) : Option (Clock × Text) :=
  match t with
  | c :: t => if c = 'T' ∨ c = 't' ∨ c = ' ' then clock? t else none
  | [] => none

/-- The day or time in front of a text, if it has the form of one. -/
def moment? (t : Text) : Option (Step Value) :=
  match day? t with
  | some (day, rest) =>
    if !inCalendar day then some (refuse .moment t)
    else
      match clockAfterDay? rest with
      | none => some (.ok (.date day, rest))
      | some (clock, rest) =>
        let (offset, rest) := distance rest
        some (.ok (.dateTime ⟨day, clock.hour, clock.minute, clock.second, clock.microsecond,
          offset⟩, rest))
  | none =>
    (clock? t).map fun p => .ok (.time p.1.hour p.1.minute p.1.second p.1.microsecond, p.2)

end Depot.Toml
