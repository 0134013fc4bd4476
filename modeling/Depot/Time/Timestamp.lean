import Depot.Text.Quoted
import Depot.Time.Calendar

/-!
# Timestamps

A moment of the calendar, to the microsecond, with its distance from universal
time when that is known; a `Zone` tells the distance of the moments that its clocks
show. `Timestamp.parse` reads the forms of ISO 8601 that give a day (`2024-01-02`,
`20240102`, `2024-W01-2` and so on), any one character, and a time with an optional
distance; `Timestamp.iso` writes one form, which it reads back.

Reading follows the time from part to part and looks at the character after
each: a colon leads to the next part, a point or a comma to a fraction, and when
the first part is not followed by a colon no part is. One other character may
stand at the end of a time that a distance follows, if it is an ASCII character.
-/

namespace Depot.Time

/-- A moment of the calendar. -/
structure Timestamp where
  /-- The day. -/
  date : Date
  hour : Nat
  minute : Nat
  second : Nat
  microsecond : Nat
  /-- The distance from universal time in microseconds, if it is known. -/
  offset : Option Int
  deriving DecidableEq

namespace Timestamp

/-- Why a text is no timestamp. -/
inductive Fault where
  /-- It has none of the forms. -/
  | form (t : Text)
  | year (year : Nat)
  | month
  | day
  | hour
  | minute
  | second
  /-- The distance from universal time is a day or more, in microseconds. -/
  | offset (microseconds : Int)
  deriving DecidableEq

/-- A distance in time as messages show it. -/
def showDuration (microseconds : Int) : Text :=
  let day : Int := 86400000000
  let days := microseconds.fdiv day
  let rest := (microseconds.fmod day).toNat
  let part (name : Text) (n : Int) : List Text :=
    if n = 0 then [] else [name ++ "=" ++ Text.ofInt n]
  let parts := part "days" days ++ part "seconds" (rest / 1000000 : Nat) ++
    part "microseconds" (rest % 1000000 : Nat)
  "datetime.timedelta(" ++ Text.joined ", " (if parts = [] then [Text.ofNat 0] else parts) ++ ")"

/-- Why the text is no timestamp, in words. -/
def Fault.message : Fault → Text
  | .form t => "Invalid isoformat string: " ++ Text.quoted t
  | .year n => "year " ++ Text.ofNat n ++ " is out of range"
  | .month => "month must be in 1..12"
  | .day => "day is out of range for month"
  | .hour => "hour must be in 0..23"
  | .minute => "minute must be in 0..59"
  | .second => "second must be in 0..59"
  | .offset microseconds =>
    "offset must be a timedelta strictly between -timedelta(hours=24) and timedelta(hours=24), not " ++
      showDuration microseconds ++ "."

/-- The number of the first day of 1970. -/
def dayOf1970 : Nat := 719163

/-- The moment in universal time so many microseconds after the first of 1970,
    without its distance. -/
def ofMicroseconds (n : Nat) : Timestamp :=
  let s := n / 1000000
  ⟨.ofNumber (dayOf1970 + s / 86400), s / 3600 % 24, s / 60 % 60, s % 60, n % 1000000, none⟩

/-! ## Reading -/

/-- The number that a text starts with, of so many digits, and the text after
    it. -/
def digits? : Nat → Text → Option (Nat × Text)
  | 0, t => some (0, t)
  | n + 1, t =>
    match t with
    | [] => none
    | c :: rest =>
      match Text.digit? c, digits? n rest with
      | some d, some (v, rest') => some (d * Nat.pow 10 n + v, rest')
      | _, _ => none

/-- Whether a character is an ASCII digit. -/
def isDigit (c : CodePoint) : Bool := (Text.digit? c).isSome

/-- The character of a text at a place, NUL behind its end. -/
def at? (t : Text) (i : Nat) : CodePoint := (t.drop i).headD '\x00'

/-- How many characters of a text are the day. The day ends before the first
    character that none of its forms can have at its place. -/
def dateLength (t : Text) : Nat :=
  if t.length = 7 then 7
  else if at? t 4 = '-' then
    if at? t 5 = 'W' then
      if 8 < t.length ∧ at? t 8 = '-' ∧ ¬ (10 < t.length ∧ isDigit (at? t 10)) then 10 else 8
    else 10
  else if at? t 4 = 'W' then
    let pos := 7 + ((t.drop 7).takeWhile isDigit).length
    if pos < 9 then pos
    else if pos % 2 = 0 then 7 else 8
  else 8

/-- The day that a week date gives, in the year 1 or later. -/
def ofWeekDate (year week day : Nat) : Option Date :=
  if week = 0 ∨ 53 < week ∨ (week = 53 ∧ !Date.hasWeek53 year) ∨ day = 0 ∨ 7 < day then none
  else some (Date.ofNumber (Date.firstMonday year + (week - 1) * 7 + day - 1))

/-- The day that a text writes, of so many characters. Week dates of the year 0
    are days of no month. -/
def parseDate (t : Text) (length : Nat) : Option Date := do
  let (year, t₁) ← digits? 4 t
  let separated := Text.startsWith '-' t₁
  let t₁ := if separated then t₁.drop 1 else t₁
  if Text.startsWith 'W' t₁ then
    let (week, t₂) ← digits? 2 (t₁.drop 1)
    let day ←
      if t.length - t₂.length < length then
        if separated then
          if Text.startsWith '-' t₂ then (digits? 1 (t₂.drop 1)).map (·.1) else none
        else (digits? 1 t₂).map (·.1)
      else some 1
    if year = 0 then
      if week = 0 ∨ 52 < week ∨ day = 0 ∨ 7 < day then none else some ⟨1, 0, 0⟩
    else ofWeekDate year week day
  else
    let (month, t₂) ← digits? 2 t₁
    let t₂ ←
      if separated then (if Text.startsWith '-' t₂ then some (t₂.drop 1) else none) else some t₂
    let (day, t₃) ← digits? 2 t₂
    if t.length - t₃.length = length then some ⟨year, month, day⟩ else none

/-- A time of day, or a distance, as it was read. -/
structure Clock where
  /-- Hours, minutes and seconds, as many of them as were given. -/
  parts : List Nat
  microsecond : Nat
  /-- Whether the text goes on behind it. -/
  more : Bool

/-- A fraction in front of a text: six digits of it count. `left` characters
    belong to the time. -/
def parseFraction (left : Nat) (t : Text) : Option Clock := do
  let size := min left 6
  let (n, rest) ← digits? size t
  let rest := rest.dropWhile isDigit
  pure ⟨[], n * Nat.pow 10 (6 - size), rest.headD '\x00' ≠ '\x00'⟩

/-- The parts of a time in front of a text, at most `count` of them and then a
    fraction. `left` characters belong to the time; `separated` tells whether
    colons stand between the parts, once the first part has shown it. -/
def parseParts : Nat → Option Bool → Nat → Text → Option Clock
  | 0, _, left, t => parseFraction left t
  | count + 1, separated, left, t => do
    let (n, rest) ← digits? 2 t
    let c := rest.headD '\x00'
    let colons := separated.getD (c = ':')
    let clock ←
      if left ≤ 3 then if c.toNat < 0x80 then some ⟨[], 0, c ≠ '\x00'⟩ else none
      else if colons && c = ':' then parseParts count (some colons) (left - 3) (rest.drop 1)
      else if c = '.' ∨ c = ',' then parseFraction (left - 3) (rest.drop 1)
      else if colons then none
      else parseParts count (some colons) (left - 2) rest
    pure { clock with parts := n :: clock.parts }

/-- The time in front of a text, of which `left` characters belong to it. -/
def parseClock (left : Nat) (t : Text) : Option Clock := parseParts 3 none left t

/-- The seconds that hours, minutes and seconds make. -/
def seconds (c : Clock) : Nat :=
  c.parts.headD 0 * 3600 + (c.parts.drop 1).headD 0 * 60 + (c.parts.drop 2).headD 0

/-- The time that a text writes, and the distance from universal time. -/
def parseTime (t : Text) : Option (Clock × Option Int) := do
  let size := (t.takeWhile fun c : CodePoint => c ≠ '+' ∧ c ≠ '-' ∧ c ≠ 'Z').length
  let clock ← parseClock size t
  match t.drop size with
  | [] => if clock.more then none else some (clock, none)
  | sign :: zone =>
    if sign = 'Z' then
      if zone.headD '\x00' = '\x00' then some (clock, some 0) else none
    else
      let distance ← parseClock zone.length zone
      if distance.more then none
      else
        let s := seconds distance
        let microseconds : Int := if s = 0 then 0 else s * 1000000 + distance.microsecond
        some (clock, some (if sign = '-' then -microseconds else microseconds))

/-- The moment with the given parts, if there is one. -/
def check (date : Date) (clock : Clock) (offset : Option Int) : Except Fault Timestamp :=
  let hour := clock.parts.headD 0
  let minute := (clock.parts.drop 1).headD 0
  let second := (clock.parts.drop 2).headD 0
  let day : Int := 86400000000
  if offset.any fun o => o ≤ -day || day ≤ o then .error (.offset (offset.getD 0))
  else if date.year = 0 ∨ 9999 < date.year then .error (.year date.year)
  else if date.month = 0 ∨ 12 < date.month then .error .month
  else if date.day = 0 ∨ Date.daysInMonth date.year date.month < date.day then .error .day
  else if 23 < hour then .error .hour
  else if 59 < minute then .error .minute
  else if 59 < second then .error .second
  else .ok ⟨date, hour, minute, second, clock.microsecond, offset⟩

/-- The moment that a text writes. -/
def parse (t : Text) : Except Fault Timestamp :=
  if t.length < 7 then .error (.form t)
  else
    let size := dateLength t
    match parseDate t size with
    | none => .error (.form t)
    | some date =>
      if t.length ≤ size then check date ⟨[], 0, false⟩ none
      else
        match parseTime (t.drop (size + 1)) with
        | none => .error (.form t)
        | some (clock, offset) => check date clock offset

/-! ## Writing -/

/-- Hours, minutes, and what else is needed of a distance, with `separator`
    between the parts. -/
def showOffset (separator : Text) (offset : Int) : Text :=
  let n := offset.natAbs
  let s := n / 1000000
  let micro := n % 1000000
  let sign : CodePoint := if offset < 0 then '-' else '+'
  let two (k : Nat) : Text := Text.ofNatPadded 2 k
  let fraction : Text := if micro = 0 then [] else "." ++ Text.ofNatPadded 6 micro
  let small : Text :=
    if s % 60 = 0 ∧ micro = 0 then [] else separator ++ two (s % 60) ++ fraction
  sign :: (two (s / 3600) ++ separator ++ two (s / 60 % 60) ++ small)

/-- Month, day and time to the second, after a year. -/
def showAfterYear (t : Timestamp) : Text :=
  let two (k : Nat) : Text := Text.ofNatPadded 2 k
  "-" ++ two t.date.month ++ "-" ++ two t.date.day ++ "T" ++ two t.hour ++ ":" ++ two t.minute ++
    ":" ++ two t.second

/-- The moment in the form of ISO 8601, with a fraction unless it is zero. -/
def iso (t : Timestamp) : Text :=
  let fraction : Text := if t.microsecond = 0 then [] else "." ++ Text.ofNatPadded 6 t.microsecond
  Text.ofNatPadded 4 t.date.year ++ t.showAfterYear ++ fraction ++
    (t.offset.map (showOffset ":")).getD []

end Timestamp

/-! ## Local time -/

/-- What a machine knows of the time where it stands. -/
structure Zone where
  /-- The moment that its clocks show as a moment without a distance, if they ever do. -/
  localize : Timestamp → Except Timestamp.Fault Timestamp

/-- The zone of universal time. A moment is looked up by the day before it, which the
    calendar must have. -/
def Zone.utc : Zone where
  localize t := if t.date = ⟨1, 1, 1⟩ then .error (.year 0) else .ok { t with offset := some 0 }

namespace Timestamp

/-- The moment with its distance, which is that of the zone if it is not known. -/
def localized (t : Timestamp) (zone : Zone := .utc) : Except Fault Timestamp :=
  match t.offset with
  | some _ => .ok t
  | none => zone.localize t

/-- The moment as a build info document has it: `2006-01-02T15:04:05.000-0700`,
    with no zeros in front of the year. -/
def format (t : Timestamp) (zone : Zone := .utc) : Except Fault Text := do
  let t ← t.localized zone
  pure (Text.ofNat t.date.year ++ t.showAfterYear ++ "." ++
    Text.ofNatPadded 3 (t.microsecond / 1000) ++ (t.offset.map (showOffset [])).getD [])

end Timestamp

/-- A clock. -/
structure WallClock where
  /-- What it shows. -/
  shows : Timestamp
  /-- The zone that it stands in. -/
  zone : Zone := .utc

instance : Coe Timestamp WallClock := ⟨fun t => { shows := t }⟩

/-- The moment that it is. -/
def WallClock.present (c : WallClock) : Except Timestamp.Fault Timestamp :=
  ({ c.shows with offset := none } : Timestamp).localized c.zone

end Depot.Time
