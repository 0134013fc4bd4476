/-!
# Calendar

Days of the Gregorian calendar, extended to all years, and the weeks of ISO
8601: a week starts on a Monday, and the first week of a year is the one with
its first Thursday. Days are counted from the first of January of year 1, which
is day 1 and a Monday.
-/

namespace Depot.Time

/-- A day of the calendar. -/
structure Date where
  year : Nat
  month : Nat
  day : Nat
  deriving DecidableEq

namespace Date

/-- Whether a year has a 29th of February. -/
def isLeap (year : Nat) : Bool := year % 4 = 0 && (year % 100 ≠ 0 || year % 400 = 0)

/-- The number of days of a month. -/
def daysInMonth (year month : Nat) : Nat :=
  if month = 2 then (if isLeap year then 29 else 28)
  else if month = 4 ∨ month = 6 ∨ month = 9 ∨ month = 11 then 30
  else 31

/-- The number of days before the first of January of a year from year 1 on. -/
def daysBeforeYear (year : Nat) : Nat :=
  let y := year - 1
  y * 365 + y / 4 - y / 100 + y / 400

/-- The day of a year, from 1, in the months that follow `month - 1`. The first
    argument bounds the months. -/
def ofDayInYear : Nat → Nat → Nat → Nat → Date
  | 0, year, month, day => ⟨year, month, day⟩
  | fuel + 1, year, month, day =>
    if day ≤ daysInMonth year month then ⟨year, month, day⟩
    else ofDayInYear fuel year (month + 1) (day - daysInMonth year month)

/-- The day with a number. -/
def ofNumber (n : Nat) : Date :=
  let guess := (n - 1) / 366 + 1
  let year := (List.range 40).foldl
    (fun y _ => if daysBeforeYear (y + 1) < n then y + 1 else y) guess
  ofDayInYear 11 year 1 (n - daysBeforeYear year)

/-- The number of the Monday of the first week of a year from year 1 on. -/
def firstMonday (year : Nat) : Nat :=
  let newYear := daysBeforeYear year + 1
  let weekday := (newYear + 6) % 7
  if 3 < weekday then newYear + 7 - weekday else newYear - weekday

/-- Whether a year has a week 53: years that start on a Thursday, and leap years
    that start on a Wednesday. -/
def hasWeek53 (year : Nat) : Bool :=
  let weekday := daysBeforeYear year % 7
  weekday = 3 || (weekday = 2 && isLeap year)

end Date

end Depot.Time
