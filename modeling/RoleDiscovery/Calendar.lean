/-!
# The calendar

Dates of the Gregorian calendar, carried on before its introduction and below year one, and their
place in the row of all days.

Results:

* `Date`: a date.
* `Date.dayNumber`: the number of a day, counted from 1970-01-01.
* `Date.ofDayNumber?`: the date of such a number.
-/

namespace RoleDiscovery

/-- Whether a year has a 29th of February. -/
def isLeapYear (year : Int) : Bool :=
  year % 4 = 0 && (year % 100 ≠ 0 || year % 400 = 0)

/-- The number of days of a month, counted from 1. -/
def daysInMonth (year : Int) (month : Nat) : Nat :=
  match month with
  | 2 => if isLeapYear year then 29 else 28
  | 4 | 6 | 9 | 11 => 30
  | _ => 31

/-- A date. -/
structure Date where
  year : Int
  month : Nat
  day : Nat
  /-- The month has this day. -/
  valid : 1 ≤ month ∧ month ≤ 12 ∧ 1 ≤ day ∧ day ≤ daysInMonth year month
  deriving DecidableEq

namespace Date

/-- The date with these parts, if there is one. -/
def of? (year : Int) (month day : Nat) : Option Date :=
  if h : 1 ≤ month ∧ month ≤ 12 ∧ 1 ≤ day ∧ day ≤ daysInMonth year month then
    some ⟨year, month, day, h⟩
  else none

/-- The number of days before a month of a year, counted from the first of March. -/
def daysBeforeMonth (month : Nat) : Nat :=
  (153 * ((month + 9) % 12) + 2) / 5

/-- The number of a day, counted from 1970-01-01. Years are taken to start in March, so that the day
that leap years have more is their last one. -/
def dayNumber (date : Date) : Int :=
  let year := if date.month ≤ 2 then date.year - 1 else date.year
  365 * year + year / 4 - year / 100 + year / 400 + daysBeforeMonth date.month + date.day - 719469

/-- The year, starting in March, of a day that is counted from the start of such a year zero. In 400
years there are 146097 days; of the leap days among those before a day, one has to be left out in
each of three centuries. -/
def marchYear (day : Int) : Int :=
  let era := day / 146097
  let inEra := day % 146097
  400 * era + (inEra - inEra / 1460 + inEra / 36524 - inEra / 146096) / 365

/-- The date of a number of a day. -/
def ofDayNumber? (number : Int) : Option Date :=
  let day := number + 719468
  let year := marchYear day
  let inYear := (day - (365 * year + year / 4 - year / 100 + year / 400)).toNat
  let place := (5 * inYear + 2) / 153
  let month := if place < 10 then place + 3 else place - 9
  of? (if month ≤ 2 then year + 1 else year) month (inYear - (153 * place + 2) / 5 + 1)

end Date

end RoleDiscovery
