import RoleDiscovery.Calendar
import RoleDiscovery.Text.Digit

/-!
# Points in time

Timestamps of resources: a date and a time of day to the second, in Coordinated Universal Time.

Results:

* `Timestamp`: a point in time.
* `Timestamp.ofLocal?`: the point in time of a local time.
* `Timestamp.print`: the text of a point in time.
-/

namespace RoleDiscovery

/-- The number of seconds from the start of 1970 to a time of a day. -/
def Date.secondsTo (date : Date) (hour minute second : Nat) : Int :=
  date.dayNumber * 86400 + (hour * 3600 + minute * 60 + second : Nat)

/-- Whether a number of seconds from the start of 1970 is a point in time: one that has a local date
with a year of four digits at most, wherever it is read. -/
def isPointInTime (seconds : Int) : Bool :=
  -377705023201 ≤ seconds && seconds ≤ 253402207200

/-- A point in time, in Coordinated Universal Time. -/
structure Timestamp where
  date : Date
  hour : Nat
  minute : Nat
  second : Nat
  /-- The fields name a time of the day and a point in time. -/
  valid : hour ≤ 23 ∧ minute ≤ 59 ∧ second ≤ 59 ∧
    isPointInTime (date.secondsTo hour minute second) = true
  deriving DecidableEq

namespace Timestamp

/-- The point in time with these fields, if they name one. -/
def of? (date : Date) (hour minute second : Nat) : Option Timestamp :=
  if h : hour ≤ 23 ∧ minute ≤ 59 ∧ second ≤ 59 ∧
      isPointInTime (date.secondsTo hour minute second) = true then
    some ⟨date, hour, minute, second, h⟩
  else none

/-- The point in time of a number of seconds from the start of 1970. -/
def ofSeconds? (seconds : Int) : Option Timestamp := do
  let clock := (seconds % 86400).toNat
  of? (← Date.ofDayNumber? (seconds / 86400)) (clock / 3600) (clock / 60 % 60) (clock % 60)

/-- The point in time of a local time that is `offset` seconds ahead. -/
def ofLocal? (date : Date) (hour minute second : Nat) (offset : Int) : Option Timestamp :=
  if offset = 0 then of? date hour minute second
  else ofSeconds? (date.secondsTo hour minute second - offset)

/-! ## Text -/

/-- A number with zeros in front, up to a number of characters. -/
def padded (width n : Nat) : List Char :=
  let digits := Nat.toDigits 10 n
  List.replicate (width - digits.length) '0' ++ digits

/-- The text of a year. It has four characters, the sign of a year before year zero included. -/
def printYear (year : Int) : List Char :=
  if year < 0 then '-' :: padded 3 year.natAbs else padded 4 year.natAbs

/-- The text of a point in time. -/
def print (t : Timestamp) : String :=
  String.ofList <|
    printYear t.date.year ++ ['-'] ++ padded 2 t.date.month ++ ['-'] ++ padded 2 t.date.day ++
      ['T'] ++ padded 2 t.hour ++ [':'] ++ padded 2 t.minute ++ [':'] ++ padded 2 t.second ++ ['Z']

end Timestamp

end RoleDiscovery
