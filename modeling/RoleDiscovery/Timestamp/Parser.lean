import RoleDiscovery.Timestamp

/-!
# Reading points in time

A date, a time of day and an offset, as in `2024-01-01T12:30:00+01:00`. The marks inside the date
and inside the time may be left out, and so may the seconds, or the minutes as well. A fraction of a
second is dropped. Annotations in brackets may follow; they are checked, but change nothing.

Results:

* `Timestamp.parse?`: the point in time that a text spells.
-/

namespace RoleDiscovery.Timestamp

/-! ## Parts -/

/-- A number of a fixed count of digits that is in a range, and what follows it. -/
def number? (count first last : Nat) (cs : List Char) : Option (Nat × List Char) := do
  if cs.length < count then none
  let n ← Text.natOfDigits? 10 (cs.take count)
  if first ≤ n ∧ n ≤ last then some (n, cs.drop count) else none

/-- What follows one character, which has to be the given one. -/
def expect? (c : Char) : List Char → Option (List Char)
  | d :: rest => if d = c then some rest else none
  | [] => none

/-- Whether a text starts with two digits. -/
def startsPair : List Char → Bool
  | a :: b :: _ => a.isDigit && b.isDigit
  | _ => false

/-- What follows the mark in front of a further part of a time, if there is such a part. Without
marks it has to start with two digits. -/
def part? (marked : Bool) : List Char → Option (List Char)
  | ':' :: rest => if marked then some rest else none
  | rest => if !marked && startsPair rest then some rest else none

/-- A fraction of up to nine digits, if there is one, and what follows it. -/
def fraction? : List Char → Option (List Char × List Char)
  | [] => some ([], [])
  | c :: rest =>
    if c = '.' ∨ c = ',' then
      let digits := (rest.take 9).takeWhile Char.isDigit
      if digits.isEmpty then none else some (digits, rest.drop digits.length)
    else some ([], c :: rest)

/-! ## Dates and times -/

/-- A year of four digits, or of six after a sign. Year zero has no negative sign. -/
def year? : List Char → Option (Int × List Char)
  | '-' :: rest => (number? 6 1 9999 rest).map fun (n, rest) => (-n, rest)
  | '+' :: rest => (number? 6 0 9999 rest).map fun (n, rest) => (n, rest)
  | rest => (number? 4 0 9999 rest).map fun (n, rest) => (n, rest)

/-- A date, with hyphens between its parts or without. -/
def date? (cs : List Char) : Option (Date × List Char) := do
  let (year, rest) ← year? cs
  let marked := rest.head? = some '-'
  let mark (rest : List Char) := if marked then expect? '-' rest else some rest
  let (month, rest) ← number? 2 1 12 (← mark rest)
  let (day, rest) ← number? 2 1 31 (← mark rest)
  return (← Date.of? year month day, rest)

/-- The hour, the minute and the second of a time of day. A second inserted at the end of a minute
is read as the one before it. -/
def clock? (cs : List Char) : Option ((Nat × Nat × Nat) × List Char) := do
  let (hour, rest) ← number? 2 0 23 cs
  let marked := rest.head? = some ':'
  match part? marked rest with
  | none => return ((hour, 0, 0), rest)
  | some rest =>
    let (minute, rest) ← number? 2 0 59 rest
    match part? marked rest with
    | none => return ((hour, minute, 0), rest)
    | some rest =>
      let (second, rest) ← number? 2 0 60 rest
      let (_, rest) ← fraction? rest
      return ((hour, minute, min second 59), rest)

/-! ## Offsets -/

/-- The size of an offset in seconds. A fraction of half a second or more counts as one. -/
def offsetSize? (cs : List Char) : Option (Nat × List Char) := do
  let (hours, rest) ← number? 2 0 25 cs
  let marked := rest.head? = some ':'
  match part? marked rest with
  | none => return (hours * 3600, rest)
  | some rest =>
    let (minutes, rest) ← number? 2 0 59 rest
    match part? marked rest with
    | none => return (hours * 3600 + minutes * 60, rest)
    | some rest =>
      let (seconds, rest) ← number? 2 0 59 rest
      let (fraction, rest) ← fraction? rest
      let half := if fraction.head?.any ('5' ≤ ·) then 1 else 0
      let size := hours * 3600 + minutes * 60 + seconds + half
      if size < 26 * 3600 then some (size, rest) else none

/-- An offset from Coordinated Universal Time in seconds, less than 26 hours. -/
def offset? : List Char → Option (Int × List Char)
  | [] => none
  | c :: rest =>
    if c = 'Z' ∨ c = 'z' then some (0, rest)
    else if c = '+' then (offsetSize? rest).map fun (size, rest) => (size, rest)
    else if c = '-' then (offsetSize? rest).map fun (size, rest) => (-size, rest)
    else none

/-! ## Annotations -/

/-- A word with a first character of one kind and further ones of another, and what follows it. -/
def word? (first further : Char → Bool) : List Char → Option (List Char)
  | [] => none
  | c :: rest => if first c then some (rest.dropWhile further) else none

/-- Part of the name of a time zone, and what follows it. -/
def zonePart? : List Char → Option (List Char) :=
  word? (fun c => c.isAlpha || c = '_' || c = '.')
    fun c => c.isAlphanum || c = '_' || c = '.' || c = '+' || c = '-'

/-- The further parts of the name of a time zone, each after a slash, and the closing bracket. -/
def zoneEnd? : Nat → List Char → Option (List Char)
  | 0, _ => none
  | _ + 1, ']' :: rest => some rest
  | fuel + 1, '/' :: rest => do zoneEnd? fuel (← zonePart? rest)
  | _ + 1, _ => none

/-- What follows the mark of an annotation that has to be understood, and whether there is one. -/
def critical : List Char → Bool × List Char
  | '!' :: rest => (true, rest)
  | rest => (false, rest)

/-- The offset of a time zone that is given by it: hours, and minutes if need be. -/
def zoneOffset? (cs : List Char) : Option (List Char) := do
  let (_, rest) ← number? 2 0 25 cs
  match part? (rest.head? = some ':') rest with
  | none => expect? ']' rest
  | some rest => expect? ']' (← number? 2 0 59 rest).2

/-- The time zone in brackets, if the first annotation is one, and what follows it. -/
def zone? : List Char → Option (List Char)
  | '[' :: inside =>
    let (_, rest) := critical inside
    match rest with
    | '+' :: rest | '-' :: rest => zoneOffset? rest
    | rest => do
      let after ← zonePart? rest
      if after.head? = some '=' then some ('[' :: inside) else zoneEnd? (after.length + 1) after
  | rest => some rest

/-- The values of an annotation, joined by hyphens, and the closing bracket. -/
def values? : Nat → List Char → Option (List Char)
  | 0, _ => none
  | fuel + 1, cs => do
    match ← word? Char.isAlphanum Char.isAlphanum cs with
    | '-' :: rest => values? fuel rest
    | ']' :: rest => return rest
    | _ => none

/-- Whether a text is a row of annotations, each a key and its values. None of them may be
critical. -/
def areAnnotations : Nat → List Char → Bool
  | 0, _ => false
  | _ + 1, [] => true
  | fuel + 1, '[' :: rest =>
    let keyChar (c : Char) := c.isLower || c = '_'
    match word? keyChar (fun c => keyChar c || c.isDigit || c = '-') rest with
    | some ('=' :: rest) => (values? (rest.length + 1) rest).any (areAnnotations fuel)
    | _ => false
  | _ + 1, _ => false

/-! ## Points in time -/

/-- The point in time that a text spells. -/
def parse? (s : String) : Option Timestamp := do
  let (date, rest) ← date? s.toList
  match rest with
  | mark :: rest =>
    if ¬(mark = 'T' ∨ mark = 't' ∨ mark = ' ') then none
    let ((hour, minute, second), rest) ← clock? rest
    let (offset, rest) ← offset? rest
    let rest ← zone? rest
    if areAnnotations (rest.length + 1) rest then ofLocal? date hour minute second offset else none
  | [] => none

end RoleDiscovery.Timestamp
