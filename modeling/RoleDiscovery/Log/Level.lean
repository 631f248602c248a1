import RoleDiscovery.Log.Event
import RoleDiscovery.Text.Digit

/-!
# Levels of log filters

How detailed the entries are that a filter shows.

Results:

* `LogLevel.detail`: how detailed a level is.
* `LevelFilter.shows`: whether entries of a level are shown.
* `LevelFilter.parse?`: the level that a text spells.
-/

namespace RoleDiscovery

/-- How detailed a level is. -/
def LogLevel.detail : LogLevel → Nat
  | error => 1
  | warn => 2
  | info => 3
  | debug => 4
  | trace => 5

/-- The most detailed level that is shown; none at all if unset. -/
abbrev LevelFilter := Option LogLevel

namespace LevelFilter

/-- How detailed the entries that are shown may be. -/
def detail (filter : LevelFilter) : Nat :=
  filter.elim 0 LogLevel.detail

/-- Whether entries of a level are shown. -/
def shows (filter : LevelFilter) (level : LogLevel) : Bool :=
  level.detail ≤ filter.detail

/-- The level of a name in lower case. -/
def ofName? (name : String) : Option LevelFilter :=
  match name with
  | "off" => some none
  | "error" => some (some .error)
  | "warn" => some (some .warn)
  | "info" => some (some .info)
  | "debug" => some (some .debug)
  | "trace" => some (some .trace)
  | _ => none

/-- The level of a number. -/
def ofNumber? (n : Nat) : Option LevelFilter :=
  match n with
  | 0 => some none
  | 1 => some (some .error)
  | 2 => some (some .warn)
  | 3 => some (some .info)
  | 4 => some (some .debug)
  | 5 => some (some .trace)
  | _ => none

/-- The number that digits spell, after a plus sign or none. -/
def number? (cs : List Char) : Option Nat :=
  let digits := match cs with
    | '+' :: rest => rest
    | rest => rest
  if !digits.isEmpty && digits.all Char.isDigit then
    some (Text.ofDigits digits)
  else none

/-- The level that a text spells: a number, a name in any case, or nothing, which means errors. -/
def parse? (cs : List Char) : Option LevelFilter :=
  if cs.isEmpty then some (some .error)
  else match number? cs with
    | some n => ofNumber? n
    | none => ofName? (String.ofList (cs.map Char.toLower))

end LevelFilter

end RoleDiscovery
