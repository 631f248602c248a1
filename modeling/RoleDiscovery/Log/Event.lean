/-!
# Log events

What the engine reports while it works: events with named fields, inside spans that tell what is
being done.

Results:

* `Event`, `Span`: the two kinds of entries.
* `LogEntry`: an event with the spans that it was reported in.
-/

namespace RoleDiscovery

/-- How important an entry is. -/
inductive LogLevel where
  | error
  | warn
  | info
  | debug
  | trace
  deriving DecidableEq

/-- The value of a field: a text, or a failure by its message. -/
inductive FieldValue where
  | text (value : String)
  | failure (message : String)
  deriving DecidableEq

/-- The text of a field. -/
def FieldValue.toText : FieldValue → String
  | .text value => value
  | .failure message => message

/-- Something that happened in the part of the engine called `target`. -/
structure Event where
  level : LogLevel
  target : String
  message : String
  fields : List (String × FieldValue) := []
  deriving DecidableEq

/-- Something that is being done in the part of the engine called `target`. -/
structure Span where
  name : String
  target : String
  fields : List (String × String)
  deriving DecidableEq

/-- An event and the spans around it, the outermost first. -/
structure LogEntry where
  spans : List Span
  event : Event
  deriving DecidableEq

end RoleDiscovery
