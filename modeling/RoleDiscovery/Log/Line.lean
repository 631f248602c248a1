import RoleDiscovery.Log.Event
import RoleDiscovery.Text.Quoted

/-!
# Lines of a log

Results:

* `LogEntry.line`: an entry as it is written, with its time.
-/

namespace RoleDiscovery

/-- The name of a level, filled up to five characters. -/
def LogLevel.label : LogLevel → String
  | error => "ERROR"
  | warn => " WARN"
  | info => " INFO"
  | debug => "DEBUG"
  | trace => "TRACE"

/-- A character of a message. Those that terminals take for commands are escaped. -/
def escapedForTerminal (c : Char) : List Char :=
  if c = '\x1b' then "\\x1b".toList
  else if c = '\x07' then "\\x07".toList
  else if c = '\x08' then "\\x08".toList
  else if c = '\x0c' then "\\x0c".toList
  else if c = '\x7f' then "\\x7f".toList
  else if 0x80 ≤ c.toNat ∧ c.toNat ≤ 0x9F then Text.codePointEscape c
  else [c]

/-- A message as it is written. -/
def escapedMessage (s : String) : String :=
  String.ofList (s.toList.flatMap escapedForTerminal)

/-- The fields of a span. -/
def Span.fieldText (span : Span) : String :=
  " ".intercalate (span.fields.map fun (name, value) => name ++ "=" ++ value)

/-- A span as it stands in front of an event. -/
def Span.text (span : Span) : String :=
  if span.fields.isEmpty then span.name ++ ":"
  else span.name ++ "\x7b" ++ span.fieldText ++ "\x7d:"

/-- A field of an event. What lies behind a failure is only hinted at. -/
def FieldValue.assigned (name : String) : FieldValue → String
  | .text value => name ++ "=" ++ value
  | .failure message => name ++ "=" ++ message ++ " " ++ name ++ ".sources=[...]"

/-- An event without its level: what it is about, the message and the fields. -/
def Event.text (event : Event) : String :=
  " ".intercalate ((event.target ++ ":") :: escapedMessage event.message ::
    event.fields.map fun (name, value) => value.assigned name)

/-- An entry as it is written. -/
def LogEntry.line (time : String) (entry : LogEntry) : String :=
  let spans := String.join (entry.spans.map Span.text)
  let spans := if entry.spans.isEmpty then "" else spans ++ " "
  time ++ " " ++ entry.event.level.label ++ " " ++ spans ++ entry.event.text

end RoleDiscovery
