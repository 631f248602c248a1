import RoleDiscovery.Log.Level
import RoleDiscovery.Pattern.Parser
import RoleDiscovery.Text.Scientific

/-!
# Directives of log filters

A directive sets the most detailed level that is shown, for everything, for the parts of the engine
whose names start with a text, or inside a span. For a span it may also name a field and say what
its value has to be.

Results:

* `FieldCondition.parse?`, `FieldCondition.fits`: conditions on the fields of spans.
* `Directive.parse?`: the directive that a text spells.
* `Directive.isAsSpecific`: which of two directives counts.
-/

namespace RoleDiscovery

/-- A field that a span has to have, and its value if that counts. -/
structure FieldCondition where
  name : String
  value : Option String
  deriving DecidableEq

namespace FieldCondition

/-- Whether a text spells a number that need not be whole, or one of the values beyond all
numbers. -/
def isNumber (cs : List Char) : Bool :=
  let unsigned := match cs with
    | '+' :: rest => rest
    | '-' :: rest => rest
    | rest => rest
  (Scientific.parse? unsigned).isSome ||
    ["inf", "infinity", "nan"].elem (String.ofList (unsigned.map Char.toLower))

/-- Whether a text spells a truth value or a number. -/
def isScalar (cs : List Char) : Bool :=
  cs = "true".toList || cs = "false".toList || isNumber cs

/-- The condition that a text spells: the name of a field, and its value after an equals sign. The
value is a truth value, a number or a pattern. -/
def parse? (cs : List Char) : Option FieldCondition :=
  match cs.span (· ≠ '=') with
  | ([], []) => none
  | (name, []) => some ⟨String.ofList name, none⟩
  | (name, _ :: rest) =>
    let value := rest.takeWhile (· ≠ '=')
    let text := String.ofList value
    if isScalar value || (Pattern.parse? text).isSome then some ⟨String.ofList name, some text⟩
    else none

/-- Whether a condition holds of a field that is a text: its value is a pattern that fits the text,
and not a truth value or a number. -/
def fits (condition : FieldCondition) (text : String) : Bool :=
  condition.value.all fun value =>
    !isScalar value.toList && (Pattern.parse? value).any (·.fits text)

end FieldCondition

/-- A directive of a filter. -/
structure Directive where
  level : LevelFilter
  target : Option String := none
  span : Option String := none
  fields : List FieldCondition := []

namespace Directive

/-- What follows some bytes of a text. -/
def dropBytes (count : Nat) : List Char → List Char
  | [] => []
  | c :: rest => if count = 0 then c :: rest else dropBytes (count - c.utf8Size) rest

/-- The first bytes of a text. -/
def takeBytes (count : Nat) : List Char → List Char
  | [] => []
  | c :: rest => if count < c.utf8Size then [] else c :: takeBytes (count - c.utf8Size) rest

/-- The characters of a text, each with the count of bytes in front of it. -/
def places (place : Nat) : List Char → List (Nat × Char)
  | [] => []
  | c :: rest => (place, c) :: places (place + c.utf8Size) rest

/-- A directive in writing. Its marks are looked for in the text without the blanks around it, but
the parts are cut out of the whole text by the places of the marks in bytes: a directive with blanks
in front names something else than it seems to. -/
structure Source where
  whole : List Char
  inner : List (Nat × Char)

namespace Source

/-- A text as a directive in writing. -/
def ofText (cs : List Char) : Source :=
  ⟨cs, places 0 (Text.trimmed cs)⟩

/-- The part of the text between two places. -/
def slice (s : Source) (start stop : Nat) : List Char :=
  dropBytes start (takeBytes stop s.whole)

/-- The part of the text from a place on. -/
def rest (s : Source) (start : Nat) : List Char :=
  dropBytes start s.whole

/-- The mark at a place. -/
def at? (s : Source) (place : Nat) : Option Char :=
  s.inner.lookup place

/-- The first of some marks from a place on, and its place. -/
def mark? (s : Source) (start : Nat) (marks : List Char) : Option (Nat × Char) :=
  s.inner.find? fun (place, c) => start ≤ place && marks.elem c

end Source

/-- The level after an equals sign; nothing means everything. -/
def level? (cs : List Char) : Option LevelFilter :=
  if cs.isEmpty then some (some .trace) else LevelFilter.parse? cs

/-- A directive without an equals sign: a level, or what is shown in full detail. -/
def ofLevelOrTarget (cs : List Char) : Directive :=
  match LevelFilter.parse? cs with
  | some level => { level }
  | none => { level := some .trace, target := some (String.ofList cs) }

/-- The level at the end of a directive, from after the span. -/
def atLevel? (s : Source) (place : Nat) (directive : Directive) : Option Directive :=
  match s.at? place with
  | none => some { directive with level := some .trace }
  | some '=' => (level? (s.rest (place + 1))).map fun level => { directive with level }
  | some _ => none

/-- The span of a directive, from after its bracket, and the level behind it. -/
def atSpan? (s : Source) (place : Nat) (target : Option String) : Option Directive := do
  let (stop, mark) ← s.mark? place [']', '\x7b']
  let name := s.slice place stop
  if mark = ']' then
    atLevel? s (stop + 1) { level := none, target, span := some (String.ofList name) }
  else
    let (close, _) ← s.mark? (stop + 1) ['\x7d']
    let condition ← FieldCondition.parse? (s.slice (stop + 1) close)
    let span := if name.isEmpty then none else some (String.ofList name)
    if s.at? (close + 1) = some ']' then
      atLevel? s (close + 2) { level := none, target, span, fields := [condition] }
    else none

/-- Whether a directive may start with a character. -/
def isStart (c : Char) : Bool :=
  c = '-' || c = ':' || c = '_' || Text.isLetterOrDigit c

/-- The directive that a text spells. -/
def parse? (cs : List Char) : Option Directive :=
  let s := Source.ofText cs
  match s.at? 0 with
  | none => none
  | some '[' => atSpan? s 1 none
  | some c =>
    if isStart c then
      match s.mark? 1 ['=', '['] with
      | none => some (ofLevelOrTarget s.whole)
      | some (place, mark) =>
        let target := some (String.ofList (s.slice 0 place))
        if mark = '[' then atSpan? s (place + 1) target
        else (level? (s.rest (place + 1))).map fun level => { level, target }
    else none

/-- What a directive is about. -/
def subject (d : Directive) : Option String × Option String × List FieldCondition :=
  (d.target, d.span, d.fields)

/-- Whether a directive is about the inside of spans. -/
def isDynamic (d : Directive) : Bool :=
  d.span.isSome || !d.fields.isEmpty

/-- Whether a directive can be judged without knowing the values of fields. -/
def isStatic (d : Directive) : Bool :=
  d.span.isNone && d.fields.all fun field => field.value.isNone

/-- Whether a directive is about a part of the engine. -/
def fitsTarget (d : Directive) (target : String) : Bool :=
  d.target.all fun name => target.startsWith name

/-- Whether the fields of a directive are among those of an entry. -/
def fitsFields (d : Directive) (names : List String) : Bool :=
  d.fields.all fun field => names.elem field.name

/-- Whether a directive is more specific than another one or as specific: by the size of the name of
its target, then by the number of its fields, then by these names in order. -/
def isAsSpecific (a b : Directive) : Bool :=
  let size (d : Directive) : Nat := d.target.elim 0 fun target => target.utf8ByteSize + 1
  let names (d : Directive) : List String := d.target.getD "" :: d.fields.map FieldCondition.name
  if size a ≠ size b then size b < size a
  else if a.fields.length ≠ b.fields.length then b.fields.length < a.fields.length
  else !(names a).lex (names b) fun name other => name < other

end Directive

end RoleDiscovery
