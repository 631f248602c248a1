import RoleDiscovery.Client.Connection
import RoleDiscovery.Text.Terminal

/-!
# Command-line options

The options of the engine, which the command that embeds it takes up among its own: the name that
changes are made under, from an argument, else from the environment, else the default.

Results:

* `Options.parse`: the options that arguments spell.
* `Options.help`: the help text.
-/

namespace RoleDiscovery

/-- Why arguments spell no options. Asking for help is among the reasons. -/
inductive OptionsError where
  | unknownArgument
  | invalidValue
  | argumentConflict
  | tooManyValues
  | displayHelp (text : String)
  deriving DecidableEq

/-- The options of the engine. -/
structure Options where
  fieldManager : String
  deriving DecidableEq

namespace Options

/-- The name of the variable in the environment. -/
def environmentVariable : String :=
  "FIELD_MANAGER"

/-! ## Help -/

/-- A text whose further lines are indented to the column of the descriptions. -/
def indented (s : String) : String :=
  String.ofList (s.toList.flatMap fun c =>
    if c = '\n' then '\n' :: List.replicate 39 ' ' else [c])

/-- The help text. It shows the value in the environment, but does not let it control the
terminal. -/
def help (env : Option String) : String :=
  Text.withoutControl <|
    "CLI arguments of the discovery engine, meant to be flattened into the run arguments of the " ++
    "controller embedding it\n\nUsage: test [OPTIONS]\n\nOptions:\n  -h, --help  Print help\n\n" ++
    "Discovery Options:\n      --field-manager <FIELD_MANAGER>  The field manager used for " ++
    "server-side apply of discovery ConfigMaps [env: " ++ environmentVariable ++ "=" ++
    indented (env.getD "") ++ "] [default: " ++ defaultFieldManager ++ "]\n"

/-! ## Arguments -/

/-- What the arguments so far have given: the value that is settled, and the one that is still to
come or has come without being settled yet. -/
structure Progress where
  settled : Option String := none
  pending : Option (Option String) := none

namespace Progress

/-- Settles a value; there is at most one. -/
def settle (p : Progress) (value : String) : Except OptionsError Progress :=
  match p.settled with
  | some _ => .error .argumentConflict
  | none => .ok { settled := some value }

/-- Settles the value that is pending; it has to have come. -/
def resolve (p : Progress) : Except OptionsError Progress :=
  match p.pending with
  | none => .ok p
  | some none => .error .invalidValue
  | some (some value) => settle { p with pending := none } value

end Progress

/-- An argument by its form. -/
inductive Argument where
  | terminator
  | long (name : List Char) (value : Option String)
  | short (name : Char)
  | value (text : String)

/-- The form of an argument. A hyphen alone is a value. -/
def Argument.ofText (s : String) : Argument :=
  match s.toList with
  | ['-', '-'] => .terminator
  | '-' :: '-' :: rest =>
    match rest.span (· ≠ '=') with
    | (name, []) => .long name none
    | (name, _ :: given) => .long name (some (String.ofList given))
  | '-' :: c :: _ => .short c
  | _ => .value s

/-- Takes up arguments one after the other. -/
def read (env : Option String) : Progress → List String → Except OptionsError Progress
  | p, [] => p.resolve
  | p, arg :: rest =>
    match Argument.ofText arg with
    | .terminator => if rest.isEmpty then p.resolve else .error .unknownArgument
    | .long name value =>
      if name = "field-manager".toList then do
        let p ← p.resolve
        match value with
        | some value => read env (← p.settle value) rest
        | none => read env { p with pending := some none } rest
      else if name = "help".toList then
        if value.isSome then .error .tooManyValues
        else do
          let _ ← p.resolve
          .error (.displayHelp (help env))
      else .error .unknownArgument
    | .short c =>
      if c = 'h' then do
        let _ ← p.resolve
        .error (.displayHelp (help env))
      else .error .unknownArgument
    | .value text =>
      match p.pending with
      | some none => read env { p with pending := some (some text) } rest
      | _ => .error .unknownArgument

/-- The options that arguments spell, given the value in the environment. -/
def parse (args : List String) (env : Option String) : Except OptionsError Options := do
  let p ← read env {} args
  return ⟨(p.settled <|> env).getD defaultFieldManager⟩

end Options

end RoleDiscovery
