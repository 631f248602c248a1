/-!
# Texts without terminal control

A text may hold sequences that change how a terminal shows what follows: an escape character and
what belongs to it. Where a text is meant to be read as it is, such sequences are left out, and so
are control characters other than blanks and line breaks.

Results:

* `Text.withoutControl`: a text without control sequences and control characters.
-/

namespace RoleDiscovery.Text

namespace Terminal

/-- Where in a control sequence a text is. The parameters of a device control string come before its
body; the body is a text of its own, and so is an operating system command. -/
inductive State where
  | ground
  | escape
  | intermediate
  | command
  | systemCommand
  | deviceEntry
  | deviceParameters
  | deviceIntermediate
  | body
  deriving DecidableEq

/-- Whether a code point is in a range, ends included. -/
def within (first last : Nat) (c : Char) : Bool :=
  first ≤ c.toNat && c.toNat ≤ last

/-- A control character that is a blank or a line break. -/
def isBlankControl (c : Char) : Bool :=
  c = '\t' || c = '\n' || c = '\x0c' || c = '\r'

/-- Whether the bytes of a character beyond ASCII hold the one that ends a string. -/
def endsString (c : Char) : Bool :=
  (String.singleton c).toUTF8.toList.elem 0x9c

/-- Whether a character is shown. Blank controls are shown inside escape sequences and commands,
which they break off. -/
def isShown (state : State) (c : Char) : Bool :=
  match state with
  | .ground => within 0x20 0x7e c || isBlankControl c || 0x80 ≤ c.toNat
  | .escape | .intermediate | .command => isBlankControl c
  | _ => false

/-- The state after the character behind an escape character. -/
def afterEscape (c : Char) : State :=
  if within 0x20 0x2f c then .intermediate
  else if c = '[' then .command
  else if c = ']' then .systemCommand
  else if c = 'P' then .deviceEntry
  else if c = 'X' ∨ c = '^' ∨ c = '_' then .body
  else if within 0x30 0x7e c then .ground
  else .escape

/-- The state after a character among the parameters of a device control string. -/
def afterParameter (c : Char) : State :=
  if within 0x20 0x2f c then .deviceIntermediate
  else if within 0x30 0x3b c then .deviceParameters
  else .body

/-- The state after a character. An escape character starts a new sequence anywhere, and the
characters for cancelling and substituting end one. -/
def next (state : State) (c : Char) : State :=
  if c = '\x1b' then .escape
  else if c = '\x18' ∨ c = '\x1a' ∨ isShown state c then .ground
  else match state with
  | .ground => .ground
  | .escape => afterEscape c
  | .intermediate => if within 0x30 0x7e c then .ground else state
  | .command => if within 0x40 0x7e c then .ground else state
  | .systemCommand => if c = '\x07' then .ground else state
  | .deviceEntry =>
    if within 0x3c 0x3f c then .deviceParameters
    else if within 0x20 0x7e c then afterParameter c else state
  | .deviceParameters => if within 0x20 0x7e c then afterParameter c else state
  | .deviceIntermediate => if within 0x30 0x7e c then .body else state
  | .body => if endsString c then .ground else state

/-- The characters that are shown. -/
def shown (state : State) : List Char → List Char
  | [] => []
  | c :: rest =>
    if isShown state c then c :: shown (next state c) rest else shown (next state c) rest

end Terminal

/-- A text without control sequences and control characters. -/
def withoutControl (s : String) : String :=
  String.ofList (Terminal.shown .ground s.toList)

end RoleDiscovery.Text
