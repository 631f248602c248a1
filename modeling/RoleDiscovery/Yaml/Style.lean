import RoleDiscovery.Yaml.Char
import RoleDiscovery.Yaml.Plain

/-!
# The style of a scalar

A text is written in the first of these styles that keeps it as it is: plain, in single quotes, in
double quotes. A text with a line feed is written as a literal block instead, if that keeps it.

Results:

* `Style`: the four styles.
* `Style.ofText`: the style of a text.
-/

namespace RoleDiscovery.Yaml

/-- How a scalar is written. -/
inductive Style where
  | plain
  | single
  | double
  | literal
  deriving DecidableEq

namespace Style

/-- Whether a space comes right before a break somewhere. -/
def hasSpaceBeforeBreak : List Char → Bool
  | a :: b :: rest => (a = ' ' && isBreak b) || hasSpaceBeforeBreak (b :: rest)
  | _ => false

/-- Whether a space comes right after a break somewhere. -/
def hasSpaceAfterBreak : List Char → Bool
  | a :: b :: rest => (isBreak a && b = ' ') || hasSpaceAfterBreak (b :: rest)
  | _ => false

/-- The characters that a plain scalar cannot start with. -/
def isOpening (c : Char) : Bool :=
  ['#', ',', '[', ']', '\x7b', '\x7d', '&', '*', '!', '|', '>', '\'', '"', '%', '@', '\x60'].elem c

/-- Whether the start of a text would be taken for structure. -/
def startsStructure : List Char → Bool
  | '-' :: '-' :: '-' :: _ => true
  | '.' :: '.' :: '.' :: _ => true
  | c :: rest => isOpening c || ((c = '?' || c = ':' || c = '-') && atSpace rest)
  | [] => false

/-- Whether a later part of a text would be taken for structure: a colon before a blank, or a
number sign after one. -/
def holdsStructure : List Char → Bool
  | a :: b :: rest =>
    (b = ':' && atSpace rest) || (b = '#' && isSpace a) || holdsStructure (b :: rest)
  | _ => false

/-- Whether every character of a text may be written as it is, and no space would be lost at the
end of a line. -/
def isVerbatim (s : List Char) : Bool :=
  s.all isPrintable && !hasSpaceBeforeBreak s

/-- Whether a text may be written plain. -/
def allowsPlain (s : List Char) : Bool :=
  isVerbatim s && !s.any isBreak && s.head? ≠ some ' ' && s.getLast? ≠ some ' ' &&
    !startsStructure s && !holdsStructure s

/-- Whether a text may be written in single quotes. -/
def allowsSingle (s : List Char) : Bool :=
  isVerbatim s && !hasSpaceAfterBreak s

/-- Whether a text may be written as a literal block. -/
def allowsLiteral (s : List Char) : Bool :=
  isVerbatim s && !s.isEmpty && s.getLast? ≠ some ' '

/-- The style of a text. -/
def ofText (s : List Char) : Style :=
  if s.elem '\n' then if allowsLiteral s then literal else double
  else if Plain.isText s && allowsPlain s then plain
  else if allowsSingle s then single
  else double

/-- The style of the name of a field, which stays on its line. -/
def ofName (s : List Char) : Style :=
  if s.any isBreak then double else ofText s

end Style

end RoleDiscovery.Yaml
