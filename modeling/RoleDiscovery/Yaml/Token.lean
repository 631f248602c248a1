import RoleDiscovery.Yaml.Char

/-!
# Tokens of YAML

The units that the text of a document is made of, and the place in the text that is being read.

Results:

* `Token`: marks, names and scalars.
* `Cursor`: the rest of a text together with its position.
-/

namespace RoleDiscovery.Yaml

/-- How a scalar was written, as far as its meaning depends on it. -/
inductive Form where
  | plain
  | quoted
  | literal
  | folded
  deriving DecidableEq

/-- The bytes of a tag. Escapes may spell any bytes, so a tag need not be a text. -/
abbrev Tag := List UInt8

/-- A unit of a document. A collection in block style opens with a mark of its own when its first
entry is met, and closes when the indentation ends. -/
inductive Token where
  | version (major minor : Nat)
  | tagHandle (handle : List Char) (uri : Tag)
  | documentStart
  | documentEnd
  | blockSequence
  | blockMapping
  | blockEnd
  | blockEntry
  | flowSequence
  | flowSequenceEnd
  | flowMapping
  | flowMappingEnd
  | flowEntry
  | key
  | value
  | alias (name : List Char)
  | anchor (name : List Char)
  | tag (handle : List Char) (suffix : Tag)
  | scalar (form : Form) (text : List Char)
  deriving DecidableEq

/-! ## Positions -/

/-- A position in a text: the number of characters before it, the line and the column. -/
structure Position where
  index : Nat
  line : Nat
  column : Nat
  deriving DecidableEq

namespace Position

/-- The start of a text. -/
def start : Position :=
  ⟨0, 0, 0⟩

/-- The position after a character. -/
def step (p : Position) (c : Char) : Position :=
  if isBreak c then ⟨p.index + 1, p.line + 1, 0⟩ else ⟨p.index + 1, p.line, p.column + 1⟩

end Position

/-- What is left of a text, and where it starts. -/
structure Cursor where
  rest : List Char
  position : Position

namespace Cursor

/-- Moves over one character. -/
def skip (cursor : Cursor) : Cursor :=
  match cursor.rest with
  | [] => cursor
  | c :: rest => ⟨rest, cursor.position.step c⟩

/-- Moves over a number of characters. -/
def skipMany : Nat → Cursor → Cursor
  | 0, cursor => cursor
  | count + 1, cursor => skipMany count cursor.skip

/-- The characters that satisfy a condition, from a position on, and the cursor after them. -/
def takeFrom (keep : Char → Bool) : List Char → Position → List Char × Cursor
  | [], p => ([], ⟨[], p⟩)
  | c :: rest, p =>
    if keep c then
      let (taken, cursor) := takeFrom keep rest (p.step c)
      (c :: taken, cursor)
    else ([], ⟨c :: rest, p⟩)

/-- The characters that satisfy a condition, and the cursor after them. -/
def takeWhile (keep : Char → Bool) (cursor : Cursor) : List Char × Cursor :=
  takeFrom keep cursor.rest cursor.position

/-- Moves over the characters that satisfy a condition. -/
def skipWhile (keep : Char → Bool) (cursor : Cursor) : Cursor :=
  (cursor.takeWhile keep).2

/-- Moves over one character, which has to be the given one. -/
def expect? (c : Char) (cursor : Cursor) : Option Cursor :=
  match cursor.rest with
  | d :: _ => if d = c then some cursor.skip else none
  | [] => none

/-- Moves to the end of a line of which only blanks and a comment are left, and over its break. -/
def endLine? (cursor : Cursor) : Option Cursor :=
  let cursor := cursor.skipWhile isBlank
  let cursor := match cursor.rest with
    | '#' :: _ => cursor.skipWhile fun c => !isBreak c
    | _ => cursor
  match cursor.rest with
  | [] => some cursor
  | c :: _ => if isBreak c then some cursor.skip else none

end Cursor

end RoleDiscovery.Yaml
