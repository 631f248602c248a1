import RoleDiscovery.Pattern.Bracket
import RoleDiscovery.Pattern.Program

/-!
# Reading patterns

A pattern is written as in most tools: a point, sets in brackets, groups in parentheses, bars
between choices, and a star, a plus sign or a question mark behind what is repeated or optional.
Counted repetitions and conditions on what lies around a match are not known.

Results:

* `Pattern.parse?`: the pattern that a text spells.
-/

namespace RoleDiscovery.Pattern

/-- A part of a pattern, and how deep the parts in it nest. -/
structure Part where
  pattern : Pattern
  depth : Nat

namespace Part

/-- Parts put together, which nest deeper if there are several. -/
def together (pattern : List Pattern → Pattern) (parts : List Part) : Part where
  pattern := pattern (parts.map Part.pattern)
  depth := (parts.map Part.depth).foldl max 0 + if parts.length ≤ 1 then 0 else 1

/-- A part inside another one. -/
def within (part : Part) (pattern : Pattern → Pattern) : Part where
  pattern := pattern part.pattern
  depth := part.depth + 1

end Part

/-! ## Groups -/

/-- A group as far as it has been read: its finished choices and the parts of the one at hand, last
ones first. A change of flags is a part that cannot be repeated. -/
structure Draft where
  flags : Flags
  names : List (List Char)
  choices : List Part := []
  parts : List (Bool × Part) := []

namespace Draft

/-- The choice at hand. -/
def choice (draft : Draft) : Part :=
  Part.together sequence (draft.parts.map Prod.snd).reverse

/-- The whole group. -/
def whole (draft : Draft) : Part :=
  Part.together Pattern.choices (draft.choice :: draft.choices).reverse

/-- The draft after a bar. -/
def nextChoice (draft : Draft) : Draft :=
  { draft with choices := draft.choice :: draft.choices, parts := [] }

/-- The draft after one more part. -/
def add (draft : Draft) (part : Part) : Draft :=
  { draft with parts := (true, part) :: draft.parts }

/-- The draft after a change of flags. -/
def withFlags (draft : Draft) (flags : Flags) : Draft :=
  { draft with flags, parts := (false, ⟨nothing, 0⟩) :: draft.parts }

/-- The draft with its last part repeated. A question mark behind a repetition turns its preference
around. -/
def repeat? (draft : Draft) (pattern : Pattern → Bool → Pattern) (cs : List Char) :
    Option (Draft × List Char) :=
  let (lazy, rest) := match cs with
    | '?' :: rest => (true, rest)
    | rest => (false, rest)
  match draft.parts with
  | (true, part) :: parts =>
    let part := part.within fun body => pattern body (lazy = draft.flags.lazyFirst)
    some ({ draft with parts := (true, part) :: parts }, rest)
  | _ => none

end Draft

/-! ## Openings -/

/-- What an opening parenthesis starts: a change of flags, or a group. -/
inductive Opening where
  | flags (flags : Flags)
  | group (flags : Flags) (names : List (List Char))

/-- Whether a name may start with a character. -/
def isNameStart (c : Char) : Bool :=
  c = '_' || Text.isAlphabetic c

/-- Whether a character may stand in a name behind its start. -/
def isNameChar (c : Char) : Bool :=
  c = '_' || c = '.' || c = '[' || c = ']' || Text.isLetterOrDigit c

/-- The name of a group, which is new, and what follows its closing bracket. -/
def name? (names : List (List Char)) (cs : List Char) : Option (List Char × List Char) :=
  match cs.span (· ≠ '>') with
  | (first :: more, _ :: rest) =>
    let name := first :: more
    if isNameStart first && more.all isNameChar && !names.elem name then some (name, rest) else none
  | _ => none

/-- A group with a name. -/
def namedGroup? (draft : Draft) (cs : List Char) : Option (Opening × List Char) := do
  let (name, rest) ← name? draft.names cs
  return (.group draft.flags (name :: draft.names), rest)

/-- What an opening parenthesis starts, and what follows. -/
def opening? (draft : Draft) (cs : List Char) : Option (Opening × List Char) :=
  match draft.flags.skip cs with
  | '?' :: 'P' :: '<' :: rest => namedGroup? draft rest
  | '?' :: '<' :: rest => namedGroup? draft rest
  | '?' :: ')' :: _ => none
  | '?' :: rest => do
    match ← draft.flags.settings? [] true rest with
    | (flags, ')' :: rest) => return (.flags flags, rest)
    | (flags, rest) => return (.group flags draft.names, rest.tail)
  | rest => some (.group draft.flags draft.names, rest)

/-! ## Patterns -/

/-- The pattern of an atom. -/
def Atom.pattern (flags : Flags) : Atom → Pattern
  | literal c => .char (flags.fold (CharSet.ofList [c]))
  | set s => .char s
  | edge e => .edge e

/-- The smallest part that is spelled by a character and maybe further ones. -/
def atom? (flags : Flags) (c : Char) (rest : List Char) : Option (Pattern × List Char) :=
  match c with
  | '\\' => (escape? flags rest).map fun (atom, rest) => (atom.pattern flags, rest)
  | '.' => flags.point?.map fun set => (.char set, rest)
  | '^' => some (.edge flags.start, rest)
  | '$' => some (.edge flags.stop, rest)
  | '\x7b' => none
  | c => some ((Atom.literal c).pattern flags, rest)

/-- Reads a group up to its closing parenthesis or the end of the text. -/
def group? : Nat → Draft → List Char → Option (Draft × List Char)
  | 0, _, _ => none
  | fuel + 1, draft, cs =>
    match draft.flags.skip cs with
    | [] => some (draft, [])
    | ')' :: rest => some (draft, ')' :: rest)
    | '|' :: rest => group? fuel draft.nextChoice rest
    | '*' :: rest => do
      let (draft, rest) ← draft.repeat? star rest
      group? fuel draft rest
    | '+' :: rest => do
      let (draft, rest) ← draft.repeat? repeated rest
      group? fuel draft rest
    | '?' :: rest => do
      let (draft, rest) ← draft.repeat? optional rest
      group? fuel draft rest
    | '[' :: rest => do
      let (set, rest) ← bracket? draft.flags rest
      group? fuel (draft.add ⟨.char set.set, set.depth⟩) rest
    | '(' :: rest => do
      match ← opening? draft rest with
      | (.flags flags, rest) => group? fuel (draft.withFlags flags) rest
      | (.group flags names, rest) =>
        match ← group? fuel { flags, names } rest with
        | (inner, ')' :: rest) =>
          group? fuel ({ draft with names := inner.names }.add (inner.whole.within id)) rest
        | _ => none
    | c :: rest => do
      let (pattern, rest) ← atom? draft.flags c rest
      group? fuel (draft.add ⟨pattern, 0⟩) rest

/-- How deep the parts of a pattern may nest. -/
def maxDepth : Nat :=
  250

/-- The pattern that a text spells. -/
def parse? (text : String) : Option Pattern := do
  let cs := text.toList
  match ← group? (cs.length + 1) { flags := {}, names := [] } cs with
  | (draft, []) => if draft.whole.depth ≤ maxDepth then some draft.whole.pattern else none
  | _ => none

end RoleDiscovery.Pattern
