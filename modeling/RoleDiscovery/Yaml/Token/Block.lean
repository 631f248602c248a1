import RoleDiscovery.Yaml.Token.Quoted

/-!
# Block scalars

A text on lines of its own below a mark, with the same indentation on every line. In a literal block
every break counts; in a folded one a single break between two lines is read as a space, unless one
of the lines starts with a blank.

Results:

* `Token.blockScalar?`: the text of a block scalar, from after its mark, and the cursor after it.
-/

namespace RoleDiscovery.Yaml.Token

/-! ## The header -/

/-- What happens to the breaks at the end of a block. -/
inductive Chomping where
  | strip
  | clip
  | keep
  deriving DecidableEq

/-- What the line of the mark says: the chomping, and the indentation below that of the block
around, if it is stated. -/
structure BlockHeader where
  chomping : Chomping
  increment : Option Nat

/-- The chomping mark, if there is one. -/
def chomping? (cursor : Cursor) : Option Chomping × Cursor :=
  match cursor.rest with
  | '-' :: _ => (some .strip, cursor.skip)
  | '+' :: _ => (some .keep, cursor.skip)
  | _ => (none, cursor)

/-- The stated indentation, if there is one. It is not zero. -/
def increment? (cursor : Cursor) : Option (Option Nat × Cursor) :=
  match cursor.rest with
  | c :: _ =>
    if c = '0' then none
    else if c.isDigit then some (some (c.toNat - 48), cursor.skip)
    else some (none, cursor)
  | [] => some (none, cursor)

/-- The header of a block and the cursor at the line after it. Its two marks come in any order. -/
def blockHeader? (cursor : Cursor) : Option (BlockHeader × Cursor) := do
  match chomping? cursor with
  | (some chomping, cursor) =>
    let (increment, cursor) ← increment? cursor
    return (⟨chomping, increment⟩, ← cursor.endLine?)
  | (none, cursor) =>
    let (increment, cursor) ← increment? cursor
    let (chomping, cursor) := if increment.isSome then chomping? cursor else (none, cursor)
    return (⟨chomping.getD .clip, increment⟩, ← cursor.endLine?)

/-! ## The indentation -/

/-- The widest indentation of the lines up to the first one that is not blank. A tab may not take
part in it. -/
def widestMargin? (column widest : Nat) : List Char → Option Nat
  | [] => some (max column widest)
  | c :: rest =>
    if c = ' ' then widestMargin? (column + 1) widest rest
    else if c = '\t' then none
    else if isBreak c then widestMargin? 0 (max column widest) rest
    else some (max column widest)

/-- The indentation of a block whose header does not state it: that of its first line, and more than
that of the block around, whose least inner indentation is given. -/
def blockIndent? (least : Nat) (rest : List Char) : Option Nat :=
  (widestMargin? 0 0 rest).map fun widest => max widest (max least 1)

/-! ## The text -/

/-- The breaks before the next line: the one that ended the last line, if any, and those of blank
lines, the last one first. `blank` tells that the last line started with a blank. -/
structure Breaks where
  first : List Char
  others : List Char
  blank : Bool

namespace Breaks

/-- The text of the breaks between two lines. `blank` tells that the next line starts with a
blank. -/
def between (breaks : Breaks) (folded blank : Bool) : List Char :=
  if folded ∧ breaks.first = ['\n'] ∧ ¬breaks.blank ∧ ¬blank then
    if breaks.others.isEmpty then [' '] else breaks.others.reverse
  else breaks.first ++ breaks.others.reverse

/-- The text of the breaks after the last line. -/
def atEnd (breaks : Breaks) : Chomping → List Char
  | .strip => []
  | .clip => breaks.first
  | .keep => breaks.first ++ breaks.others.reverse

end Breaks

/-- Where a block is being read: in the margin before a line, or in a line. -/
inductive BlockPlace where
  | margin (breaks : Breaks)
  | line (blank : Bool)

/-- The text of the rest of a block that is indented to a column, and the cursor after it. -/
def blockText? (folded : Bool) (chomping : Chomping) (indent : Nat) (place : BlockPlace) :
    List Char → Position → Option (List Char × Cursor)
  | [], p =>
    match place with
    | .margin breaks => some (breaks.atEnd chomping, ⟨[], p⟩)
    | .line _ => some ([], ⟨[], p⟩)
  | c :: rest, p =>
    match place with
    | .margin breaks =>
      if p.column < indent ∧ c = ' ' then
        blockText? folded chomping indent place rest (p.step c)
      else if p.column < indent ∧ c = '\t' then none
      else if isBreak c then
        let breaks := { breaks with others := c :: breaks.others }
        blockText? folded chomping indent (.margin breaks) rest (p.step c)
      else if p.column = indent then
        let blank := isBlank c
        (blockText? folded chomping indent (.line blank) rest (p.step c)).map
          (before (breaks.between folded blank ++ [c]))
      else some (breaks.atEnd chomping, ⟨c :: rest, p⟩)
    | .line blank =>
      if isBreak c then
        blockText? folded chomping indent (.margin ⟨[c], [], blank⟩) rest (p.step c)
      else (blockText? folded chomping indent place rest (p.step c)).map (before [c])

/-- A block scalar, from after its mark. `least` is the least indentation inside the block around
it, in which a stated indentation counts from one less. -/
def blockScalar? (folded : Bool) (least : Nat) (cursor : Cursor) :
    Option (List Char × Cursor) := do
  let (header, cursor) ← blockHeader? cursor
  let indent ← match header.increment with
    | some increment => some (least - 1 + increment)
    | none => blockIndent? least cursor.rest
  blockText? folded header.chomping indent (.margin ⟨[], [], false⟩) cursor.rest cursor.position

end RoleDiscovery.Yaml.Token
