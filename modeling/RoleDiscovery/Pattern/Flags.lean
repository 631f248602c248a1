import RoleDiscovery.Pattern.Basic

/-!
# Flags of patterns

Flags change what the rest of a group means: `(?i)` ignores case, `(?-u)` keeps to ASCII. Behind a
hyphen they are taken back.

Results:

* `Pattern.Flags`: the flags and what they mean for sets of characters.
* `Pattern.Flags.skip`: passes over blanks and remarks where they do not count.
* `Pattern.Flags.settings?`: the flags behind a question mark.
-/

namespace RoleDiscovery.Pattern

/-- How a part of a pattern is to be read. -/
structure Flags where
  /-- Letters stand for their variants in case. -/
  ignoresCase : Bool := false
  /-- The edges of the text are the edges of its lines. -/
  byLine : Bool := false
  /-- A point stands for a line break as well. -/
  anyBreak : Bool := false
  /-- A carriage return is a line break as well. -/
  bothBreaks : Bool := false
  /-- Repetitions are greedy only with a question mark behind them. -/
  lazyFirst : Bool := false
  /-- Characters are those of Unicode, not only those of ASCII. -/
  unicode : Bool := true
  /-- Blanks and remarks do not count. -/
  spaced : Bool := false

namespace Flags

/-- Sets the flag of a letter. -/
def set? (flags : Flags) (letter : Char) (value : Bool) : Option Flags :=
  match letter with
  | 'i' => some { flags with ignoresCase := value }
  | 'm' => some { flags with byLine := value }
  | 's' => some { flags with anyBreak := value }
  | 'R' => some { flags with bothBreaks := value }
  | 'U' => some { flags with lazyFirst := value }
  | 'u' => some { flags with unicode := value }
  | 'x' => some { flags with spaced := value }
  | _ => none

/-- The flags of some letters, each of which may come once, and what follows them from the colon or
the closing parenthesis on. The letters behind a hyphen are taken back; there have to be some. -/
def settings? (seen : List Char) (value : Bool) (flags : Flags) :
    List Char → Option (Flags × List Char)
  | [] => none
  | c :: rest =>
    if c = ':' ∨ c = ')' then if seen.head? = some '-' then none else some (flags, c :: rest)
    else if seen.elem c then none
    else if c = '-' then settings? (c :: seen) false flags rest
    else
      match flags.set? c value with
      | some flags => settings? (c :: seen) value flags rest
      | none => none

/-! ## Blanks -/

/-- What follows blanks and remarks, which go from a hash to the end of the line. -/
def skipBlanks (inRemark : Bool) : List Char → List Char
  | [] => []
  | c :: rest =>
    if inRemark then skipBlanks (c ≠ '\n') rest
    else if Text.isBlank c then skipBlanks false rest
    else if c = '#' then skipBlanks true rest
    else c :: rest

/-- What follows the blanks and remarks that do not count. -/
def skip (flags : Flags) (cs : List Char) : List Char :=
  if flags.spaced then skipBlanks false cs else cs

/-- The next character that is not a blank, where blanks do not count. A hash in front of it does
not hide it. -/
def peek? (flags : Flags) (cs : List Char) : Option Char :=
  if flags.spaced then
    match cs.dropWhile Text.isBlank with
    | '#' :: rest => (rest.dropWhile Text.isBlank).head?
    | rest => rest.head?
  else cs.head?

/-! ## Sets of characters -/

/-- A set with the variants of its characters, if case is ignored. -/
def fold (flags : Flags) (set : CharSet) : CharSet :=
  if flags.ignoresCase then if flags.unicode then set.folded else set.foldedAscii else set

/-- The characters outside a set. There are too many of them for ASCII. -/
def complement? (flags : Flags) (set : CharSet) : Option CharSet :=
  if flags.unicode then some set.complement else none

/-- A set with the variants of its characters, if case is ignored, or the characters outside it. -/
def close? (flags : Flags) (negated : Bool) (set : CharSet) : Option CharSet :=
  if negated then flags.complement? (flags.fold set) else some (flags.fold set)

/-- Digits. -/
def digit (flags : Flags) : CharSet :=
  if flags.unicode then Text.isDecimalDigit else Char.isDigit

/-- White space. -/
def blank (flags : Flags) : CharSet :=
  if flags.unicode then Text.isBlank else CharSet.asciiBlank

/-- The characters of words. -/
def word (flags : Flags) : CharSet :=
  if flags.unicode then CharSet.word else CharSet.asciiWord

/-- The characters that a point stands for. -/
def point? (flags : Flags) : Option CharSet :=
  if flags.anyBreak then flags.complement? (CharSet.ofList [])
  else flags.complement? (CharSet.ofList (if flags.bothBreaks then ['\n', '\x0d'] else ['\n']))

/-! ## Edges -/

/-- The place that a circumflex stands for. -/
def start (flags : Flags) : Edge :=
  if flags.byLine then .lineStart flags.bothBreaks else .textStart

/-- The place that a dollar sign stands for. -/
def stop (flags : Flags) : Edge :=
  if flags.byLine then .lineEnd flags.bothBreaks else .textEnd

/-- A condition on words. Only words of ASCII have edges. -/
def wordEdge? (flags : Flags) (edge : Edge) : Option Edge :=
  if flags.unicode then none else some edge

end Flags

end RoleDiscovery.Pattern
