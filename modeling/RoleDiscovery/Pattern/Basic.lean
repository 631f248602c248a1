import RoleDiscovery.Pattern.CharSet

/-!
# Patterns

A pattern describes texts: characters out of sets, one after the other, with choices and
repetitions. Where it leaves a choice it also says which way is preferred.

Results:

* `Pattern`: what a text has to look like.
* `Pattern.Edge.holds`: a condition on the place between two characters.
-/

namespace RoleDiscovery

/-- A condition on the place between two characters. A line ends before a line feed or, if both
kinds of line breaks count, before a carriage return as well, with the line feed behind it taken
along. Words are those of ASCII. -/
inductive Pattern.Edge where
  | textStart
  | textEnd
  | lineStart (bothBreaks : Bool)
  | lineEnd (bothBreaks : Bool)
  | wordEdge
  | noWordEdge
  | wordStart
  | wordEnd
  deriving DecidableEq

/-- What a text has to look like. Something optional or repeated is tried before it is passed over
if it is greedy, and after that if it is not. -/
inductive Pattern where
  | nothing
  | char (set : CharSet)
  | edge (edge : Pattern.Edge)
  | seq (first second : Pattern)
  | choice (first second : Pattern)
  | optional (body : Pattern) (greedy : Bool)
  | repeated (body : Pattern) (greedy : Bool)

namespace Pattern

/-- Whether a condition holds between two characters; at an end of the text there is none. -/
def Edge.holds (before after : Option Char) : Edge → Bool
  | textStart => before.isNone
  | textEnd => after.isNone
  | lineStart false => before.all (· = '\n')
  | lineStart true =>
    before.all fun c => c = '\n' || (c = '\x0d' && after ≠ some '\n')
  | lineEnd false => after.all (· = '\n')
  | lineEnd true =>
    after.all fun c => c = '\x0d' || (c = '\n' && before ≠ some '\x0d')
  | wordEdge => before.any CharSet.asciiWord ≠ after.any CharSet.asciiWord
  | noWordEdge => before.any CharSet.asciiWord = after.any CharSet.asciiWord
  | wordStart => !before.any CharSet.asciiWord && after.any CharSet.asciiWord
  | wordEnd => before.any CharSet.asciiWord && !after.any CharSet.asciiWord

/-- A pattern any number of times, also none. -/
def star (body : Pattern) (greedy : Bool) : Pattern :=
  optional (repeated body greedy) greedy

/-- Some patterns one after the other. -/
def sequence : List Pattern → Pattern
  | [] => nothing
  | [p] => p
  | p :: rest => seq p (sequence rest)

/-- One of some patterns, the earlier ones preferred. -/
def choices : List Pattern → Pattern
  | [] => nothing
  | [p] => p
  | p :: rest => choice p (choices rest)

end Pattern

end RoleDiscovery
