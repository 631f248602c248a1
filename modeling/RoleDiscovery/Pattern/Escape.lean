import RoleDiscovery.Pattern.Flags

/-!
# Escapes in patterns

A backslash takes the meaning from a mark and gives one to a letter.

Results:

* `Pattern.Atom`: the smallest parts of patterns.
* `Pattern.escape?`: what a backslash and the characters behind it stand for.
-/

namespace RoleDiscovery.Pattern

/-- The smallest parts of patterns: one character, one out of a set, and a place. -/
inductive Atom where
  | literal (c : Char)
  | set (set : CharSet)
  | edge (edge : Edge)

/-- The number that a count of hexadecimal digits spells, and what follows them. -/
def hexDigits? (flags : Flags) (n : Nat) : Nat → List Char → Option (Nat × List Char)
  | 0, cs => some (n, cs)
  | count + 1, cs =>
    match flags.skip cs with
    | c :: rest =>
      match Text.digitValue? 16 c with
      | some digit => hexDigits? flags (n * 16 + digit) count rest
      | none => none
    | [] => none

/-- The character whose code point a count of hexadecimal digits spells. Where characters are those
of ASCII two digits spell a byte, which has to be a character of its own. -/
def codePoint? (flags : Flags) (count : Nat) (cs : List Char) : Option (Atom × List Char) := do
  let (n, rest) ← hexDigits? flags 0 count cs
  if ¬n.isValidChar ∨ (count = 2 ∧ ¬flags.unicode ∧ 0x80 ≤ n) then none
  return (.literal (Char.ofNat n), rest)

/-- A general category, given by a letter, or what is outside it. -/
def category? (flags : Flags) (negated : Bool) (cs : List Char) : Option (Atom × List Char) :=
  match flags.skip cs with
  | c :: rest => do
    if ¬flags.unicode then none
    let set ← CharSet.ofCategory? c
    return (.set (← flags.close? negated set), rest)
  | [] => none

/-- Whether a backslash takes the meaning from a character, if it has one. -/
def isMark (c : Char) : Bool :=
  c.toNat < 0x80 && !c.isAlphanum && c ≠ '<' && c ≠ '>'

/-- What a backslash and the character behind it stand for. -/
def simpleEscape? (flags : Flags) (c : Char) : Option Atom :=
  match c with
  | 'a' => some (.literal '\x07')
  | 't' => some (.literal '\t')
  | 'n' => some (.literal '\n')
  | 'v' => some (.literal '\x0b')
  | 'f' => some (.literal '\x0c')
  | 'r' => some (.literal '\x0d')
  | 'd' => some (.set flags.digit)
  | 's' => some (.set flags.blank)
  | 'w' => some (.set flags.word)
  | 'D' => (flags.complement? flags.digit).map .set
  | 'S' => (flags.complement? flags.blank).map .set
  | 'W' => (flags.complement? flags.word).map .set
  | 'A' => some (.edge .textStart)
  | 'z' => some (.edge .textEnd)
  | 'b' => (flags.wordEdge? .wordEdge).map .edge
  | 'B' => (flags.wordEdge? .noWordEdge).map .edge
  | '<' => (flags.wordEdge? .wordStart).map .edge
  | '>' => (flags.wordEdge? .wordEnd).map .edge
  | c => if isMark c then some (.literal c) else none

/-- What a backslash stands for with the characters behind it, and what follows. -/
def escape? (flags : Flags) : List Char → Option (Atom × List Char)
  | 'x' :: rest => codePoint? flags 2 rest
  | 'u' :: rest => codePoint? flags 4 rest
  | 'U' :: rest => codePoint? flags 8 rest
  | 'p' :: rest => category? flags false rest
  | 'P' :: rest => category? flags true rest
  | c :: rest => (simpleEscape? flags c).map fun atom => (atom, rest)
  | [] => none

end RoleDiscovery.Pattern
