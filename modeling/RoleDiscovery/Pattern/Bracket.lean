import RoleDiscovery.Pattern.Escape

/-!
# Sets in brackets

A set of characters is written in brackets: characters, ranges, escapes, names of sets of ASCII
characters and further sets in brackets. Two ampersands, hyphens or tildes between two parts keep
what is in both, in the first one only, or in just one of them.

Results:

* `Pattern.bracket?`: the set that is spelled behind an opening bracket.
-/

namespace RoleDiscovery.Pattern

/-- How two sets are put together. -/
inductive Junction where
  | both
  | firstOnly
  | justOne

/-- Two sets put together. -/
def Junction.join (junction : Junction) (a b : CharSet) : CharSet :=
  fun c =>
    match junction with
    | both => a c && b c
    | firstOnly => a c && !b c
    | justOne => a c != b c

/-- A set, and how deep the sets in it nest. -/
structure NestedSet where
  set : CharSet
  depth : Nat

/-- Sets side by side, as far as they have been read. -/
structure Members where
  set : CharSet := CharSet.ofList []
  count : Nat := 0
  depth : Nat := 0

namespace Members

/-- One more set side by side with the others. -/
def add (members : Members) (set : NestedSet) : Members where
  set := members.set.union set.set
  count := members.count + 1
  depth := max members.depth set.depth

/-- One more character. -/
def addChar (members : Members) (c : Char) : Members :=
  members.add ⟨CharSet.ofList [c], 0⟩

/-- The sets side by side as one. -/
def whole (members : Members) : NestedSet where
  set := members.set
  depth := if members.count ≤ 1 then members.depth else members.depth + 1

end Members

/-- The sets side by side, put together with what stands before them. -/
def joined (flags : Flags) (left : Option (NestedSet × Junction)) (members : Members) : NestedSet :=
  match left with
  | none => members.whole
  | some (left, junction) =>
    { set := junction.join (flags.fold left.set) (flags.fold members.set)
      depth := max left.depth members.whole.depth + 1 }

/-! ## Members -/

/-- The name of a set of ASCII characters behind an opening bracket, between colons, whether the
characters outside the set are meant, and what follows. -/
def named? (cs : List Char) : Option (CharSet × Bool × List Char) := do
  let (negated, cs) ← match cs with
    | ':' :: '^' :: rest => some (true, rest)
    | ':' :: rest => some (false, rest)
    | _ => none
  match cs.span (· ≠ ':') with
  | (name, ':' :: ']' :: rest) => do
    let set ← CharSet.ofAsciiName? (String.ofList name)
    return (set, negated, rest)
  | _ => none

/-- A character or an escape, and what follows it. -/
def member? (flags : Flags) : List Char → Option (Atom × List Char)
  | [] => none
  | '\\' :: rest => escape? flags rest
  | c :: rest => some (.literal c, rest)

/-- A character that may stand in a set: where characters are those of ASCII, one of them. -/
def Atom.char? (flags : Flags) : Atom → Option Char
  | literal c => if flags.unicode ∨ c.toNat < 0x80 then some c else none
  | set _ | edge _ => none

/-- The set that an atom stands for. -/
def Atom.set? (flags : Flags) : Atom → Option CharSet
  | set s => some s
  | atom => (atom.char? flags).map fun c => CharSet.ofList [c]

/-- A range, or a single character or escape, and what follows. A hyphen in front of another one or
of the closing bracket does not make a range. -/
def range? (flags : Flags) (cs : List Char) : Option (CharSet × List Char) := do
  let (first, rest) ← member? flags cs
  let single := do return (← first.set? flags, rest)
  match flags.skip rest with
  | '-' :: rest =>
    let next := flags.peek? rest
    if next = some ']' ∨ next = some '-' then single
    else
      let (last, rest) ← member? flags (flags.skip rest)
      let first ← first.char? flags
      let last ← last.char? flags
      if first ≤ last then some (CharSet.ofRange first last, rest) else none
  | _ => single

/-! ## Sets -/

/-- Whether the characters outside a set are meant, and what follows. -/
def outside (flags : Flags) (cs : List Char) : Bool × List Char :=
  match flags.skip cs with
  | '^' :: rest => (true, rest)
  | rest => (false, rest)

/-- The set that is spelled up to a closing bracket, and what follows it. At its start hyphens stand
for themselves, and so does a closing bracket in front of all else. -/
def members? (flags : Flags) :
    Nat → Bool → Option (NestedSet × Junction) → Members → List Char →
      Option (NestedSet × List Char)
  | 0, _, _, _, _ => none
  | fuel + 1, starting, left, members, cs =>
    let join (junction : Junction) (rest : List Char) :=
      members? flags fuel false (some (joined flags left members, junction)) {} rest
    match flags.skip cs with
    | [] => none
    | ']' :: rest =>
      if starting ∧ members.count = 0 then
        members? flags fuel false left (members.addChar ']') rest
      else some (joined flags left members, rest)
    | '&' :: '&' :: rest => join .both rest
    | '~' :: '~' :: rest => join .justOne rest
    | '[' :: rest =>
      match named? rest with
      | some (set, negated, rest) => do
        let set ← flags.close? negated set
        members? flags fuel false left (members.add ⟨set, 0⟩) rest
      | none => do
        let (negated, rest) := outside flags rest
        let (inner, rest) ← members? flags fuel true none {} rest
        let set ← flags.close? negated inner.set
        members? flags fuel false left (members.add ⟨set, inner.depth + 1⟩) rest
    | c :: rest =>
      if c = '-' ∧ starting then members? flags fuel true left (members.addChar '-') rest
      else if c = '-' ∧ rest.head? = some '-' then join .firstOnly rest.tail
      else do
        let (set, rest) ← range? flags (c :: rest)
        members? flags fuel false left (members.add ⟨set, 0⟩) rest

/-- The set that is spelled behind an opening bracket, and what follows it. -/
def bracket? (flags : Flags) (cs : List Char) : Option (NestedSet × List Char) := do
  let (negated, rest) := outside flags cs
  let (inner, rest) ← members? flags (rest.length + 1) true none {} rest
  return ({ set := ← flags.close? negated inner.set, depth := inner.depth + 1 }, rest)

end RoleDiscovery.Pattern
