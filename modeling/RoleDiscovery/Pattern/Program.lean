import RoleDiscovery.Pattern.Basic

/-!
# Matching texts against patterns

A pattern becomes a row of numbered steps. A text is read once, with the steps that wait for its
next character kept in the order in which the pattern prefers them; of several ways to one step the
most preferred one counts. A match ends the ways that are less preferred than it is, later places to
start at among them, so the last match to be found is the one that the pattern prefers.

Results:

* `Pattern.steps`: the steps of a pattern.
* `Pattern.fits`: whether the match that a pattern prefers ends where the text ends.
-/

namespace RoleDiscovery.Pattern

/-- A step of a match, with the number of the step behind it. -/
inductive Step where
  | take (set : CharSet) (next : Nat)
  | check (edge : Edge) (next : Nat)
  | fork (preferred other : Nat)
  | accept

/-- A fork between going through a body and passing it over. -/
def Step.loop (greedy : Bool) (body next : Nat) : Step :=
  if greedy then fork body next else fork next body

/-! ## Steps -/

/-- The steps of a pattern, numbered from a base on, with the step behind them, and the number of
the first one to be taken. -/
def steps (base next : Nat) : Pattern → List Step × Nat
  | nothing => ([], next)
  | char set => ([.take set next], base)
  | edge condition => ([.check condition next], base)
  | seq p q =>
    let (later, middle) := q.steps base next
    let (earlier, start) := p.steps (base + later.length) middle
    (later ++ earlier, start)
  | choice p q =>
    let (left, preferred) := p.steps (base + 1) next
    let (right, other) := q.steps (base + 1 + left.length) next
    (.fork preferred other :: left ++ right, base)
  | optional p greedy =>
    let (body, start) := p.steps (base + 1) next
    (.loop greedy start next :: body, base)
  | repeated p greedy =>
    let (body, start) := p.steps (base + 1) base
    (.loop greedy start next :: body, start)

/-- The steps of a pattern in a row, and the number of the first one. -/
structure Program where
  steps : Array Step
  start : Nat

/-- The program of a pattern: its steps behind the one that accepts. -/
def program (p : Pattern) : Program :=
  let (steps, start) := p.steps 1 0
  { steps := (.accept :: steps).toArray, start }

namespace Program

/-- A step that has been entered is fresh no more. -/
theorem length_erase_lt {n : Nat} {fresh : List Nat} (h : n ∈ fresh) :
    (fresh.erase n).length < fresh.length := by
  rw [List.length_erase_of_mem h]
  have := List.length_pos_of_mem h
  omega

/-- The steps that are reached from some steps without taking a character, in order of preference,
up to the one that accepts. Each step is entered once, and only if it is still fresh. -/
def reach (p : Program) (before after : Option Char) (fresh : List Nat) :
    List Nat → List (CharSet × Nat) × Bool
  | [] => ([], false)
  | n :: later =>
    if h : n ∈ fresh then
      have := length_erase_lt h
      match p.steps[n]? with
      | some (.take set next) =>
        let (waiting, accepted) := p.reach before after (fresh.erase n) later
        ((set, next) :: waiting, accepted)
      | some (.check condition next) =>
        p.reach before after (fresh.erase n)
          (if condition.holds before after then next :: later else later)
      | some (.fork preferred other) =>
        p.reach before after (fresh.erase n) (preferred :: other :: later)
      | some .accept => ([], true)
      | none => p.reach before after (fresh.erase n) later
    else p.reach before after fresh later
termination_by ns => (fresh.length, ns.length)

/-- The ways at a place between two characters: what they wait for, and whether one of them accepts
here. -/
def waysAt (p : Program) (before after : Option Char) (ways : List Nat) :
    List (CharSet × Nat) × Bool :=
  p.reach before after (List.range p.steps.size) ways

/-- Whether the preferred match in a text ends at its end. As long as nothing is accepted a match
may also start at the place that is reached, and places inside a character count: its bytes are no
part of a word. -/
def run (p : Program) (ways : List Nat) (searching : Bool) (before : Option Char) :
    List Char → Bool
  | [] => (p.waysAt before none (if searching then ways ++ [p.start] else ways)).2
  | c :: rest =>
    let (waiting, accepted) :=
      p.waysAt before (some c) (if searching then ways ++ [p.start] else ways)
    let acceptedInside := 0x80 ≤ c.toNat && (p.waysAt (some c) (some c) [p.start]).2
    let ways := waiting.filterMap fun (set, next) => if set c then some next else none
    p.run ways (searching && !accepted && !acceptedInside) (some c) rest

end Program

/-- Whether the match in a text that a pattern prefers ends where the text ends. -/
def fits (p : Pattern) (text : String) : Bool :=
  p.program.run [] true none text.toList

end RoleDiscovery.Pattern
