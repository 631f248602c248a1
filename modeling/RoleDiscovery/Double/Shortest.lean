import RoleDiscovery.Double.Basic

/-!
# Doubles in decimal notation

A double is written with the fewest digits that read back as the same double, and of those the
digits nearest to it.

Results:

* `Double.shortest`: these digits.
* `Double.plain`: the notation without an exponent, a point only before a fraction.
* `Double.print`: the notation with an exponent for very large and very small numbers.
-/

namespace RoleDiscovery.Double

/-! ## The digits -/

/-- Which of two equally near rows of digits is taken. -/
inductive Tie where
  | up
  | even
  deriving DecidableEq

/-- The numbers that read back as a double, the double itself, and a point of a decimal grid, all as
multiples of one unit. `inclusive` tells whether the two ends read back too. -/
structure Neighborhood where
  low : Nat
  value : Nat
  high : Nat
  step : Nat
  inclusive : Bool

namespace Neighborhood

/-- The numbers that read back as `x`, next to the multiples of ten to a power. The next double
below a power of two is only half as far as the one above it. -/
def of (x : Double) (power : Int) : Neighborhood :=
  let binary := x.exponent - 2
  let unit := Nat.pow 10 (-power).toNat <<< (-binary).toNat
  let quarter := unit <<< binary.toNat >>> (-binary).toNat
  let value := 4 * x.significand * quarter
  let below := if x.significand = leading ∧ -1074 < x.exponent then quarter else 2 * quarter
  { low := value - below
    value
    high := value + 2 * quarter
    step := Nat.pow 10 power.toNat * unit / Nat.pow 10 (-power).toNat
    inclusive := x.significand % 2 = 0 }

/-- Whether a number reads back as the double. -/
def contains (n : Neighborhood) (number : Nat) : Bool :=
  if n.inclusive then n.low ≤ number && number ≤ n.high else n.low < number && number < n.high

/-- The multiple of the step that is nearest to the double, if it reads back. -/
def nearest? (n : Neighborhood) (tie : Tie) : Option Nat :=
  let count := n.value / n.step
  let below := count * n.step
  let above := below + n.step
  if n.contains below then
    if n.contains above then
      let down := n.value - below
      let up := above - n.value
      if down < up ∨ (down = up ∧ tie = .even ∧ count % 2 = 0) then some count else some (count + 1)
    else some count
  else if n.contains above then some (count + 1)
  else none

end Neighborhood

/-- The power of ten of the first digit of `num / den`, which is not zero. -/
def leadingPower (num den : Nat) : Int :=
  if den ≤ num then (Nat.toDigits 10 (num / den)).length - 1
  else -((Nat.toDigits 10 ((den - 1) / num)).length : Int)

/-- The digits of a double on the first grid on which one point reads back, from a number of digits
on. Seventeen digits always do. -/
def shortestFrom (tie : Tie) (x : Double) (leading : Int) : Nat → Nat → Scientific
  | 0, _ => ⟨0, 0⟩
  | fuel + 1, count =>
    let power := leading + 1 - count
    match (Neighborhood.of x power).nearest? tie with
    | some digits => ⟨digits, power⟩
    | none => shortestFrom tie x leading fuel (count + 1)

/-- The fewest digits that read back as a double, and their power of ten. -/
def shortest (tie : Tie) (x : Double) : Scientific :=
  if x.significand = 0 then ⟨0, 0⟩
  else
    let (num, den) := shifted x.significand 1 x.exponent
    shortestFrom tie x (leadingPower num den) 17 1

/-! ## Notation -/

/-- A row of zeros. -/
def zeros (count : Nat) : List Char :=
  List.replicate count '0'

/-- Digits without the zeros at the end, and their power of ten. -/
def trimmed (x : Scientific) : List Char × Int :=
  let digits := Nat.toDigits 10 x.digits
  let kept := (digits.reverse.dropWhile (· = '0')).reverse
  if kept.isEmpty then (['0'], 0) else (kept, x.exponent + (digits.length - kept.length : Nat))

/-- Digits with the point in front of the last `-power` of them, for a power below zero. -/
def pointed (digits : List Char) (power : Int) : List Char :=
  let behind := (-power).toNat
  if behind < digits.length then
    digits.take (digits.length - behind) ++ '.' :: digits.drop (digits.length - behind)
  else '0' :: '.' :: zeros (behind - digits.length) ++ digits

/-- The sign of a number. -/
def sign (x : Double) : List Char :=
  if x.negative then ['-'] else []

/-- The notation without an exponent. A tie goes up. -/
def plain (x : Double) : String :=
  let (digits, power) := trimmed (x.shortest .up)
  String.ofList <|
    x.sign ++ if 0 ≤ power then digits ++ zeros power.toNat else pointed digits power

/-- The notation that has an exponent where the point is more than sixteen digits from the left or
more than four from the first digit, and else a point. A tie goes to the even digit. -/
def print (x : Double) : String :=
  let (digits, power) := trimmed (x.shortest .even)
  let place := digits.length + power
  String.ofList <| x.sign ++
    if 0 ≤ power ∧ place ≤ 16 then digits ++ zeros power.toNat ++ ['.', '0']
    else if -5 < place ∧ place ≤ 16 then pointed digits power
    else
      let fraction := if digits.length = 1 then [] else '.' :: digits.drop 1
      digits.take 1 ++ fraction ++ 'e' :: (toString (place - 1)).toList

end RoleDiscovery.Double
