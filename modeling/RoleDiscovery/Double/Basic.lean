import RoleDiscovery.Text.Scientific

/-!
# Doubles

Finite floating-point numbers of 64 bits, as exact numbers: a significand times a power of two.
Every operation gives the double that is nearest to the exact result, and the even one of two that
are equally near.

Results:

* `Double`: a finite number, with the one form that it has.
* `Double.equals`: equality of numbers.
* `Double.nearest?`: the double nearest to a quotient.
* `Double.ofScientific?`: the double nearest to a decimal number.
* `Double.mul?`, `Double.div?`: product and quotient.
-/

namespace RoleDiscovery

/-- The least number of 53 bits. -/
def Double.leading : Nat :=
  0x10000000000000

/-- A finite double: its sign, and the size `significand * 2 ^ exponent`. -/
structure Double where
  negative : Bool
  significand : Nat
  exponent : Int
  /-- The significand has 53 bits, or fewer with the least exponent. -/
  normal : significand < 2 * Double.leading ∧ -1074 ≤ exponent ∧ exponent ≤ 971 ∧
    (Double.leading ≤ significand ∨ exponent = -1074)
  deriving DecidableEq

namespace Double

/-- The double with a sign and a size, if the size has the form of one. -/
def of? (negative : Bool) (significand : Nat) (exponent : Int) : Option Double :=
  if h : significand < 2 * leading ∧ -1074 ≤ exponent ∧ exponent ≤ 971 ∧
      (leading ≤ significand ∨ exponent = -1074) then
    some ⟨negative, significand, exponent, h⟩
  else none

/-- Zero, which has a sign as well. -/
def zero (negative : Bool) : Double :=
  ⟨negative, 0, -1074, by decide⟩

instance : Inhabited Double :=
  ⟨zero false⟩

/-- Whether two doubles are the same number. Zero is, with either sign. -/
def equals (x y : Double) : Bool :=
  x = y || (x.significand = 0 && y.significand = 0)

theorem equals_self (x : Double) : x.equals x = true := by
  simp [equals]

theorem equals_comm (x y : Double) : x.equals y = y.equals x := by
  rw [equals, equals, Bool.and_comm, decide_eq_decide.2 eq_comm]

/-! ## Rounding -/

/-- The whole number nearest to a quotient, the even one of two. -/
def roundDiv (num den : Nat) : Nat :=
  let quotient := num / den
  let twice := 2 * (num % den)
  if den < twice ∨ (twice = den ∧ quotient % 2 = 1) then quotient + 1 else quotient

/-- The quotient `num / den` times a power of two, as a quotient. -/
def shifted (num den : Nat) (power : Int) : Nat × Nat :=
  if 0 ≤ power then (num <<< power.toNat, den) else (num, den <<< (-power).toNat)

/-- The double nearest to a quotient; there is none if the size is out of range. -/
def nearest? (negative : Bool) (num den : Nat) : Option Double :=
  if num = 0 then some (zero negative)
  else
    let estimate : Int := (num.log2 : Int) - den.log2 - 52
    let (scaled, unit) := shifted num den (-estimate)
    let exponent := max (-1074) (if scaled < leading * unit then estimate - 1 else estimate)
    let (scaled, unit) := shifted num den (-exponent)
    let significand := roundDiv scaled unit
    if significand = 2 * leading then of? negative leading (exponent + 1)
    else of? negative significand exponent

/-- The double nearest to a decimal number; there is none if the number is out of range. The digits
alone decide when the exponent is out of all proportion to their number. -/
def ofScientific? (negative : Bool) (x : Scientific) : Option Double :=
  let size := (Nat.toDigits 10 x.digits).length + x.exponent
  if x.digits = 0 ∨ size < -330 then some (zero negative)
  else if 310 < size then none
  else if 0 ≤ x.exponent then nearest? negative (x.digits * Nat.pow 10 x.exponent.toNat) 1
  else nearest? negative x.digits (Nat.pow 10 (-x.exponent).toNat)

/-! ## Arithmetic -/

/-- The product of two doubles. -/
def mul? (x y : Double) : Option Double :=
  let (num, den) := shifted (x.significand * y.significand) 1 (x.exponent + y.exponent)
  nearest? (x.negative != y.negative) num den

/-- The quotient of two doubles. There is none by zero. -/
def div? (x y : Double) : Option Double :=
  if y.significand = 0 then none
  else
    let (num, den) := shifted x.significand y.significand (x.exponent - y.exponent)
    nearest? (x.negative != y.negative) num den

end Double

end RoleDiscovery
