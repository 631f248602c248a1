import RoleDiscovery.Text.Digit

/-!
# Numbers in scientific notation

Results:

* `Scientific.parse?`: the number that a text without a sign spells.
-/

namespace RoleDiscovery

/-- A number in scientific notation: its digits, and the power of ten that they are scaled by. -/
structure Scientific where
  digits : Nat
  exponent : Int

namespace Scientific

/-- The exponent part of a number; without one it is zero. -/
def exponent? : List Char → Option Int
  | [] => some 0
  | c :: rest =>
    if c = 'e' ∨ c = 'E' then
      match rest with
      | '+' :: rest => (Text.natOfDigits? 10 rest).map fun n => (n : Int)
      | '-' :: rest => (Text.natOfDigits? 10 rest).map fun n => -(n : Int)
      | rest => (Text.natOfDigits? 10 rest).map fun n => (n : Int)
    else none

/-- The number that unsigned decimal notation spells, with digits before or after the point. -/
def parse? (s : List Char) : Option Scientific :=
  let (whole, rest) := s.span Char.isDigit
  match rest with
  | '.' :: rest =>
    let (fraction, rest) := rest.span Char.isDigit
    if whole.isEmpty ∧ fraction.isEmpty then none
    else (exponent? rest).map fun e => ⟨Text.ofDigits (whole ++ fraction), e - fraction.length⟩
  | rest => if whole.isEmpty then none else (exponent? rest).map fun e => ⟨Text.ofDigits whole, e⟩

end Scientific

end RoleDiscovery
