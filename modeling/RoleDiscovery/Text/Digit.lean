/-!
# Digits

Numbers in decimal and hexadecimal writing.

Results:

* `Text.digitValue?`, `Text.ofDigits`, `Text.natOfDigits?`: what digits spell.
* `Text.hexDigit`, `Text.upperHexDigit`, `Text.upperHexDigits`: the digits of a number.
-/

namespace RoleDiscovery.Text

/-! ## Reading -/

/-- The value of a digit in a base up to sixteen. -/
def digitValue? (base : Nat) (c : Char) : Option Nat :=
  let value :=
    if '0' ≤ c ∧ c ≤ '9' then c.toNat - 48
    else if 'a' ≤ c ∧ c ≤ 'f' then c.toNat - 87
    else if 'A' ≤ c ∧ c ≤ 'F' then c.toNat - 55
    else base
  if value < base then some value else none

/-- The value of a row of decimal digits. -/
def ofDigits (digits : List Char) : Nat :=
  digits.foldl (fun n c => n * 10 + (c.toNat - 48)) 0

/-- The number that a row of digits spells in a base; there has to be one. -/
def natOfDigits? (base : Nat) : List Char → Option Nat
  | [] => none
  | digits => digits.foldlM (fun n c => (digitValue? base c).map (n * base + ·)) 0

/-! ## Writing -/

/-- A hexadecimal digit. -/
def hexDigit (n : Nat) : Char :=
  if n < 10 then Char.ofNat (48 + n) else Char.ofNat (87 + n)

/-- A hexadecimal digit in upper case. -/
def upperHexDigit (n : Nat) : Char :=
  if n < 10 then Char.ofNat (48 + n) else Char.ofNat (55 + n)

/-- A number in a fixed count of such digits. -/
def upperHexDigits : Nat → Nat → List Char
  | 0, _ => []
  | count + 1, n => upperHexDigits count (n / 16) ++ [upperHexDigit (n % 16)]

end RoleDiscovery.Text
