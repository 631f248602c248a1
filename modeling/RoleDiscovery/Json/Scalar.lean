import RoleDiscovery.Json.Basic
import RoleDiscovery.Text.Digit

/-!
# Texts and numbers in JSON

Results:

* `Json.text?`: a text in double quotes.
* `Json.numeral?`: the parts of a number.
* `Json.Numeral.value?`: the value of a number.
-/

namespace RoleDiscovery.Json

/-- The blanks that may stand between the parts of a value. -/
def isBlank (c : Char) : Bool :=
  c = ' ' || c = '\n' || c = '\t' || c = '\r'

/-- The text after its leading blanks. -/
def skipBlanks (cs : List Char) : List Char :=
  cs.dropWhile isBlank

/-! ## Texts -/

/-- Four hexadecimal digits and what follows them. -/
def unit? : List Char → Option (Nat × List Char)
  | a :: b :: c :: d :: rest => do
    let a ← Text.digitValue? 16 a
    let b ← Text.digitValue? 16 b
    let c ← Text.digitValue? 16 c
    let d ← Text.digitValue? 16 d
    return (((a * 16 + b) * 16 + c) * 16 + d, rest)
  | _ => none

/-- The character of an escape with the digits of one unit, or of a pair of surrogates. A surrogate
without its partner is refused. -/
def unitChar? (cs : List Char) : Option (Char × List Char) := do
  let (high, rest) ← unit? cs
  if 0xD800 ≤ high ∧ high < 0xDC00 then
    match rest with
    | '\\' :: 'u' :: rest =>
      let (low, rest) ← unit? rest
      if 0xDC00 ≤ low ∧ low < 0xE000 then
        return (Char.ofNat (0x10000 + (high - 0xD800) * 0x400 + (low - 0xDC00)), rest)
      else none
    | _ => none
  else if 0xDC00 ≤ high ∧ high < 0xE000 then none
  else return (Char.ofNat high, rest)

/-- The character that an escape with one letter stands for. -/
def letterEscape? : Char → Option Char
  | '"' => some '"'
  | '\\' => some '\\'
  | '/' => some '/'
  | 'b' => some '\x08'
  | 'f' => some '\x0c'
  | 'n' => some '\n'
  | 'r' => some '\r'
  | 't' => some '\t'
  | _ => none

/-- The characters up to the closing quote, in reverse, and what follows the quote. -/
def textBody? : Nat → List Char → List Char → Option (List Char × List Char)
  | 0, _, _ => none
  | _ + 1, _, [] => none
  | _ + 1, read, '"' :: rest => some (read, rest)
  | fuel + 1, read, '\\' :: 'u' :: rest => do
    let (c, rest) ← unitChar? rest
    textBody? fuel (c :: read) rest
  | fuel + 1, read, '\\' :: c :: rest => do
    let c ← letterEscape? c
    textBody? fuel (c :: read) rest
  | fuel + 1, read, c :: rest =>
    if c.toNat < 32 ∨ c = '\\' then none else textBody? fuel (c :: read) rest

/-- The text whose opening quote has been read. -/
def text? (cs : List Char) : Option (String × List Char) := do
  let (read, rest) ← textBody? (cs.length + 1) [] cs
  return (String.ofList read.reverse, rest)

/-! ## Numbers -/

/-- A number as it is written: its sign, the digits before and after the point, and the exponent if
there is one. -/
structure Numeral where
  negative : Bool
  whole : List Char
  fraction : Option (List Char)
  exponent : Option Int

/-- One decimal digit or more, and what follows them. -/
def digits? (cs : List Char) : Option (List Char × List Char) :=
  match cs.span Char.isDigit with
  | ([], _) => none
  | (digits, rest) => some (digits, rest)

/-- The fraction of a number, if there is one: the digits after a point. -/
def fraction? : List Char → Option (Option (List Char) × List Char)
  | '.' :: rest => (digits? rest).map fun (digits, rest) => (some digits, rest)
  | rest => some (none, rest)

/-- The exponent of a number, if there is one. -/
def exponent? : List Char → Option (Option Int × List Char)
  | c :: rest =>
    if c = 'e' ∨ c = 'E' then
      match rest with
      | '+' :: rest => (digits? rest).map fun (digits, rest) => (some ↑(Text.ofDigits digits), rest)
      | '-' :: rest => (digits? rest).map fun (digits, rest) => (some (-Text.ofDigits digits), rest)
      | rest => (digits? rest).map fun (digits, rest) => (some ↑(Text.ofDigits digits), rest)
    else some (none, c :: rest)
  | [] => some (none, [])

/-- A number after its sign. A leading zero stands alone. -/
def numeral? (negative : Bool) (cs : List Char) : Option (Numeral × List Char) := do
  let (whole, rest) ← digits? cs
  if whole.head? = some '0' ∧ whole ≠ ['0'] then none
  let (fraction, rest) ← fraction? rest
  let (exponent, rest) ← exponent? rest
  return (⟨negative, whole, fraction, exponent⟩, rest)

namespace Numeral

/-- Takes up digits as long as the number has 64 bits, and gives those that are left. -/
def leading (n : Nat) : List Char → Nat × List Char
  | [] => (n, [])
  | c :: rest =>
    let next := n * 10 + (c.toNat - 48)
    if next < UInt64.size then leading next rest else (n, c :: rest)

/-- The double nearest to a power of ten; the power is at most 308. -/
def powerOfTen (power : Nat) : Double :=
  (Double.nearest? false (Nat.pow 10 power) 1).getD default

/-- A double times a power of ten. Small numbers are reached by steps of 308. -/
def scaled? : Nat → Double → Int → Option Double
  | 0, x, _ => some (Double.zero x.negative)
  | steps + 1, x, power =>
    if power.natAbs ≤ 308 then
      if 0 ≤ power then x.mul? (powerOfTen power.natAbs) else x.div? (powerOfTen power.natAbs)
    else if x.significand = 0 then some x
    else if 0 ≤ power then none
    else do scaled? steps (← x.div? (powerOfTen 308)) (power + 308)

/-- The double of whole digits and a power of ten: it is rounded once for the digits and once for
the power. Three steps make the largest number vanish. -/
def double? (negative : Bool) (digits : Nat) (power : Int) : Option Double := do
  scaled? 4 (← Double.nearest? negative digits 1) power

/-- The value of a number. Without fraction and exponent it is whole, if it has 64 bits; `-0` is a
double. A double takes up as many digits as fit into 64 bits; further ones count as zeros in front
of the point, and not at all behind it. -/
def value? (n : Numeral) : Option Json :=
  let (digits, dropped) := leading 0 n.whole
  match n.fraction, n.exponent with
  | none, none =>
    if dropped.isEmpty ∧ ¬n.negative then some (.int digits)
    else if dropped.isEmpty ∧ 0 < digits ∧ Int64.minValue.toInt ≤ -digits then some (.int (-digits))
    else (double? n.negative digits dropped.length).map .decimal
  | fraction, exponent =>
    let fraction := fraction.getD []
    let (digits, unused) := leading digits fraction
    let taken := fraction.length - unused.length
    (double? n.negative digits (exponent.getD 0 + dropped.length - taken)).map .decimal

end Numeral

end RoleDiscovery.Json
