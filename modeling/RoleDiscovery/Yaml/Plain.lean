import RoleDiscovery.Double.Basic

/-!
# What plain scalars spell

A scalar without quotes may spell null, a truth value or a number. These are the spellings; every
other plain scalar is a text.

Results:

* `isNull`, `bool?`, `int?`, `double?`, `infinity?`, `isNaN`: the spellings of each kind.
* `isText`: whether a plain scalar reads back as the text that it is.
-/

namespace RoleDiscovery.Yaml.Plain

/-- The spellings of null, besides the empty one. -/
def isNull (s : List Char) : Bool :=
  s = ['n', 'u', 'l', 'l'] || s = ['N', 'u', 'l', 'l'] || s = ['N', 'U', 'L', 'L'] || s = ['~']

/-- The spellings of the truth values. -/
def bool? (s : List Char) : Option Bool :=
  if s = "true".toList ∨ s = "True".toList ∨ s = "TRUE".toList then some true
  else if s = "false".toList ∨ s = "False".toList ∨ s = "FALSE".toList then some false
  else none

/-! ## Whole numbers -/

/-- The number that unsigned digits spell: decimal without needless zeros, or after a mark for base
16, 8 or 2. -/
def nat? : List Char → Option Nat
  | '0' :: 'x' :: rest => Text.natOfDigits? 16 rest
  | '0' :: 'o' :: rest => Text.natOfDigits? 8 rest
  | '0' :: 'b' :: rest => Text.natOfDigits? 2 rest
  | '0' :: _ :: _ => none
  | rest => Text.natOfDigits? 10 rest

/-- The whole number that a scalar spells. -/
def int? : List Char → Option Int
  | '+' :: rest => (nat? rest).map fun n => (n : Int)
  | '-' :: rest => (nat? rest).map fun n => -(n : Int)
  | rest => (nat? rest).map fun n => (n : Int)

/-! ## Other numbers -/

/-- The double that unsigned notation spells, given its sign. -/
def unsigned? (negative : Bool) (s : List Char) : Option Double :=
  (Scientific.parse? s).bind (Double.ofScientific? negative)

/-- The finite number that a scalar spells. -/
def double? : List Char → Option Double
  | '+' :: rest => unsigned? false rest
  | '-' :: rest => unsigned? true rest
  | rest => unsigned? false rest

/-- The spellings of infinity after its sign. -/
def isInfinity (s : List Char) : Bool :=
  s = ".inf".toList || s = ".Inf".toList || s = ".INF".toList

/-- The infinity that a scalar spells: whether it is the negative one. -/
def infinity? (s : List Char) : Option Bool :=
  match s with
  | '+' :: rest => if isInfinity rest then some false else none
  | '-' :: rest => if isInfinity rest then some true else none
  | rest => if isInfinity rest then some false else none

/-- The spellings of what is not a number. -/
def isNaN (s : List Char) : Bool :=
  s = ".nan".toList || s = ".NaN".toList || s = ".NAN".toList

/-- Whether a scalar spells a number that need not be whole. -/
def isFloat (s : List Char) : Bool :=
  (double? s).isSome || (infinity? s).isSome || isNaN s

/-! ## Texts -/

/-- Digits after a needless zero: they look like a number, but spell none. -/
def isZeroPadded (s : List Char) : Bool :=
  let digits := match s with
    | '+' :: rest => rest
    | '-' :: rest => rest
    | rest => rest
  match digits with
  | '0' :: c :: rest => (c :: rest).all Char.isDigit
  | _ => false

/-- Whether a whole number has 128 bits, as an unsigned number or as a signed one. -/
def fits128 (n : Int) : Bool :=
  -Nat.pow 2 127 ≤ n && n < Nat.pow 2 128

/-- Whether a plain scalar is a text and nothing that could be taken for another kind of value. -/
def isText (s : List Char) : Bool :=
  !(s.isEmpty || isNull s || (bool? s).isSome || (int? s).any fits128 || isZeroPadded s ||
    isFloat s)

end RoleDiscovery.Yaml.Plain
