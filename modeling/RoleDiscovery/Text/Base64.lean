/-!
# Base64 texts

Binary values travel as base64 text with padding. Only the one canonical spelling of each value is
accepted, so the text itself can stand for the bytes.

Results:

* `Base64`: a canonical base64 text.
* `Base64.ofString?`: the texts that are one.
-/

namespace RoleDiscovery

namespace Text

/-- The value of a base64 digit, below 64. -/
def base64Value? (c : Char) : Option Nat :=
  if 'A' ≤ c ∧ c ≤ 'Z' then some (c.toNat - 65)
  else if 'a' ≤ c ∧ c ≤ 'z' then some (c.toNat - 71)
  else if '0' ≤ c ∧ c ≤ '9' then some (c.toNat + 4)
  else if c = '+' then some 62
  else if c = '/' then some 63
  else none

/-- Whether a text is canonical base64: groups of four digits, the last one padded if need be, with
no bits set beyond the last byte. -/
def isBase64 : List Char → Bool
  | [] => true
  | [a, b, '=', '='] =>
    (base64Value? a).isSome && (base64Value? b).any fun n => n % 16 = 0
  | [a, b, c, '='] =>
    (base64Value? a).isSome && (base64Value? b).isSome && (base64Value? c).any fun n => n % 4 = 0
  | a :: b :: c :: d :: rest =>
    (base64Value? a).isSome && (base64Value? b).isSome && (base64Value? c).isSome &&
      (base64Value? d).isSome && isBase64 rest
  | _ => false

end Text

/-- A binary value, held as its canonical base64 text. -/
structure Base64 where
  /-- The text of the value. -/
  text : String
  /-- The text is canonical. -/
  canonical : Text.isBase64 text.toList = true
  deriving DecidableEq

namespace Base64

/-- The value without bytes. -/
def empty : Base64 :=
  ⟨"", rfl⟩

/-- The value that a text spells. -/
def ofString? (s : String) : Option Base64 :=
  if h : Text.isBase64 s.toList then some ⟨s, h⟩ else none

theorem ofString?_text (value : Base64) : ofString? value.text = some value := by
  simp [ofString?, value.canonical]

end Base64

end RoleDiscovery
