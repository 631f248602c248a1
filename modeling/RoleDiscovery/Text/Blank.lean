/-!
# Blanks

The white space of the Unicode Character Database.

Results:

* `Text.isBlank`: whether a character is white space.
* `Text.trimmed`: a text without the blanks around it.
-/

namespace RoleDiscovery.Text

/-- Whether a character is white space. -/
def isBlank (c : Char) : Bool :=
  (9 ≤ c.toNat && c.toNat ≤ 13) || (0x2000 ≤ c.toNat && c.toNat ≤ 0x200A) ||
    [' ', '\u0085', '\u00a0', '\u1680', '\u2028', '\u2029', '\u202f', '\u205f', '\u3000'].elem c

/-- A text without the blanks around it. -/
def trimmed (cs : List Char) : List Char :=
  ((cs.dropWhile isBlank).reverse.dropWhile isBlank).reverse

end RoleDiscovery.Text
