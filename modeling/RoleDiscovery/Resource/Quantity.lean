import RoleDiscovery.Codec
import RoleDiscovery.Double.Shortest

/-!
# Quantities

An amount of a resource, such as memory: a number with a unit, as text. A number alone may be given
as such; it stands for its plain decimal text.

Results:

* `Quantity`: an amount, with its codec.
-/

namespace RoleDiscovery

/-- An amount of a resource. -/
structure Quantity where
  text : String
  deriving DecidableEq

/-- The codec of amounts, which are written as texts. -/
def Quantity.codec : Codec Quantity where
  shape := .amount
  encode quantity := .text quantity.text
  decode
    | .text value => some ⟨value⟩
    | .int value => some ⟨toString value⟩
    | .decimal value => some ⟨value.plain⟩
    | _ => none

end RoleDiscovery
