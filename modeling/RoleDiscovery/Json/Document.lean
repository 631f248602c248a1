import RoleDiscovery.Codec
import RoleDiscovery.Json.Parser

/-!
# JSON texts of a type

Results:

* `Codec.ofJson?`: the value that a text spells.
-/

namespace RoleDiscovery.Codec

variable {α : Type}

/-- The value that a text spells. -/
def ofJson? (codec : Codec α) (text : String) : Option α :=
  (Json.parseAs? codec.shape text).bind codec.decode

end RoleDiscovery.Codec
