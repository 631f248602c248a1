import RoleDiscovery.Codec
import RoleDiscovery.Yaml.Printer
import RoleDiscovery.Yaml.Reader

/-!
# Documents of a type

Results:

* `Codec.toYaml`: the document of a value.
* `Codec.ofYaml?`: the value of a document.
-/

namespace RoleDiscovery.Codec

variable {α : Type}

/-- The document of a value. -/
def toYaml (codec : Codec α) (a : α) : String :=
  Yaml.print (codec.encode a)

/-- The value that a document holds. -/
def ofYaml? (codec : Codec α) (text : String) : Option α :=
  (Yaml.parse? codec.shape text).bind codec.decode

end RoleDiscovery.Codec
