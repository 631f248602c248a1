import RoleDiscovery.Resource.Meta

/-!
# ConfigMaps

Results:

* `ConfigMap`: the resource, with its codec.
* `ConfigMap.key`: the namespace and the name under which a store keeps it.
-/

namespace RoleDiscovery

open Codec Codec.Entry

/-- A ConfigMap: texts and binary values by key. -/
structure ConfigMap where
  metadata : ObjectMeta := {}
  data : Option (SortedMap String) := none
  binaryData : Option (SortedMap Base64) := none
  immutable : Option Bool := none
  deriving DecidableEq

namespace ConfigMap

/-- The fields of a ConfigMap apart from its version and kind. -/
def entry : Entry ConfigMap ConfigMap :=
  ConfigMap.mk
    <$> filled "metadata" ObjectMeta.codec {} metadata
    <*> optional "data" (map text) data
    <*> optional "binaryData" (map base64) binaryData
    <*> optional "immutable" bool immutable

/-- Whether every value under `name` is the text `expected`. -/
def states (name expected : String) (fields : List (String × Json)) : Bool :=
  (Json.occurrences name fields).all (· = .text expected)

/-- The codec of ConfigMaps. Version and kind may be left out when reading, but not differ. -/
def codec : Codec ConfigMap where
  shape := .record (("apiVersion", .text) :: ("kind", .text) :: entry.fields)
  encode configMap := .object
    (("apiVersion", .text "v1") :: ("kind", .text "ConfigMap") :: entry.write configMap)
  decode
    | .object fields =>
      if states "apiVersion" "v1" fields && states "kind" "ConfigMap" fields then
        entry.read fields
      else none
    | _ => none

/-- The key of a ConfigMap in a store: its namespace, or the empty text, and its name. -/
def key (configMap : ConfigMap) : String × String :=
  (configMap.metadata.ns.getD "", configMap.metadata.nameOrGenerated)

end ConfigMap

end RoleDiscovery
