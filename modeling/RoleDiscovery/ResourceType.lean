import RoleDiscovery.Profile
import RoleDiscovery.Resource.ConfigMap

/-!
# Types of resources

Where the API server keeps the objects of a type.

Results:

* `ResourceType`: a type of resources; there are three that the engine works with.
* `ResourceType.path`: the path of an object.
-/

namespace RoleDiscovery

/-- A type of resources: its kind, the root of its interface, its name in paths, whether its objects
are kept by namespace, and the form of its objects. -/
structure ResourceType (α : Type) where
  kind : String
  root : String
  plural : String
  namespaced : Bool
  codec : Codec α
  metadata : α → ObjectMeta

namespace ResourceType

/-- ConfigMaps. -/
def configMap : ResourceType ConfigMap where
  kind := "ConfigMap"
  root := "/api/v1"
  plural := "configmaps"
  namespaced := true
  codec := ConfigMap.codec
  metadata := ConfigMap.metadata

/-- The root of the interface of the custom resources. -/
def customRoot : String :=
  "/apis/" ++ customApiVersion

/-- Groups. -/
def group : ResourceType RoleBasedGroup where
  kind := RoleBasedGroup.kind
  root := customRoot
  plural := "rolebasedgroups"
  namespaced := true
  codec := RoleBasedGroup.codec
  metadata := RoleBasedGroup.metadata

/-- Runtime profiles, which are not kept by namespace. -/
def profile : ResourceType RuntimeProfile where
  kind := RuntimeProfile.kind
  root := customRoot
  plural := "clusterengineruntimeprofiles"
  namespaced := false
  codec := RuntimeProfile.codec
  metadata := RuntimeProfile.metadata

/-- The path of an object. -/
def path {α : Type} (type : ResourceType α) (ns name : String) : String :=
  let space := if type.namespaced then "/namespaces/" ++ ns else ""
  type.root ++ space ++ "/" ++ type.plural ++ "/" ++ name

end ResourceType

end RoleDiscovery
