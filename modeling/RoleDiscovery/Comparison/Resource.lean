import RoleDiscovery.Comparison.Basic
import RoleDiscovery.Resource.ConfigMap
import RoleDiscovery.Topology

/-!
# Comparison of topologies and ConfigMaps

Two ConfigMaps are compared by what their authors wrote: what the API server and the platform keep
in the metadata is left out, and the order of owner references does not count.

Results:

* `ClusterConfig.compare`: the comparison of two topologies; order matters.
* `ConfigMap.compare`: the comparison of two ConfigMaps.
* `withoutPlatformAnnotations`: the annotations that are not maintained by the platform.
-/

namespace RoleDiscovery

/-! ## Topologies -/

/-- Compares two topologies. The order of roles is part of a topology. -/
def ClusterConfig.compare (old new : Option ClusterConfig) : Comparison :=
  Comparison.ofOptions (fun old new => (codec.encode old).differences (codec.encode new)) old new

/-! ## Annotations -/

/-- The domains of the annotations that the platform writes. -/
def platformDomains : List String :=
  ["kubernetes.io", "k8s.io"]

/-- Whether an annotation belongs to the platform: what stands before the first slash of its key is
one of the domains or ends with a dot and one of them. -/
def isPlatformKey (key : String) : Bool :=
  match key.toList.span (· ≠ '/') with
  | (_, []) => false
  | (owner, _ :: _) => platformDomains.any fun domain =>
    owner = domain.toList || ('.' :: domain.toList).isSuffixOf owner

/-- The annotations that are not maintained by the platform. -/
def withoutPlatformAnnotations (annotations : SortedMap String) : SortedMap String :=
  annotations.filter fun key => !isPlatformKey key

/-! ## ConfigMaps -/

namespace ConfigMap

/-- A ConfigMap without what the API server and the platform keep in its metadata. -/
def withoutServerFields (configMap : ConfigMap) : ConfigMap :=
  { configMap with
    metadata :=
      { configMap.metadata with
        resourceVersion := none
        uid := none
        creationTimestamp := none
        generation := none
        managedFields := none
        selfLink := none
        annotations := configMap.metadata.annotations.map withoutPlatformAnnotations } }

/-- A ConfigMap without its owner references. -/
def withoutOwners (configMap : ConfigMap) : ConfigMap :=
  { configMap with metadata := { configMap.metadata with ownerReferences := none } }

/-- The owner references of a ConfigMap sorted by uid; those of one uid keep their order. -/
def sortedOwners (configMap : ConfigMap) : List OwnerReference :=
  (configMap.metadata.ownerReferences.getD []).mergeSort fun a b => a.uid ≤ b.uid

/-- The owner references of a ConfigMap, sorted, as a value. -/
def ownersValue (configMap : ConfigMap) : Json :=
  (Codec.list OwnerReference.codec).encode configMap.sortedOwners

/-- Compares two ConfigMaps: first their owner references, then everything else that is not kept by
the server. -/
def compare (old new : Option ConfigMap) : Comparison :=
  Comparison.ofOptions (fun old new =>
    Json.differencesAt [.field "metadata", .field "ownerReferences"]
        old.ownersValue new.ownersValue ++
      (codec.encode old.withoutServerFields.withoutOwners).differences
        (codec.encode new.withoutServerFields.withoutOwners)) old new

end ConfigMap

end RoleDiscovery
