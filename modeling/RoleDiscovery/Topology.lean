import RoleDiscovery.Group

/-!
# The topology of a group

What the pods of a group are told about each other: the group, and its roles sorted by name. It
depends on the declared group alone, never on what was stored before.

Results:

* `ClusterConfig`: the topology, with its codec.
* `ClusterConfig.ofGroup`: the topology of a group.
-/

namespace RoleDiscovery

open Codec Codec.Entry

/-- The group as its pods see it; role names stand in declaration order. -/
structure GroupInfo where
  name : String
  ns : String
  roleNames : List String
  deriving DecidableEq

/-- The codec of group entries. -/
def GroupInfo.codec : Codec GroupInfo :=
  strict <| GroupInfo.mk
    <$> required "name" text GroupInfo.name
    <*> required "namespace" text GroupInfo.ns
    <*> defaulted "roleNames" (list text) [] GroupInfo.roleNames

/-- A role as the pods of the group see it. `startIndex` is the ordinal of the first addressable
instance, -1 if there is none. -/
structure RoleInfo where
  name : String
  kind : WorkloadKind
  service : Option String
  serviceTemplate : Option String
  replicas : Int32
  lwsWorkers : Option Int32
  startIndex : Int32
  deriving DecidableEq

/-- The codec of role entries. -/
def RoleInfo.codec : Codec RoleInfo :=
  strict <| RoleInfo.mk
    <$> required "name" text RoleInfo.name
    <*> required "type" WorkloadKind.codec RoleInfo.kind
    <*> optional "service" text RoleInfo.service
    <*> optional "serviceTemplate" text RoleInfo.serviceTemplate
    <*> required "replicas" int32 RoleInfo.replicas
    <*> optional "lwsWorkers" int32 RoleInfo.lwsWorkers
    <*> required "startIndex" int32 RoleInfo.startIndex

/-- The topology of a group. -/
structure ClusterConfig where
  group : GroupInfo
  roles : List RoleInfo
  deriving DecidableEq

/-- The entry of a role. Both kinds of workload are fronted by a service of the workload's name; the
group size counts for LeaderWorkerSets only. -/
def RoleInfo.ofRole (group : RoleBasedGroup) (role : RoleSpec) : RoleInfo where
  name := role.name
  kind := role.workloadKind
  service := some (group.workloadName role)
  serviceTemplate := none
  replicas := role.replicasOrDefault
  lwsWorkers := match role.workloadKind with
    | .statefulSet => none
    | .leaderWorkerSet => role.leaderWorkerSet.size
  startIndex := if role.replicasOrDefault = 0 then -1 else 0

namespace ClusterConfig

/-- The codec of topologies. -/
def codec : Codec ClusterConfig :=
  strict <| ClusterConfig.mk
    <$> required "group" GroupInfo.codec group
    <*> defaulted "roles" (list RoleInfo.codec) [] roles

/-- The topology of a group. Sorting is stable: roles of one name keep their order. -/
def ofGroup (group : RoleBasedGroup) : ClusterConfig where
  group :=
    { name := group.name
      ns := group.namespaceOrDefault
      roleNames := group.spec.roles.map RoleSpec.name }
  roles := (group.spec.roles.map (RoleInfo.ofRole group)).mergeSort fun a b => a.name ≤ b.name

end ClusterConfig

end RoleDiscovery
