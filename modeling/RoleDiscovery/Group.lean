import RoleDiscovery.Resource.Meta
import RoleDiscovery.Resource.Pod

/-!
# Role-based groups

A group of workloads, its roles, that have to find each other at run time. Each role is backed by a
StatefulSet or a LeaderWorkerSet and may refer to runtime profiles, which contribute containers and
volumes to its pods.

Results:

* `RoleBasedGroup`: the custom resource, with its codec.
* `RoleBasedGroup.workloadName`: the name that the workload, the service and the discovery
  ConfigMap of a role share.

Metadata and environment variables are types of the Kubernetes interface. The resource is stated for
any such types, each with a codec of its own; `RoleBasedGroup` alone means those of this project.
-/

namespace RoleDiscovery

open Codec Codec.Entry

/-! ## Workloads -/

/-- The workload behind a role: replicas with stable names, or groups of a leader and its
workers. -/
inductive WorkloadKind where
  | statefulSet
  | leaderWorkerSet
  deriving DecidableEq

namespace WorkloadKind

/-- The name of a kind. -/
def tag : WorkloadKind → String
  | statefulSet => "StatefulSet"
  | leaderWorkerSet => "LeaderWorkerSet"

/-- The kind of a name. -/
def ofTag? (tag : String) : Option WorkloadKind :=
  if tag = "StatefulSet" then some statefulSet
  else if tag = "LeaderWorkerSet" then some leaderWorkerSet
  else none

/-- The codec of kinds. A kind may also be read from an object with its name as the only field. -/
def codec : Codec WorkloadKind where
  shape := .choice
  encode kind := .text kind.tag
  decode
    | .text tag => ofTag? tag
    | .object [(tag, .null)] => ofTag? tag
    | _ => none

end WorkloadKind

/-! ## Roles -/

/-- The workload of a role as declared. -/
structure WorkloadSpec where
  kind : Option WorkloadKind := none
  deriving DecidableEq

/-- The codec of declared workloads. -/
def WorkloadSpec.codec : Codec WorkloadSpec :=
  strict <| WorkloadSpec.mk <$> optional "kind" WorkloadKind.codec WorkloadSpec.kind

/-- The settings of a LeaderWorkerSet: the number of pods of a leader and its workers. -/
structure LeaderWorkerTemplate where
  size : Option Int32 := none
  deriving DecidableEq

/-- The codec of LeaderWorkerSet settings. -/
def LeaderWorkerTemplate.codec : Codec LeaderWorkerTemplate :=
  strict <| LeaderWorkerTemplate.mk <$> optional "size" int32 LeaderWorkerTemplate.size

section

variable {ε : Type}

/-- What a role changes in the container called `name` once a profile has put it into the pod. -/
structure ContainerOverride (ε : Type := EnvVar) where
  name : String
  args : List String := []
  env : List ε := []
  deriving DecidableEq

/-- The codec of overrides, given that of variables. -/
def ContainerOverride.codecOf (env : Codec ε) : Codec (ContainerOverride ε) :=
  strict <| ContainerOverride.mk
    <$> required "name" text ContainerOverride.name
    <*> nonempty "args" text ContainerOverride.args
    <*> nonempty "env" env ContainerOverride.env

/-- A reference to a runtime profile together with the overrides of the role. -/
structure EngineRuntime (ε : Type := EnvVar) where
  profileName : String
  containers : List (ContainerOverride ε) := []
  deriving DecidableEq

/-- The codec of profile references, given that of variables. -/
def EngineRuntime.codecOf (env : Codec ε) : Codec (EngineRuntime ε) :=
  strict <| EngineRuntime.mk
    <$> required "profileName" text EngineRuntime.profileName
    <*> nonempty "containers" (ContainerOverride.codecOf env) EngineRuntime.containers

/-- A role of a group. Without `replicas` it has one; with zero it has no addressable instance. -/
structure RoleSpec (ε : Type := EnvVar) where
  name : String
  replicas : Option Int32 := none
  workload : WorkloadSpec := {}
  leaderWorkerSet : LeaderWorkerTemplate := {}
  engineRuntimes : List (EngineRuntime ε) := []
  deriving DecidableEq

end

namespace RoleSpec

/-- The codec of roles, given that of variables. -/
def codecOf {ε : Type} (env : Codec ε) : Codec (RoleSpec ε) :=
  strict <| RoleSpec.mk
    <$> required "name" text name
    <*> optional "replicas" int32 replicas
    <*> defaulted "workload" WorkloadSpec.codec {} workload
    <*> defaulted "leaderWorkerSet" LeaderWorkerTemplate.codec {} leaderWorkerSet
    <*> nonempty "engineRuntimes" (EngineRuntime.codecOf env) engineRuntimes

/-- The codec of roles. -/
def codec : Codec RoleSpec :=
  codecOf EnvVar.codec

/-- The kind of workload of a role; a StatefulSet unless declared. -/
def workloadKind (role : RoleSpec) : WorkloadKind :=
  role.workload.kind.getD .statefulSet

/-- The number of replicas of a role; one unless declared. -/
def replicasOrDefault (role : RoleSpec) : Int32 :=
  role.replicas.getD 1

end RoleSpec

/-! ## Groups -/

/-- What a group consists of. -/
structure GroupSpec (ε : Type := EnvVar) where
  roles : List (RoleSpec ε) := []
  deriving DecidableEq

/-- The codec of group specifications, given that of variables. -/
def GroupSpec.codecOf {ε : Type} (env : Codec ε) : Codec (GroupSpec ε) :=
  strict <| GroupSpec.mk <$> defaulted "roles" (list (RoleSpec.codecOf env)) [] GroupSpec.roles

/-- The namespace of a group that does not carry one. -/
def defaultNamespace : String :=
  "default"

/-- The interface that the custom resources belong to. -/
def customApi : String :=
  "workloads.x-k8s.io"

/-- The version of that interface. -/
def customVersion : String :=
  "v1alpha1"

/-- The interface and its version, as they are written in a resource. -/
def customApiVersion : String :=
  customApi ++ "/" ++ customVersion

/-- The codec of a custom resource: version and kind are written, but ignored when reading. -/
def Codec.custom {α : Type} (kind : String) (entry : Entry α α) : Codec α where
  shape := (strict entry).shape
  encode a := .object
    (("apiVersion", .text customApiVersion) :: ("kind", .text kind) :: entry.write a)
  decode := (strict entry).decode

/-- The custom resource that declares a group. -/
structure RoleBasedGroup (μ : Type := ObjectMeta) (ε : Type := EnvVar) where
  metadata : μ
  spec : GroupSpec ε
  deriving DecidableEq

namespace RoleBasedGroup

/-- The kind of the resource. -/
def kind : String :=
  "RoleBasedGroup"

/-- The codec of groups, given those of metadata and variables. -/
def codecOf {μ ε : Type} (metadata : Codec μ) (env : Codec ε) : Codec (RoleBasedGroup μ ε) :=
  custom kind <| RoleBasedGroup.mk
    <$> required "metadata" metadata RoleBasedGroup.metadata
    <*> required "spec" (GroupSpec.codecOf env) spec

/-- The codec of groups. -/
def codec : Codec RoleBasedGroup :=
  codecOf ObjectMeta.codec EnvVar.codec

/-- The name that the group goes by. -/
def name (group : RoleBasedGroup) : String :=
  group.metadata.nameOrGenerated

/-- The namespace of a group. None and the empty text both mean the default namespace. -/
def namespaceOrDefault (group : RoleBasedGroup) : String :=
  match group.metadata.ns with
  | some ns => if ns.isEmpty then defaultNamespace else ns
  | none => defaultNamespace

/-- The name of the workload, the headless service and the discovery ConfigMap of a role: those of
the group and the role, joined by a hyphen. -/
def workloadName (group : RoleBasedGroup) (role : RoleSpec) : String :=
  group.name ++ "-" ++ role.name

/-- The first role of that name. -/
def role? (group : RoleBasedGroup) (name : String) : Option RoleSpec :=
  group.spec.roles.find? fun role => role.name = name

end RoleBasedGroup

end RoleDiscovery
