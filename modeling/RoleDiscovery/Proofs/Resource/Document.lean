import RoleDiscovery.Profile
import RoleDiscovery.Proofs.Codec

/-!
# The documents of the custom resources

A group or a profile is written as a record of its fields. What is not set is left out, and so are
empty lists of references, overrides, arguments and variables; the lists of roles, containers and
volumes are always there.

Results:

* `RoleBasedGroup.document`, `RuntimeProfile.document`: what is written, field by field.
* `RoleBasedGroup.encode_codecOf`, `RuntimeProfile.encode_codecOf`: the codecs write just this.
-/

namespace RoleDiscovery

/-! ## Documents -/

/-- A list that is not empty. -/
def Json.unlessEmpty (items : List Json) : Option Json :=
  if items.isEmpty then none else some (.array items)

section

variable {μ ε κ ν : Type}

/-- What is written for an override. -/
def ContainerOverride.document (env : Codec ε) (override : ContainerOverride ε) : Json :=
  .record
    [("name", some (.text override.name)),
      ("args", Json.unlessEmpty (override.args.map .text)),
      ("env", Json.unlessEmpty (override.env.map env.encode))]

/-- What is written for a reference to a profile. -/
def EngineRuntime.document (env : Codec ε) (reference : EngineRuntime ε) : Json :=
  .record
    [("profileName", some (.text reference.profileName)),
      ("containers", Json.unlessEmpty (reference.containers.map (·.document env)))]

/-- What is written for a role. -/
def RoleSpec.document (env : Codec ε) (role : RoleSpec ε) : Json :=
  .record
    [("name", some (.text role.name)),
      ("replicas", role.replicas.map fun n => .int n.toInt),
      ("workload", some (.record [("kind", role.workload.kind.map fun kind => .text kind.tag)])),
      ("leaderWorkerSet",
        some (.record [("size", role.leaderWorkerSet.size.map fun n => .int n.toInt)])),
      ("engineRuntimes", Json.unlessEmpty (role.engineRuntimes.map (·.document env)))]

/-- What is written for a group. -/
def RoleBasedGroup.document (metadata : Codec μ) (env : Codec ε) (group : RoleBasedGroup μ ε) :
    Json :=
  .record
    [("apiVersion", some (.text "workloads.x-k8s.io/v1alpha1")),
      ("kind", some (.text "RoleBasedGroup")),
      ("metadata", some (metadata.encode group.metadata)),
      ("spec", some (.record
        [("roles", some (.array (group.spec.roles.map (·.document env))))]))]

/-- What is written for a profile. -/
def RuntimeProfile.document (metadata : Codec μ) (container : Codec κ) (volume : Codec ν)
    (profile : RuntimeProfile μ κ ν) : Json :=
  .record
    [("apiVersion", some (.text "workloads.x-k8s.io/v1alpha1")),
      ("kind", some (.text "ClusterEngineRuntimeProfile")),
      ("metadata", some (metadata.encode profile.metadata)),
      ("spec", some (.record
        [("initContainers", some (.array (profile.spec.initContainers.map container.encode))),
          ("containers", some (.array (profile.spec.containers.map container.encode))),
          ("volumes", some (.array (profile.spec.volumes.map volume.encode)))]))]

end

/-! ## What is written -/

namespace Codec.Entry

variable {α β σ : Type} {item : Codec α}

/-- The fields that have a value. -/
def present (rows : List (String × Option Json)) : List (String × Json) :=
  rows.filterMap fun (name, value?) => value?.map (name, ·)

theorem write_map (f : α → β) (x : Entry σ α) (s : σ) : (f <$> x).write s = x.write s := rfl

theorem write_seq (f : Entry σ (α → β)) (x : Entry σ α) (s : σ) :
    (f <*> x).write s = f.write s ++ x.write s := rfl

theorem write_required (name : String) (get : σ → α) (s : σ) :
    (required name item get).write s = present [(name, some (item.encode (get s)))] := rfl

theorem write_defaulted (name : String) (default : α) (get : σ → α) (s : σ) :
    (defaulted name item default get).write s = present [(name, some (item.encode (get s)))] := rfl

theorem write_optional (name : String) (get : σ → Option α) (s : σ) :
    (optional name item get).write s = present [(name, (get s).map item.encode)] := by
  show ((get s).toList.map fun a => (name, item.encode a)) = _
  cases get s <;> rfl

theorem write_nonempty (name : String) (get : σ → List α) (s : σ) :
    (nonempty name item get).write s =
      present [(name, Json.unlessEmpty ((get s).map item.encode))] := by
  show (if (get s).isEmpty then [] else [(name, (list item).encode (get s))]) = _
  cases get s <;> rfl

theorem present_append (x y : List (String × Option Json)) :
    present x ++ present y = present (x ++ y) :=
  List.filterMap_append.symm

end Codec.Entry

section

open Codec Codec.Entry

variable {μ ε κ ν : Type} (metadata : Codec μ) (env : Codec ε)

theorem Codec.encode_strict {α : Type} (entry : Entry α α) (a : α) :
    (strict entry).encode a = .object (entry.write a) := rfl

theorem WorkloadSpec.encode_codec :
    WorkloadSpec.codec.encode = fun workload =>
      .record [("kind", workload.kind.map fun kind => .text kind.tag)] := by
  funext workload
  rw [codec, encode_strict, write_map, write_optional]
  rfl

theorem LeaderWorkerTemplate.encode_codec :
    LeaderWorkerTemplate.codec.encode = fun template =>
      .record [("size", template.size.map fun n => .int n.toInt)] := by
  funext template
  rw [codec, encode_strict, write_map, write_optional]
  rfl

theorem ContainerOverride.encode_codecOf : (codecOf env).encode = document env := by
  funext override
  rw [codecOf, encode_strict]
  simp only [write_seq, write_map, write_required, write_nonempty, present_append]
  rfl

theorem EngineRuntime.encode_codecOf : (codecOf env).encode = document env := by
  funext reference
  rw [codecOf, encode_strict]
  simp only [write_seq, write_map, write_required, write_nonempty, present_append,
    ContainerOverride.encode_codecOf]
  rfl

theorem RoleSpec.encode_codecOf : (codecOf env).encode = document env := by
  funext role
  rw [codecOf, encode_strict]
  simp only [write_seq, write_map, write_required, write_optional, write_defaulted, write_nonempty,
    present_append, WorkloadSpec.encode_codec, LeaderWorkerTemplate.encode_codec,
    EngineRuntime.encode_codecOf]
  rfl

theorem GroupSpec.encode_codecOf : (codecOf env).encode = fun spec =>
    .record [("roles", some (.array (spec.roles.map (RoleSpec.document env))))] := by
  funext spec
  rw [codecOf, encode_strict]
  simp only [write_map, write_defaulted, list, RoleSpec.encode_codecOf]
  rfl

theorem RoleBasedGroup.encode_codecOf :
    (codecOf metadata env).encode = document metadata env := by
  funext group
  show Json.object (_ :: _ :: Entry.write _ group) = _
  simp only [write_seq, write_map, write_required, present_append, GroupSpec.encode_codecOf]
  rfl

variable (container : Codec κ) (volume : Codec ν)

theorem ProfileSpec.encode_codecOf : (codecOf container volume).encode = fun spec =>
    .record
      [("initContainers", some (.array (spec.initContainers.map container.encode))),
        ("containers", some (.array (spec.containers.map container.encode))),
        ("volumes", some (.array (spec.volumes.map volume.encode)))] := by
  funext spec
  rw [codecOf, encode_strict]
  simp only [write_seq, write_map, write_defaulted, present_append]
  rfl

theorem RuntimeProfile.encode_codecOf :
    (codecOf metadata container volume).encode = document metadata container volume := by
  funext profile
  show Json.object (_ :: _ :: Entry.write _ profile) = _
  simp only [write_seq, write_map, write_required, present_append, ProfileSpec.encode_codecOf]
  rfl

end

end RoleDiscovery
