import RoleDiscovery.Group

/-!
# Runtime profiles

A reusable set of init containers, sidecar containers and volumes which roles pull into their pods
by name.

Results:

* `RuntimeProfile`: the custom resource, with its codec.

As with groups, metadata, containers and volumes may be of any types with codecs; `RuntimeProfile`
alone means those of this project.
-/

namespace RoleDiscovery

open Codec Codec.Entry

/-- What a profile contributes to a pod. -/
structure ProfileSpec (κ : Type := Container) (ν : Type := Volume) where
  initContainers : List κ := []
  containers : List κ := []
  volumes : List ν := []
  deriving DecidableEq

/-- The codec of profile specifications, given those of containers and volumes. -/
def ProfileSpec.codecOf {κ ν : Type} (container : Codec κ) (volume : Codec ν) :
    Codec (ProfileSpec κ ν) :=
  strict <| ProfileSpec.mk
    <$> defaulted "initContainers" (list container) [] ProfileSpec.initContainers
    <*> defaulted "containers" (list container) [] ProfileSpec.containers
    <*> defaulted "volumes" (list volume) [] ProfileSpec.volumes

/-- The custom resource that declares a profile. -/
structure RuntimeProfile (μ : Type := ObjectMeta) (κ : Type := Container) (ν : Type := Volume) where
  metadata : μ
  spec : ProfileSpec κ ν
  deriving DecidableEq

namespace RuntimeProfile

/-- The kind of the resource. -/
def kind : String :=
  "ClusterEngineRuntimeProfile"

/-- The codec of profiles, given those of metadata, containers and volumes. -/
def codecOf {μ κ ν : Type} (metadata : Codec μ) (container : Codec κ) (volume : Codec ν) :
    Codec (RuntimeProfile μ κ ν) :=
  custom kind <| RuntimeProfile.mk
    <$> required "metadata" metadata RuntimeProfile.metadata
    <*> required "spec" (ProfileSpec.codecOf container volume) spec

/-- The codec of profiles. -/
def codec : Codec RuntimeProfile :=
  codecOf ObjectMeta.codec Container.codec Volume.codec

/-- The name that the profile goes by. -/
def name (profile : RuntimeProfile) : String :=
  profile.metadata.nameOrGenerated

end RuntimeProfile

end RoleDiscovery
