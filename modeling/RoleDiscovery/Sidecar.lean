import RoleDiscovery.Action
import RoleDiscovery.Environment
import RoleDiscovery.Keyed

/-!
# Runtime profiles in pods

Merges the profiles that a role refers to into its pod template. Everything is merged by name, and
what the template has already wins over the profile. After each profile the overrides that the role
declares with it are applied.

Results:

* `PodSpec.addProfile`: a pod with what a profile contributes.
* `overrideContainer`: a list of containers with an override applied.
* `injectProfiles`: the profiles of a role, one after the other.
-/

namespace RoleDiscovery

/-- A failure to bring the profiles of a role into a pod. -/
inductive SidecarError where
  | getProfile (name : String) (cause : ClientError)
  | profileNotFound (name role : String)
  deriving DecidableEq

namespace SidecarError

/-- The message of a failure. -/
def message : SidecarError → String
  | getProfile name _ => "failed to get ClusterEngineRuntimeProfile " ++ Text.quoted name
  | profileNotFound name role =>
    "ClusterEngineRuntimeProfile " ++ Text.quoted name ++ " referenced by role " ++
      Text.quoted role ++ " not found"

/-- The failure of the client behind a failure. -/
def cause? : SidecarError → Option ClientError
  | getProfile _ cause => some cause
  | profileNotFound _ _ => none

end SidecarError

/-- The part of the engine that reports on profiles. -/
def sidecarTarget : String :=
  "rbg_discovery::sidecar"

/-! ## Merging -/

/-- Merges additions into a list by name. A list stays as it is if there is nothing to add. -/
def mergeNamed {α : Type} (name : α → String) (existing additions : List α) : List α :=
  if additions.isEmpty then existing else Keyed.merge name existing additions

/-- Merges additions into a list that may be unset, and stays so if there is nothing to add. -/
def mergeOptional {α : Type} (name : α → String) (existing : Option (List α))
    (additions : List α) : Option (List α) :=
  if additions.isEmpty then existing
  else some (Keyed.merge name (existing.getD []) additions)

/-- A pod with what a profile contributes. -/
def PodSpec.addProfile (spec : PodSpec) (profile : ProfileSpec) : PodSpec :=
  { spec with
    initContainers := mergeOptional Container.name spec.initContainers profile.initContainers
    containers := mergeNamed Container.name spec.containers profile.containers
    volumes := mergeOptional Volume.name spec.volumes profile.volumes }

/-! ## Overrides -/

/-- A container with the arguments and variables of an override, as far as it has any. -/
def Container.override (container : Container) (change : ContainerOverride) : Container :=
  let container :=
    if change.args.isEmpty then container else { container with args := some change.args }
  if change.env.isEmpty then container else container.mergeEnv change.env

/-- The containers with an override applied to the first one of its name; `none` if there is no such
container. -/
def overrideContainer? (change : ContainerOverride) : List Container → Option (List Container)
  | [] => none
  | container :: rest =>
    if container.name = change.name then some (container.override change :: rest)
    else (overrideContainer? change rest).map (container :: ·)

/-- The containers with an override applied, as far as there is one to apply it to. -/
def overrideContainer (containers : List Container) (change : ContainerOverride) :
    List Container :=
  (overrideContainer? change containers).getD containers

/-- Reports that an override has no container to apply it to. -/
def noContainerEvent (name : String) : Event where
  level := .debug
  target := sidecarTarget
  message := "no container to apply the override to"
  fields := [("container.name", .text name)]

/-- Reports that a profile has been merged into a pod. -/
def injectedEvent (name : String) : Event where
  level := .debug
  target := sidecarTarget
  message := "injected runtime profile"
  fields := [("profile.name", .text name)]

/-- Applies overrides one after the other and reports those that find no container. -/
def applyOverrides : List ContainerOverride → List Container → Action (List Container)
  | [], containers => return containers
  | change :: rest, containers => do
    if (overrideContainer? change containers).isNone then
      Action.report (noContainerEvent change.name)
    applyOverrides rest (overrideContainer containers change)

/-! ## Profiles of a role -/

/-- Brings the profiles of some references into a pod template, up to the first one that cannot be
had. What was merged before that stays merged. -/
def injectReferences (role : String) :
    List EngineRuntime → PodTemplate → Action (PodTemplate × Except SidecarError Unit)
  | [], template => return (template, .ok ())
  | reference :: rest, template => do
    match ← Action.getProfile reference.profileName with
    | .error cause => return (template, .error (.getProfile reference.profileName cause))
    | .ok none => return (template, .error (.profileNotFound reference.profileName role))
    | .ok (some profile) =>
      let spec := (template.spec.getD {}).addProfile profile.spec
      let containers ← applyOverrides reference.containers spec.containers
      Action.report (injectedEvent reference.profileName)
      injectReferences role rest { template with spec := some { spec with containers } }

/-- What is being done while the profiles of a role are merged. -/
def sidecarSpan (role : RoleSpec) : Span where
  name := "inject_sidecars"
  target := sidecarTarget
  fields := [("role.name", role.name)]

/-- Brings the profiles that a role refers to into a pod template, in the order of the references.
Without a reference the template stays as it is. -/
def injectProfiles (role : RoleSpec) (template : PodTemplate) :
    Action (PodTemplate × Except SidecarError Unit) :=
  Action.inSpan (sidecarSpan role) (injectReferences role.name role.engineRuntimes template)

end RoleDiscovery
