import RoleDiscovery.Discovery
import RoleDiscovery.Sidecar

/-!
# Injection into pod templates

Changes the pod template of a role so that its pods find the rest of the group, in three steps: the
discovery ConfigMap is brought up to date and mounted into every container, every container gets the
variables of the group, and the runtime profiles of the role are merged. Containers of profiles come
last, so they get neither the mount nor the variables.

Results:

* `injectConfig`, `injectEnvironment`, `injectSidecars`: the three steps.
* `inject`: all of them.
-/

namespace RoleDiscovery

/-- A failure to prepare the pod template of a role. -/
inductive InjectError where
  | reconcile (role : String) (cause : DiscoveryError)
  | profiles (role : String) (cause : SidecarError)
  deriving DecidableEq

namespace InjectError

/-- The message of a failure. -/
def message : InjectError → String
  | reconcile role _ =>
    "failed to reconcile the discovery ConfigMap of role " ++ Text.quoted role
  | profiles role _ => "failed to inject runtime profiles into role " ++ Text.quoted role

end InjectError

/-- The part of the engine that reports on injections. -/
def injectionTarget : String :=
  "rbg_discovery::injector"

/-! ## The discovery volume -/

/-- The name of the volume with the discovery ConfigMap. -/
def clusterConfigVolumeName : String :=
  "rbg-cluster-config"

/-- The directory of that volume in the containers. -/
def clusterConfigMountPath : String :=
  "/etc/rbg"

/-- The file that the containers read the topology from. -/
def clusterConfigFile : String :=
  clusterConfigMountPath ++ "/" ++ clusterConfigKey

/-- The volume with the topology out of the discovery ConfigMap of a role. -/
def clusterConfigVolume (group : RoleBasedGroup) (role : RoleSpec) : Volume where
  name := clusterConfigVolumeName
  configMap := some
    { name := group.workloadName role
      items := some [{ key := clusterConfigKey, path := clusterConfigKey }] }

/-- The place of that volume in a container. -/
def clusterConfigMount : VolumeMount where
  name := clusterConfigVolumeName
  mountPath := clusterConfigMountPath
  readOnly := some true

/-- The key of a mount: one volume may be mounted at several places. -/
def VolumeMount.key (mount : VolumeMount) : String × String :=
  (mount.name, mount.mountPath)

/-- A container with the discovery mount, unless it mounts that volume at that place already. -/
def Container.addMount (container : Container) (mount : VolumeMount) : Container :=
  { container with
    volumeMounts := some (Keyed.merge VolumeMount.key (container.volumeMounts.getD []) [mount]) }

/-- A pod with a volume, unless it has one of that name, and with its mount in every container. -/
def PodSpec.addVolume (spec : PodSpec) (volume : Volume) (mount : VolumeMount) : PodSpec :=
  { spec with
    volumes := some (Keyed.merge Volume.name (spec.volumes.getD []) [volume])
    containers := spec.containers.map (·.addMount mount) }

/-! ## The steps -/

/-- What came of a step: the template afterwards, also after a failure. -/
abbrev Injected := PodTemplate × Except InjectError Unit

/-- Reports what was done with the discovery ConfigMap. -/
def reconciledEvent (decision : Decision) : Event where
  level := .debug
  target := injectionTarget
  message := "reconciled discovery ConfigMap"
  fields := [("decision", .text decision.name)]

/-- What is being done while the discovery volume is brought into a template. -/
def injectConfigSpan (group : RoleBasedGroup) (role : RoleSpec) : Span where
  name := "inject_config"
  target := injectionTarget
  fields := [("rbg", group.name), ("role.name", role.name)]

/-- A template with the discovery volume of a role. -/
def PodTemplate.addClusterConfig (template : PodTemplate) (group : RoleBasedGroup)
    (role : RoleSpec) : PodTemplate :=
  { template with
    spec := some ((template.spec.getD {}).addVolume (clusterConfigVolume group role)
      clusterConfigMount) }

/-- Brings the discovery ConfigMap of a role up to date and mounts it. -/
def injectConfig (group : RoleBasedGroup) (role : RoleSpec) (template : PodTemplate) :
    Action Injected :=
  Action.inSpan (injectConfigSpan group role) do
    match ← reconcile group role (ClusterConfig.ofGroup group) with
    | .error cause => return (template, .error (.reconcile role.name cause))
    | .ok decision =>
      Action.report (reconciledEvent decision)
      return (template.addClusterConfig group role, .ok ())

/-- Gives the variables of the group to every container. -/
def injectEnvironment (group : RoleBasedGroup) (role : RoleSpec) (template : PodTemplate) :
    Action Injected :=
  return (template.injectEnv (environment group role), .ok ())

/-- Merges the runtime profiles of a role. -/
def injectSidecars (role : RoleSpec) (template : PodTemplate) : Action Injected := do
  let (template, result) ← injectProfiles role template
  return (template, result.mapError (InjectError.profiles role.name))

/-- All three steps, up to the first one that fails. -/
def inject (group : RoleBasedGroup) (role : RoleSpec) (template : PodTemplate) :
    Action Injected := do
  match ← injectConfig group role template with
  | (template, .error failure) => return (template, .error failure)
  | (template, .ok ()) =>
    match ← injectEnvironment group role template with
    | (template, .error failure) => return (template, .error failure)
    | (template, .ok ()) => injectSidecars role template

end RoleDiscovery
