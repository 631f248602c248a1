import RoleDiscovery.Action
import RoleDiscovery.Comparison.Resource
import RoleDiscovery.Topology.Payload

/-!
# Discovery ConfigMaps

Keeps the discovery ConfigMap of a role in step with the topology of its group. It is only written
if what it holds differs from the topology that is due, so that repeated reconciles do not cause
repeated writes.

Reading, comparing and writing are separate steps. Of two concurrent reconciles of one role the last
write wins.

Results:

* `ConfigMap.config?`: the topology that a ConfigMap holds.
* `decide`: what has to be done with a ConfigMap.
* `reconcile`: does it.
-/

namespace RoleDiscovery

/-- The key of the topology in a discovery ConfigMap, and the name of its file in the pods. -/
def clusterConfigKey : String :=
  "config.yaml"

/-- What was or would be done with a ConfigMap. -/
inductive Decision where
  | create
  | update
  | unchanged
  deriving DecidableEq

/-- The name of a decision. -/
def Decision.name : Decision → String
  | create => "Create"
  | update => "Update"
  | unchanged => "Unchanged"

/-- A failure to keep a discovery ConfigMap in step. -/
inductive DiscoveryError where
  | getConfigMap (name ns : String) (cause : ClientError)
  | applyConfigMap (name ns : String) (cause : ClientError)
  | missingOwnerUid (group : String)
  deriving DecidableEq

namespace DiscoveryError

/-- The message of a failure. -/
def message : DiscoveryError → String
  | getConfigMap name ns _ =>
    "failed to get discovery ConfigMap " ++ Text.quoted name ++ " in namespace " ++ Text.quoted ns
  | applyConfigMap name ns _ =>
    "failed to apply discovery ConfigMap " ++ Text.quoted name ++ " in namespace " ++
      Text.quoted ns
  | missingOwnerUid group =>
    "RoleBasedGroup " ++ Text.quoted group ++
      " has no uid, cannot bind the discovery ConfigMap to it"

/-- The failure of the client behind a failure. -/
def cause? : DiscoveryError → Option ClientError
  | getConfigMap _ _ cause => some cause
  | applyConfigMap _ _ cause => some cause
  | missingOwnerUid _ => none

end DiscoveryError

/-- The part of the engine that reports on discovery ConfigMaps. -/
def discoveryTarget : String :=
  "rbg_discovery::discovery"

/-! ## What is stored -/

/-- The document in a ConfigMap; an empty one counts as none. -/
def ConfigMap.document? (configMap : ConfigMap) : Option String := do
  let document ← (← configMap.data).find? clusterConfigKey
  if document.isEmpty then none else some document

/-- The topology that a ConfigMap holds, if its document spells one. -/
def ConfigMap.config? (configMap : ConfigMap) : Option ClusterConfig :=
  configMap.document?.bind ClusterConfig.ofYaml?

/-- Reports that a ConfigMap holds a document that spells no topology. -/
def undecodableEvent (configMap : ConfigMap) : Event where
  level := .warn
  target := discoveryTarget
  message := "failed to decode stored cluster config, treating it as absent"
  fields :=
    [ ("config_map.name", .text configMap.metadata.nameOrGenerated),
      ("error", .failure ClusterConfig.undecodable) ]

/-- The topology that a ConfigMap holds. A document that spells none is reported and counts as
absent: a broken ConfigMap must not stand in the way. -/
def storedConfig (configMap : ConfigMap) : Action (Option ClusterConfig) := do
  match configMap.document?, configMap.config? with
  | some _, none => Action.report (undecodableEvent configMap)
  | _, _ => pure ()
  return configMap.config?

/-! ## What is due -/

/-- The reference that makes a group the controller of an object and keeps it from being deleted
before the object. A group without a name or a uid cannot own anything. -/
def controllerReference (group : RoleBasedGroup) : Except DiscoveryError OwnerReference :=
  match group.metadata.name, group.metadata.uid with
  | some name, some uid =>
    .ok
      { apiVersion := customApiVersion
        kind := RoleBasedGroup.kind
        name := name
        uid := uid
        controller := some true
        blockOwnerDeletion := some true }
  | _, _ => .error (.missingOwnerUid group.name)

/-- The discovery ConfigMap of a role, owned by its group. -/
def discoveryConfigMap (group : RoleBasedGroup) (role : RoleSpec) (config : ClusterConfig) :
    Except DiscoveryError ConfigMap := do
  let owner ← controllerReference group
  return {
    metadata :=
      { name := some (group.workloadName role)
        ns := some group.namespaceOrDefault
        ownerReferences := some [owner] }
    data := some (SortedMap.singleton clusterConfigKey config.toYaml) }

/-! ## Reconciling -/

/-- Reports that a ConfigMap holds another topology than is due. -/
def changedEvent (name : String) (comparison : Comparison) : Event where
  level := .info
  target := discoveryTarget
  message := "cluster config changed"
  fields := [("config_map.name", .text name), ("diff", .text comparison.report)]

/-- Reports that a ConfigMap need not be written. -/
def upToDateEvent (name : String) : Event where
  level := .debug
  target := discoveryTarget
  message := "discovery ConfigMap is up to date, skipping apply"
  fields := [("config_map.name", .text name)]

/-- Reports that a ConfigMap has been written. -/
def appliedEvent (name : String) (decision : Decision) : Event where
  level := .info
  target := discoveryTarget
  message := "applied discovery ConfigMap"
  fields := [("config_map.name", .text name), ("decision", .text decision.name)]

/-- What has to be done so that a ConfigMap holds the desired topology. -/
def decide (name ns : String) (desired : ClusterConfig) :
    Action (Except DiscoveryError Decision) := do
  match ← Action.getConfigMap ns name with
  | .error cause => return .error (.getConfigMap name ns cause)
  | .ok none => return .ok .create
  | .ok (some current) =>
    let stored ← storedConfig current
    let comparison := ClusterConfig.compare stored (some desired)
    if comparison.isEqual then return .ok .unchanged
    else
      Action.report (changedEvent name comparison)
      return .ok .update

/-- Writes the discovery ConfigMap of a role. -/
def applyDiscovery (group : RoleBasedGroup) (role : RoleSpec) (config : ClusterConfig)
    (decision : Decision) : Action (Except DiscoveryError Decision) := do
  let name := group.workloadName role
  match discoveryConfigMap group role config with
  | .error failure => return .error failure
  | .ok configMap =>
    match ← Action.applyConfigMap configMap with
    | .error cause => return .error (.applyConfigMap name group.namespaceOrDefault cause)
    | .ok () =>
      Action.report (appliedEvent name decision)
      return .ok decision

/-- What is being done while the discovery ConfigMap of a role is reconciled. -/
def reconcileSpan (group : RoleBasedGroup) (role : RoleSpec) : Span where
  name := "reconcile_discovery_config_map"
  target := discoveryTarget
  fields := [("rbg", group.name), ("role", role.name)]

/-- Sees to it that the discovery ConfigMap of a role holds a topology. -/
def reconcile (group : RoleBasedGroup) (role : RoleSpec) (config : ClusterConfig) :
    Action (Except DiscoveryError Decision) :=
  Action.inSpan (reconcileSpan group role) do
    let name := group.workloadName role
    match ← decide name group.namespaceOrDefault config with
    | .error failure => return .error failure
    | .ok .unchanged =>
      Action.report (upToDateEvent name)
      return .ok .unchanged
    | .ok decision => applyDiscovery group role config decision

end RoleDiscovery
