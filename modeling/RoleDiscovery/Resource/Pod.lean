import RoleDiscovery.Resource.Volume

/-!
# Pods

The template of the pods of a workload. The fields of a pod that nothing looks into are carried
along.

Results:

* `PodSpec.otherFields`: the fields of a pod that are carried along.
* `PodSpec`, `PodTemplate`: the types, each with its codec.
-/

namespace RoleDiscovery

/-! ## Ephemeral containers -/

/-- A container that is put into a running pod, for another one if it has a target. -/
structure EphemeralContainer where
  container : Container
  targetContainerName : Option String := none
  deriving DecidableEq

open Codec Codec.Entry in
/-- The codec of ephemeral containers. -/
def EphemeralContainer.codec : Codec EphemeralContainer :=
  lenient <| EphemeralContainer.mk
    <$> Container.entry.of EphemeralContainer.container
    <*> optional "targetContainerName" text EphemeralContainer.targetContainerName

/-! ## Fields that are carried along -/

namespace Carried

open Form Carried.Field

/-- The form of nodes that fit a term. -/
def nodeTerm : Form :=
  let requirements := list (record
    [filled "key" text, filled "operator" text, optional "values" (list text)])
  record [optional "matchExpressions" requirements, optional "matchFields" requirements]

/-- The form of pods that share a place with others. -/
def podTerm : Form :=
  record
    [optional "labelSelector" labelSelector,
      optional "matchLabelKeys" (list text),
      optional "mismatchLabelKeys" (list text),
      optional "namespaceSelector" labelSelector,
      optional "namespaces" (list text),
      filled "topologyKey" text]

/-- What a pod prefers, with weights, and what it requires. -/
def placement (preferred required : Form) : Form :=
  record
    [optional "preferredDuringSchedulingIgnoredDuringExecution" (list preferred),
      optional "requiredDuringSchedulingIgnoredDuringExecution" required]

/-- The placement of a pod next to others or away from them. -/
def podPlacement : Form :=
  placement (record [filled "podAffinityTerm" podTerm, filled "weight" int32]) (list podTerm)

/-- The placement of a pod. -/
def affinity : Form :=
  record
    [optional "nodeAffinity" (placement
        (record [filled "preference" nodeTerm, filled "weight" int32])
        (record [filled "nodeSelectorTerms" (list nodeTerm)])),
      optional "podAffinity" podPlacement,
      optional "podAntiAffinity" podPlacement]

/-- The security settings of a pod. -/
def podSecurity : Form :=
  record (securitySettings ++
    [optional "fsGroup" int64,
      optional "fsGroupChangePolicy" text,
      optional "seLinuxChangePolicy" text,
      optional "supplementalGroups" (list int64),
      optional "supplementalGroupsPolicy" text,
      optional "sysctls" (list (record [filled "name" text, filled "value" text]))])

/-- Where the pods of a workload are spread. -/
def spreadConstraint : Form :=
  record
    [optional "labelSelector" labelSelector,
      optional "matchLabelKeys" (list text),
      filled "maxSkew" int32,
      optional "minDomains" int32,
      optional "nodeAffinityPolicy" text,
      optional "nodeTaintsPolicy" text,
      filled "topologyKey" text,
      filled "whenUnsatisfiable" text]

/-- What decides where a pod runs. -/
def schedulingFields : List Field :=
  [optional "affinity" affinity,
    optional "nodeName" text,
    optional "overhead" (map (of Quantity.codec ⟨""⟩)),
    optional "preemptionPolicy" text,
    optional "priority" int32,
    optional "priorityClassName" text,
    optional "resourceClaims" (list (record
      [filled "name" text,
        optional "resourceClaimName" text,
        optional "resourceClaimTemplateName" text])),
    optional "resources" (of ResourceRequirements.codec {}),
    optional "runtimeClassName" text,
    optional "schedulerName" text,
    optional "schedulingGates" (list (record [filled "name" text])),
    optional "tolerations" (list (record
      [optional "effect" text,
        optional "key" text,
        optional "operator" text,
        optional "tolerationSeconds" int64,
        optional "value" text])),
    optional "topologySpreadConstraints" (list spreadConstraint),
    optional "workloadRef" (record
      [filled "name" text, filled "podGroup" text, optional "podGroupReplicaKey" text])]

/-- What a pod sees of the network and of its node. -/
def hostFields : List Field :=
  [optional "dnsConfig" (record
      [optional "nameservers" (list text),
        optional "options" (list (record [optional "name" text, optional "value" text])),
        optional "searches" (list text)]),
    optional "dnsPolicy" text,
    optional "hostAliases" (list (record [optional "hostnames" (list text), filled "ip" text])),
    optional "hostIPC" bool,
    optional "hostPID" bool,
    optional "hostUsers" bool,
    optional "hostname" text,
    optional "hostnameOverride" text,
    optional "os" (record [filled "name" text]),
    optional "setHostnameAsFQDN" bool,
    optional "subdomain" text]

/-- What else a pod says about itself. -/
def lifeFields : List Field :=
  [optional "activeDeadlineSeconds" int64,
    optional "automountServiceAccountToken" bool,
    optional "enableServiceLinks" bool,
    optional "ephemeralContainers"
      (list (of EphemeralContainer.codec { container := { name := "" } })),
    optional "imagePullSecrets" (list localReference),
    optional "readinessGates" (list (record [filled "conditionType" text])),
    optional "securityContext" podSecurity,
    optional "serviceAccount" text,
    optional "shareProcessNamespace" bool]

end Carried

/-- The fields of a pod that are carried along. -/
def PodSpec.otherFields : List Carried.Field :=
  Carried.schedulingFields ++ Carried.hostFields ++ Carried.lifeFields

/-! ## Pods -/

/-- What a pod consists of. -/
structure PodSpec where
  containers : List Container := []
  initContainers : Option (List Container) := none
  volumes : Option (List Volume) := none
  nodeSelector : Option (SortedMap String) := none
  restartPolicy : Option String := none
  serviceAccountName : Option String := none
  hostNetwork : Option Bool := none
  terminationGracePeriodSeconds : Option Int64 := none
  others : Carried PodSpec.otherFields := .unset
  deriving DecidableEq

open Codec Codec.Entry in
/-- The codec of pod specifications. -/
def PodSpec.codec : Codec PodSpec :=
  lenient <| PodSpec.mk
    <$> filled "containers" (list Container.codec) [] PodSpec.containers
    <*> optional "initContainers" (list Container.codec) PodSpec.initContainers
    <*> optional "volumes" (list Volume.codec) PodSpec.volumes
    <*> optional "nodeSelector" (map text) PodSpec.nodeSelector
    <*> optional "restartPolicy" text PodSpec.restartPolicy
    <*> optional "serviceAccountName" text PodSpec.serviceAccountName
    <*> optional "hostNetwork" bool PodSpec.hostNetwork
    <*> optional "terminationGracePeriodSeconds" int64 PodSpec.terminationGracePeriodSeconds
    <*> carried PodSpec.others

/-- The template that the pods of a workload are made from. -/
structure PodTemplate where
  metadata : Option ObjectMeta := none
  spec : Option PodSpec := none
  deriving DecidableEq

open Codec Codec.Entry in
/-- The codec of pod templates. -/
def PodTemplate.codec : Codec PodTemplate :=
  lenient <| PodTemplate.mk
    <$> optional "metadata" ObjectMeta.codec PodTemplate.metadata
    <*> optional "spec" PodSpec.codec PodTemplate.spec

end RoleDiscovery
