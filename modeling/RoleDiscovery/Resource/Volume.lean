import RoleDiscovery.Resource.Container
import RoleDiscovery.Resource.Meta

/-!
# Volumes

The volumes of a pod. The sources that occur in clusters of this kind most have types of their own;
all others that the Kubernetes interface has are carried along.

Results:

* `EmptyDirSource`, `HostPathSource`, `ConfigMapSource`, `SecretSource`, `ClaimSource`: sources of
  volumes, each with its codec.
* `Volume.otherFields`: the sources that are carried along.
* `Volume`: the type, with its codec.
-/

namespace RoleDiscovery

section

open Codec Codec.Entry

/-! ## Sources -/

/-- A directory that lives as long as the pod. -/
structure EmptyDirSource where
  medium : Option String
  sizeLimit : Option Quantity
  deriving DecidableEq

/-- The codec of empty directories. -/
def EmptyDirSource.codec : Codec EmptyDirSource :=
  lenient <| EmptyDirSource.mk
    <$> optional "medium" text EmptyDirSource.medium
    <*> optional "sizeLimit" Quantity.codec EmptyDirSource.sizeLimit

/-- A directory of the node. -/
structure HostPathSource where
  path : String
  type : Option String
  deriving DecidableEq

/-- The codec of node directories. -/
def HostPathSource.codec : Codec HostPathSource :=
  lenient <| HostPathSource.mk
    <$> filled "path" text "" HostPathSource.path
    <*> optional "type" text HostPathSource.type

/-- The file that a key is projected to. -/
structure KeyToPath where
  key : String
  path : String
  mode : Option Int32 := none
  deriving DecidableEq

/-- The codec of projected keys. -/
def KeyToPath.codec : Codec KeyToPath :=
  lenient <| KeyToPath.mk
    <$> filled "key" text "" KeyToPath.key
    <*> filled "path" text "" KeyToPath.path
    <*> optional "mode" int32 KeyToPath.mode

/-- The keys of a ConfigMap as files. -/
structure ConfigMapSource where
  name : String
  items : Option (List KeyToPath) := none
  defaultMode : Option Int32 := none
  optional? : Option Bool := none
  deriving DecidableEq

/-- The codec of ConfigMap volumes. -/
def ConfigMapSource.codec : Codec ConfigMapSource :=
  lenient <| ConfigMapSource.mk
    <$> filled "name" text "" ConfigMapSource.name
    <*> optional "items" (list KeyToPath.codec) ConfigMapSource.items
    <*> optional "defaultMode" int32 ConfigMapSource.defaultMode
    <*> optional "optional" bool ConfigMapSource.optional?

/-- The keys of a Secret as files. -/
structure SecretSource where
  secretName : Option String
  items : Option (List KeyToPath)
  defaultMode : Option Int32
  optional? : Option Bool
  deriving DecidableEq

/-- The codec of Secret volumes. -/
def SecretSource.codec : Codec SecretSource :=
  lenient <| SecretSource.mk
    <$> optional "secretName" text SecretSource.secretName
    <*> optional "items" (list KeyToPath.codec) SecretSource.items
    <*> optional "defaultMode" int32 SecretSource.defaultMode
    <*> optional "optional" bool SecretSource.optional?

/-- A persistent volume, by claim. -/
structure ClaimSource where
  claimName : String
  readOnly : Option Bool
  deriving DecidableEq

/-- The codec of claimed volumes. -/
def ClaimSource.codec : Codec ClaimSource :=
  lenient <| ClaimSource.mk
    <$> filled "claimName" text "" ClaimSource.claimName
    <*> optional "readOnly" bool ClaimSource.readOnly

end

/-! ## Fields that are carried along -/

namespace Carried

open Form Carried.Field

/-- A resource of the same namespace, by name. -/
def localReference : Form :=
  record [filled "name" text]

/-- Keys that are projected to files. -/
def projectedKeys : Form :=
  list (of KeyToPath.codec ⟨"", "", none⟩)

/-- Fields of the pod and resources of its containers as files. -/
def podFiles : Form :=
  list (record
    [optional "fieldRef" (of FieldReference.codec ⟨none, ""⟩),
      optional "mode" int32,
      filled "path" text,
      optional "resourceFieldRef" (of ResourceReference.codec ⟨none, none, ""⟩)])

/-- A claim of a persistent volume. -/
def claim : Form :=
  record
    [optional "accessModes" (list text),
      optional "dataSource" (record
        [optional "apiGroup" text, filled "kind" text, filled "name" text]),
      optional "dataSourceRef" (record
        [optional "apiGroup" text,
          filled "kind" text,
          filled "name" text,
          optional "namespace" text]),
      optional "resources" (record
        [optional "limits" (map (of Quantity.codec ⟨""⟩)),
          optional "requests" (map (of Quantity.codec ⟨""⟩))]),
      optional "selector" labelSelector,
      optional "storageClassName" text,
      optional "volumeAttributesClassName" text,
      optional "volumeMode" text,
      optional "volumeName" text]

/-- A part of a volume that projects several sources. -/
def projection : Form :=
  record
    [optional "clusterTrustBundle" (record
        [optional "labelSelector" labelSelector,
          optional "name" text,
          optional "optional" bool,
          filled "path" text,
          optional "signerName" text]),
      optional "configMap" (record
        [optional "items" projectedKeys, filled "name" text, optional "optional" bool]),
      optional "downwardAPI" (record [optional "items" podFiles]),
      optional "podCertificate" (record
        [optional "certificateChainPath" text,
          optional "credentialBundlePath" text,
          optional "keyPath" text,
          filled "keyType" text,
          optional "maxExpirationSeconds" int32,
          filled "signerName" text,
          optional "userAnnotations" (map text)]),
      optional "secret" (record
        [optional "items" projectedKeys, filled "name" text, optional "optional" bool]),
      optional "serviceAccountToken" (record
        [optional "audience" text, optional "expirationSeconds" int64, filled "path" text])]

/-- Volumes of cloud providers. -/
def cloudVolumes : List Field :=
  [optional "awsElasticBlockStore" (record
      [optional "fsType" text,
        optional "partition" int32,
        optional "readOnly" bool,
        filled "volumeID" text]),
    optional "azureDisk" (record
      [optional "cachingMode" text,
        filled "diskName" text,
        filled "diskURI" text,
        optional "fsType" text,
        optional "kind" text,
        optional "readOnly" bool]),
    optional "azureFile" (record
      [optional "readOnly" bool, filled "secretName" text, filled "shareName" text]),
    optional "cinder" (record
      [optional "fsType" text,
        optional "readOnly" bool,
        optional "secretRef" localReference,
        filled "volumeID" text]),
    optional "gcePersistentDisk" (record
      [optional "fsType" text,
        optional "partition" int32,
        filled "pdName" text,
        optional "readOnly" bool]),
    optional "photonPersistentDisk" (record [optional "fsType" text, filled "pdID" text]),
    optional "vsphereVolume" (record
      [optional "fsType" text,
        optional "storagePolicyID" text,
        optional "storagePolicyName" text,
        filled "volumePath" text])]

/-- Volumes of storage systems that are reached over a network. -/
def networkVolumes : List Field :=
  [optional "cephfs" (record
      [filled "monitors" (list text),
        optional "path" text,
        optional "readOnly" bool,
        optional "secretFile" text,
        optional "secretRef" localReference,
        optional "user" text]),
    optional "fc" (record
      [optional "fsType" text,
        optional "lun" int32,
        optional "readOnly" bool,
        optional "targetWWNs" (list text),
        optional "wwids" (list text)]),
    optional "flocker" (record [optional "datasetName" text, optional "datasetUUID" text]),
    optional "glusterfs" (record
      [filled "endpoints" text, filled "path" text, optional "readOnly" bool]),
    optional "iscsi" (record
      [optional "chapAuthDiscovery" bool,
        optional "chapAuthSession" bool,
        optional "fsType" text,
        optional "initiatorName" text,
        filled "iqn" text,
        optional "iscsiInterface" text,
        filled "lun" int32,
        optional "portals" (list text),
        optional "readOnly" bool,
        optional "secretRef" localReference,
        filled "targetPortal" text]),
    optional "nfs" (record [filled "path" text, optional "readOnly" bool, filled "server" text]),
    optional "portworxVolume" (record
      [optional "fsType" text, optional "readOnly" bool, filled "volumeID" text]),
    optional "quobyte" (record
      [optional "group" text,
        optional "readOnly" bool,
        filled "registry" text,
        optional "tenant" text,
        optional "user" text,
        filled "volume" text]),
    optional "rbd" (record
      [optional "fsType" text,
        filled "image" text,
        optional "keyring" text,
        filled "monitors" (list text),
        optional "pool" text,
        optional "readOnly" bool,
        optional "secretRef" localReference,
        optional "user" text]),
    optional "scaleIO" (record
      [optional "fsType" text,
        filled "gateway" text,
        optional "protectionDomain" text,
        optional "readOnly" bool,
        filled "secretRef" localReference,
        optional "sslEnabled" bool,
        optional "storageMode" text,
        optional "storagePool" text,
        filled "system" text,
        optional "volumeName" text]),
    optional "storageos" (record
      [optional "fsType" text,
        optional "readOnly" bool,
        optional "secretRef" localReference,
        optional "volumeName" text,
        optional "volumeNamespace" text])]

/-- Volumes of drivers, and those that are made for the pod. -/
def podVolumes : List Field :=
  [optional "csi" (record
      [filled "driver" text,
        optional "fsType" text,
        optional "nodePublishSecretRef" localReference,
        optional "readOnly" bool,
        optional "volumeAttributes" (map text)]),
    optional "downwardAPI" (record [optional "defaultMode" int32, optional "items" podFiles]),
    optional "ephemeral" (record
      [optional "volumeClaimTemplate" (record
        [optional "metadata" (of ObjectMeta.codec {}), filled "spec" claim])]),
    optional "flexVolume" (record
      [filled "driver" text,
        optional "fsType" text,
        optional "options" (map text),
        optional "readOnly" bool,
        optional "secretRef" localReference]),
    optional "gitRepo" (record
      [optional "directory" text, filled "repository" text, optional "revision" text]),
    optional "image" (record [optional "pullPolicy" text, optional "reference" text]),
    optional "projected" (record
      [optional "defaultMode" int32, optional "sources" (list projection)])]

end Carried

/-- The sources of a volume that are carried along. -/
def Volume.otherFields : List Carried.Field :=
  Carried.cloudVolumes ++ Carried.networkVolumes ++ Carried.podVolumes

/-! ## Volumes -/

/-- A volume of a pod. -/
structure Volume where
  name : String
  emptyDir : Option EmptyDirSource := none
  hostPath : Option HostPathSource := none
  configMap : Option ConfigMapSource := none
  secret : Option SecretSource := none
  persistentVolumeClaim : Option ClaimSource := none
  others : Carried Volume.otherFields := .unset
  deriving DecidableEq

open Codec Codec.Entry in
/-- The codec of volumes. -/
def Volume.codec : Codec Volume :=
  lenient <| Volume.mk
    <$> filled "name" text "" Volume.name
    <*> optional "emptyDir" EmptyDirSource.codec Volume.emptyDir
    <*> optional "hostPath" HostPathSource.codec Volume.hostPath
    <*> optional "configMap" ConfigMapSource.codec Volume.configMap
    <*> optional "secret" SecretSource.codec Volume.secret
    <*> optional "persistentVolumeClaim" ClaimSource.codec Volume.persistentVolumeClaim
    <*> carried Volume.others

end RoleDiscovery
