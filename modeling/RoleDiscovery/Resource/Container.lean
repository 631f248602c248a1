import RoleDiscovery.Carried
import RoleDiscovery.Resource.Quantity

/-!
# Containers

The containers of a pod, with their environment variables and the places of volumes in them. The
types have all fields that those of the Kubernetes interface have; those of a container that nothing
looks into are carried along.

Results:

* `EnvVar`, `ContainerPort`, `VolumeMount`, `ResourceRequirements`: parts of containers, each with
  its codec.
* `Container.otherFields`: the fields of a container that are carried along.
* `Container`: the type, with its codec.
-/

namespace RoleDiscovery

section

open Codec Codec.Entry

/-! ## Environment variables -/

/-- A field of the pod, by path. -/
structure FieldReference where
  apiVersion : Option String := none
  fieldPath : String
  deriving DecidableEq

/-- The codec of field references. -/
def FieldReference.codec : Codec FieldReference :=
  lenient <| FieldReference.mk
    <$> optional "apiVersion" text FieldReference.apiVersion
    <*> filled "fieldPath" text "" FieldReference.fieldPath

/-- A key of a ConfigMap or a Secret. -/
structure KeyReference where
  key : String
  name : String
  optional? : Option Bool
  deriving DecidableEq

/-- The codec of key references. -/
def KeyReference.codec : Codec KeyReference :=
  lenient <| KeyReference.mk
    <$> filled "key" text "" KeyReference.key
    <*> filled "name" text "" KeyReference.name
    <*> optional "optional" bool KeyReference.optional?

/-- A limit or a request of a container, in units of a divisor. -/
structure ResourceReference where
  containerName : Option String
  divisor : Option Quantity
  resource : String
  deriving DecidableEq

/-- The codec of resource references. -/
def ResourceReference.codec : Codec ResourceReference :=
  lenient <| ResourceReference.mk
    <$> optional "containerName" text ResourceReference.containerName
    <*> optional "divisor" Quantity.codec ResourceReference.divisor
    <*> filled "resource" text "" ResourceReference.resource

/-- A key in a file of variables. -/
structure FileKeyReference where
  key : String
  optional? : Option Bool
  path : String
  volumeName : String
  deriving DecidableEq

/-- The codec of references to keys in files. -/
def FileKeyReference.codec : Codec FileKeyReference :=
  lenient <| FileKeyReference.mk
    <$> filled "key" text "" FileKeyReference.key
    <*> optional "optional" bool FileKeyReference.optional?
    <*> filled "path" text "" FileKeyReference.path
    <*> filled "volumeName" text "" FileKeyReference.volumeName

/-- Where the value of a variable is taken from. -/
structure EnvSource where
  field : Option FieldReference := none
  configMapKey : Option KeyReference := none
  secretKey : Option KeyReference := none
  resource : Option ResourceReference := none
  fileKey : Option FileKeyReference := none
  deriving DecidableEq

/-- The codec of sources of variables. -/
def EnvSource.codec : Codec EnvSource :=
  lenient <| EnvSource.mk
    <$> optional "fieldRef" FieldReference.codec EnvSource.field
    <*> optional "configMapKeyRef" KeyReference.codec EnvSource.configMapKey
    <*> optional "secretKeyRef" KeyReference.codec EnvSource.secretKey
    <*> optional "resourceFieldRef" ResourceReference.codec EnvSource.resource
    <*> optional "fileKeyRef" FileKeyReference.codec EnvSource.fileKey

/-- An environment variable: a value of its own or a source. -/
structure EnvVar where
  name : String
  value : Option String := none
  valueFrom : Option EnvSource := none
  deriving DecidableEq

/-- The codec of environment variables. -/
def EnvVar.codec : Codec EnvVar :=
  lenient <| EnvVar.mk
    <$> filled "name" text "" EnvVar.name
    <*> optional "value" text EnvVar.value
    <*> optional "valueFrom" EnvSource.codec EnvVar.valueFrom

/-! ## Ports, volumes and resources -/

/-- A port that a container listens on. -/
structure ContainerPort where
  containerPort : Int32
  hostIP : Option String
  hostPort : Option Int32
  name : Option String
  protocol : Option String
  deriving DecidableEq

/-- The codec of container ports. -/
def ContainerPort.codec : Codec ContainerPort :=
  lenient <| ContainerPort.mk
    <$> filled "containerPort" int32 0 ContainerPort.containerPort
    <*> optional "hostIP" text ContainerPort.hostIP
    <*> optional "hostPort" int32 ContainerPort.hostPort
    <*> optional "name" text ContainerPort.name
    <*> optional "protocol" text ContainerPort.protocol

/-- The place of a volume in a container. -/
structure VolumeMount where
  name : String
  mountPath : String
  mountPropagation : Option String := none
  readOnly : Option Bool := none
  recursiveReadOnly : Option String := none
  subPath : Option String := none
  subPathExpr : Option String := none
  deriving DecidableEq

/-- The codec of volume mounts. -/
def VolumeMount.codec : Codec VolumeMount :=
  lenient <| VolumeMount.mk
    <$> filled "name" text "" VolumeMount.name
    <*> filled "mountPath" text "" VolumeMount.mountPath
    <*> optional "mountPropagation" text VolumeMount.mountPropagation
    <*> optional "readOnly" bool VolumeMount.readOnly
    <*> optional "recursiveReadOnly" text VolumeMount.recursiveReadOnly
    <*> optional "subPath" text VolumeMount.subPath
    <*> optional "subPathExpr" text VolumeMount.subPathExpr

/-- A claim of the pod that a container uses. -/
structure ResourceClaim where
  name : String
  request : Option String
  deriving DecidableEq

/-- The codec of claims. -/
def ResourceClaim.codec : Codec ResourceClaim :=
  lenient <| ResourceClaim.mk
    <$> filled "name" text "" ResourceClaim.name
    <*> optional "request" text ResourceClaim.request

/-- The resources that a container asks for and may use at most. -/
structure ResourceRequirements where
  claims : Option (List ResourceClaim) := none
  limits : Option (SortedMap Quantity) := none
  requests : Option (SortedMap Quantity) := none
  deriving DecidableEq

/-- The codec of resource requirements. -/
def ResourceRequirements.codec : Codec ResourceRequirements :=
  lenient <| ResourceRequirements.mk
    <$> optional "claims" (list ResourceClaim.codec) ResourceRequirements.claims
    <*> optional "limits" (map Quantity.codec) ResourceRequirements.limits
    <*> optional "requests" (map Quantity.codec) ResourceRequirements.requests

end

/-! ## Fields that are carried along -/

namespace Carried

open Form Carried.Field

/-- What a container does on its own behalf: a command, a request, a connection or a pause. -/
def actions : List Field :=
  [optional "exec" (record [optional "command" (list text)]),
    optional "httpGet" (record
      [optional "host" text,
        optional "httpHeaders" (list (record [filled "name" text, filled "value" text])),
        optional "path" text,
        filled "port" intOrText,
        optional "scheme" text]),
    optional "tcpSocket" (record [optional "host" text, filled "port" intOrText])]

/-- A hook in the life of a container. -/
def hook : Form :=
  record (actions ++ [optional "sleep" (record [filled "seconds" int64])])

/-- A check of a container. -/
def probe : Form :=
  record (actions ++
    [optional "grpc" (record [filled "port" int32, optional "service" text]),
      optional "failureThreshold" int32,
      optional "initialDelaySeconds" int32,
      optional "periodSeconds" int32,
      optional "successThreshold" int32,
      optional "terminationGracePeriodSeconds" int64,
      optional "timeoutSeconds" int32])

/-- All keys of a ConfigMap or a Secret as variables. -/
def envSource : Form :=
  record [filled "name" text, optional "optional" bool]

/-- A profile of a security module. -/
def securityProfile : Form :=
  record [optional "localhostProfile" text, filled "type" text]

/-- The security settings that a container and a pod have in common. -/
def securitySettings : List Field :=
  [optional "appArmorProfile" securityProfile,
    optional "runAsGroup" int64,
    optional "runAsNonRoot" bool,
    optional "runAsUser" int64,
    optional "seLinuxOptions" (record
      [optional "level" text, optional "role" text, optional "type" text, optional "user" text]),
    optional "seccompProfile" securityProfile,
    optional "windowsOptions" (record
      [optional "gmsaCredentialSpec" text,
        optional "gmsaCredentialSpecName" text,
        optional "hostProcess" bool,
        optional "runAsUserName" text])]

/-- The security settings of a container. -/
def containerSecurity : Form :=
  record (securitySettings ++
    [optional "allowPrivilegeEscalation" bool,
      optional "capabilities" (record
        [optional "add" (list text), optional "drop" (list text)]),
      optional "privileged" bool,
      optional "procMount" text,
      optional "readOnlyRootFilesystem" bool])

end Carried

namespace Container

open Carried Carried.Form Carried.Field in
/-- The fields of a container that are carried along. -/
def otherFields : List Carried.Field :=
  [optional "envFrom" (list (record
      [optional "configMapRef" envSource, optional "prefix" text, optional "secretRef" envSource])),
    optional "lifecycle" (record
      [optional "postStart" hook, optional "preStop" hook, optional "stopSignal" text]),
    optional "livenessProbe" probe,
    optional "readinessProbe" probe,
    optional "resizePolicy" (list (record
      [filled "resourceName" text, filled "restartPolicy" text])),
    optional "restartPolicy" text,
    optional "restartPolicyRules" (list (record
      [filled "action" text,
        optional "exitCodes" (record [filled "operator" text, optional "values" (list int32)])])),
    optional "securityContext" containerSecurity,
    optional "startupProbe" probe,
    optional "stdin" bool,
    optional "stdinOnce" bool,
    optional "terminationMessagePath" text,
    optional "terminationMessagePolicy" text,
    optional "tty" bool,
    optional "volumeDevices" (list (record [filled "devicePath" text, filled "name" text]))]

end Container

/-! ## Containers -/

/-- A container of a pod. -/
structure Container where
  name : String
  image : Option String := none
  command : Option (List String) := none
  args : Option (List String) := none
  workingDir : Option String := none
  imagePullPolicy : Option String := none
  env : Option (List EnvVar) := none
  ports : Option (List ContainerPort) := none
  volumeMounts : Option (List VolumeMount) := none
  resources : Option ResourceRequirements := none
  others : Carried Container.otherFields := .unset
  deriving DecidableEq

namespace Container

open Codec Codec.Entry

/-- The fields of a container. -/
def entry : Entry Container Container :=
  Container.mk
    <$> filled "name" text "" name
    <*> optional "image" text image
    <*> optional "command" (list text) command
    <*> optional "args" (list text) args
    <*> optional "workingDir" text workingDir
    <*> optional "imagePullPolicy" text imagePullPolicy
    <*> optional "env" (list EnvVar.codec) env
    <*> optional "ports" (list ContainerPort.codec) ports
    <*> optional "volumeMounts" (list VolumeMount.codec) volumeMounts
    <*> optional "resources" ResourceRequirements.codec resources
    <*> carried others

/-- The codec of containers. -/
def codec : Codec Container :=
  lenient entry

end Container

end RoleDiscovery
