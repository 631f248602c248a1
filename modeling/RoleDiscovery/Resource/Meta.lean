import RoleDiscovery.Carried

/-!
# Metadata of resources

What every resource says about itself: its name and namespace, its labels and annotations, its
owners, and what the API server keeps about it. The types have all fields that those of the
Kubernetes interface have.

Results:

* `ObjectMeta`, `OwnerReference`, `ManagedFields`: the types, each with its codec.
* `ObjectMeta.nameOrGenerated`: the name that a resource goes by.
* `Carried.labelSelector`: the form of what selects resources by their labels.
-/

namespace RoleDiscovery

section

open Codec Codec.Entry

/-- A reference to a resource that owns another one. -/
structure OwnerReference where
  apiVersion : String
  kind : String
  name : String
  uid : String
  controller : Option Bool
  blockOwnerDeletion : Option Bool
  deriving DecidableEq

/-- The codec of owner references. -/
def OwnerReference.codec : Codec OwnerReference :=
  lenient <| OwnerReference.mk
    <$> filled "apiVersion" text "" OwnerReference.apiVersion
    <*> filled "kind" text "" OwnerReference.kind
    <*> filled "name" text "" OwnerReference.name
    <*> filled "uid" text "" OwnerReference.uid
    <*> optional "controller" bool OwnerReference.controller
    <*> optional "blockOwnerDeletion" bool OwnerReference.blockOwnerDeletion

/-- A note of the API server on who set which fields. These are named by a value whose form depends
on the kind of the note. -/
structure ManagedFields where
  apiVersion : Option String := none
  fieldsType : Option String := none
  fields : Option Json := none
  manager : Option String := none
  operation : Option String := none
  subresource : Option String := none
  time : Option Timestamp := none
  deriving DecidableEq

/-- The codec of notes on managed fields. -/
def ManagedFields.codec : Codec ManagedFields :=
  lenient <| ManagedFields.mk
    <$> optional "apiVersion" text ManagedFields.apiVersion
    <*> optional "fieldsType" text ManagedFields.fieldsType
    <*> optional "fieldsV1" any ManagedFields.fields
    <*> optional "manager" text ManagedFields.manager
    <*> optional "operation" text ManagedFields.operation
    <*> optional "subresource" text ManagedFields.subresource
    <*> optional "time" timestamp ManagedFields.time

/-- The metadata of a resource. -/
structure ObjectMeta where
  annotations : Option (SortedMap String) := none
  creationTimestamp : Option Timestamp := none
  deletionGracePeriodSeconds : Option Int64 := none
  deletionTimestamp : Option Timestamp := none
  finalizers : Option (List String) := none
  generateName : Option String := none
  generation : Option Int64 := none
  labels : Option (SortedMap String) := none
  managedFields : Option (List ManagedFields) := none
  name : Option String := none
  ns : Option String := none
  ownerReferences : Option (List OwnerReference) := none
  resourceVersion : Option String := none
  selfLink : Option String := none
  uid : Option String := none
  deriving DecidableEq

end

namespace ObjectMeta

section

open Codec Codec.Entry

/-- The codec of metadata. -/
def codec : Codec ObjectMeta :=
  lenient <| ObjectMeta.mk
    <$> optional "annotations" (map text) annotations
    <*> optional "creationTimestamp" timestamp creationTimestamp
    <*> optional "deletionGracePeriodSeconds" int64 deletionGracePeriodSeconds
    <*> optional "deletionTimestamp" timestamp deletionTimestamp
    <*> optional "finalizers" (list text) finalizers
    <*> optional "generateName" text generateName
    <*> optional "generation" int64 generation
    <*> optional "labels" (map text) labels
    <*> optional "managedFields" (list ManagedFields.codec) managedFields
    <*> optional "name" text name
    <*> optional "namespace" text ns
    <*> optional "ownerReferences" (list OwnerReference.codec) ownerReferences
    <*> optional "resourceVersion" text resourceVersion
    <*> optional "selfLink" text selfLink
    <*> optional "uid" text uid

end

/-- The name of a resource, else the stem of the name that the API server is to generate, else the
empty text. -/
def nameOrGenerated (metadata : ObjectMeta) : String :=
  (metadata.name <|> metadata.generateName).getD ""

end ObjectMeta

namespace Carried

open Form Carried.Field

/-- The form of what selects resources by their labels. -/
def labelSelector : Form :=
  record
    [optional "matchExpressions" (list (record
        [filled "key" text, filled "operator" text, optional "values" (list text)])),
      optional "matchLabels" (map text)]

end Carried

end RoleDiscovery
