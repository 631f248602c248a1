import RoleDiscovery.ResourceType

/-!
# Definitions of the custom resources

What the API server is told so that it keeps groups and runtime profiles: their names and the
schemas that it checks their objects against. A default in a schema is what the codec of the field
writes for the value that it reads if the field is missing.

Results:

* `Schema`: what a value may be; `Schema.json` writes it.
* `RoleBasedGroup.definition`, `RuntimeProfile.definition`: the definitions of the two resources.
-/

namespace RoleDiscovery

/-! ## Schemas -/

/-- What a value may be, with what people and the API server are told about it. -/
inductive Schema where
  | text
  | int32
  | choice (tags : List String)
  | list (items : Schema)
  | object (required : List String) (properties : List (String × Schema))
  /-- One of the platform's own types, whose schemas are not spelled out here. -/
  | platform
  | orNull (schema : Schema)
  | withDefault (value : Json) (schema : Schema)
  | titled (title : String) (schema : Schema)
  | described (description : String) (schema : Schema)

namespace Schema

/-- A schema in writing with a further keyword. -/
def adding (keyword : String) (value : Json) : Json → Json
  | .object keywords => .object (keywords ++ [(keyword, value)])
  | written => written

mutual

/-- A schema as it is written, with `foreign` in place of the types of the platform. -/
def json (foreign : Json) : Schema → Json
  | text => .object [("type", .text "string")]
  | int32 => .object [("type", .text "integer"), ("format", .text "int32")]
  | choice tags => .object [("type", .text "string"), ("enum", .array (tags.map .text))]
  | list items => .object [("type", .text "array"), ("items", items.json foreign)]
  | object required properties =>
    let keywords :=
      [("type", .text "object"), ("properties", .object (propertiesJson foreign properties))]
    if required.isEmpty then .object keywords
    else adding "required" (.array (required.map .text)) (.object keywords)
  | platform => foreign
  | orNull schema => adding "nullable" (.bool true) (schema.json foreign)
  | withDefault value schema => adding "default" value (schema.json foreign)
  | titled title schema => adding "title" (.text title) (schema.json foreign)
  | described description schema =>
    adding "description" (.text description) (schema.json foreign)

/-- The properties of an object as they are written. -/
def propertiesJson (foreign : Json) : List (String × Schema) → List (String × Json)
  | [] => []
  | (name, schema) :: rest => (name, schema.json foreign) :: propertiesJson foreign rest

end

end Schema

/-! ## Groups -/

/-- The schema of kinds of workloads. -/
def WorkloadKind.schema : Schema :=
  .described "The workload API backing a role."
    (.choice [WorkloadKind.statefulSet.tag, WorkloadKind.leaderWorkerSet.tag])

/-- The schema of declared workloads. -/
def WorkloadSpec.schema : Schema :=
  .object [] [("kind", WorkloadKind.schema.orNull)]

/-- The schema of LeaderWorkerSet settings. -/
def LeaderWorkerTemplate.schema : Schema :=
  .object []
    [("size", .described "Number of pods per leader/worker group, leader included."
      Schema.int32.orNull)]

/-- The schema of overrides. -/
def ContainerOverride.schema : Schema :=
  .described "Overrides applied to the profile container called `name` once it is part of the pod."
    (.object ["name"] [("name", .text), ("args", .list .text), ("env", .list .platform)])

/-- The schema of profile references. -/
def EngineRuntime.schema : Schema :=
  .described
    "A reference to a [`ClusterEngineRuntimeProfile`] plus role specific container overrides."
    (.object ["profileName"]
      [("profileName", .text), ("containers", .list ContainerOverride.schema)])

/-- The schema of roles. -/
def RoleSpec.schema : Schema :=
  .object ["name"]
    [ ("name", .text),
      ("replicas", .described
        ("Number of replicas. Unset means one replica, an explicit `0` means the role has no\n" ++
          "addressable instances.")
        Schema.int32.orNull),
      ("workload", .withDefault (WorkloadSpec.codec.encode {}) WorkloadSpec.schema),
      ("leaderWorkerSet", .described
        "Only evaluated for [`WorkloadKind::LeaderWorkerSet`] roles."
        (.withDefault (LeaderWorkerTemplate.codec.encode {}) LeaderWorkerTemplate.schema)),
      ("engineRuntimes", .list EngineRuntime.schema) ]

/-- The schema of group specifications. -/
def GroupSpec.schema : Schema :=
  .object []
    [ ("roles", .described "The roles of this group. Role names must be unique within a group."
        (.withDefault ((Codec.list RoleSpec.codec).encode []) (.list RoleSpec.schema))) ]

/-! ## Runtime profiles -/

/-- The schema of profile specifications. -/
def ProfileSpec.schema : Schema :=
  .described
    ("A reusable set of init containers, sidecar containers and volumes which roles can pull " ++
      "into\ntheir pods by name.")
    (.object []
      [ ("initContainers",
          .withDefault ((Codec.list Container.codec).encode []) (.list .platform)),
        ("containers", .withDefault ((Codec.list Container.codec).encode []) (.list .platform)),
        ("volumes", .withDefault ((Codec.list Volume.codec).encode []) (.list .platform)) ])

/-! ## Definitions -/

namespace ResourceType

variable {α : Type}

/-- The names of a type of custom resources. -/
def names (type : ResourceType α) (shortNames : List String) : Json :=
  .object
    [ ("categories", .array []), ("kind", .text type.kind), ("plural", .text type.plural),
      ("shortNames", .array (shortNames.map .text)),
      ("singular", .text (String.ofList (type.kind.toList.map Char.toLower))) ]

/-- The schema of a type of custom resources, given that of its specification. -/
def schema (type : ResourceType α) (spec : Schema) : Schema :=
  .described ("Auto-generated derived type for " ++ type.kind ++ "Spec via `CustomResource`")
    (.titled type.kind (.object ["spec"] [("spec", spec)]))

/-- The only version of a type of custom resources. -/
def version (type : ResourceType α) (spec : Schema) (foreign : Json) : Json :=
  .object
    [ ("additionalPrinterColumns", .array []), ("name", .text customVersion),
      ("schema", .object [("openAPIV3Schema", (type.schema spec).json foreign)]),
      ("served", .bool true), ("storage", .bool true), ("subresources", .object []) ]

/-- The definition of a type of custom resources with its short names and the schema of its
specification. `foreign` stands in place of the schemas of the platform's own types. -/
def definition (type : ResourceType α) (shortNames : List String) (spec : Schema)
    (foreign : Json) : Json :=
  .object
    [ ("apiVersion", .text "apiextensions.k8s.io/v1"), ("kind", .text "CustomResourceDefinition"),
      ("metadata", .object [("name", .text (type.plural ++ "." ++ customApi))]),
      ("spec", .object
        [ ("group", .text customApi), ("names", type.names shortNames),
          ("scope", .text (if type.namespaced then "Namespaced" else "Cluster")),
          ("versions", .array [type.version spec foreign]) ]) ]

end ResourceType

/-- The definition of groups. -/
def RoleBasedGroup.definition (foreign : Json) : Json :=
  ResourceType.group.definition ["rbg"] GroupSpec.schema foreign

/-- The definition of runtime profiles. -/
def RuntimeProfile.definition (foreign : Json) : Json :=
  ResourceType.profile.definition [] ProfileSpec.schema foreign

end RoleDiscovery
