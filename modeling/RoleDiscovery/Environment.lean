import RoleDiscovery.Group

/-!
# Environment variables of a role

The variables that tell a container which group and role it belongs to, and how they are merged into
the variables that it has.

Results:

* `environment`: the variables of a role.
* `EnvVar.merge`: one variable per name, sorted by name; the last one written wins.
* `PodTemplate.injectEnv`: merges variables into every container of a pod.
-/

namespace RoleDiscovery

/-! ## Names and labels -/

/-- The variable with the name of the group. -/
def groupNameVariable : String :=
  "GROUP_NAME"

/-- The variable with the name of the role. -/
def roleNameVariable : String :=
  "ROLE_NAME"

/-- The variable with the name of the headless service of the role. -/
def roleServiceVariable : String :=
  "ROLE_SERVICE_NAME"

/-- The variable with the ordinal of the pod, or of its leader and worker group. -/
def roleIndexVariable : String :=
  "ROLE_INDEX"

/-- The variable with the ordinal of a worker within its group. -/
def workerIndexVariable : String :=
  "LWS_WORKER_INDEX"

/-- The pod label with the ordinal in a StatefulSet. -/
def podIndexLabel : String :=
  "apps.kubernetes.io/pod-index"

/-- The pod label with the ordinal of a leader and worker group. -/
def groupIndexLabel : String :=
  "leaderworkerset.sigs.k8s.io/group-index"

/-- The pod label with the ordinal of a worker within its group. -/
def workerIndexLabel : String :=
  "leaderworkerset.sigs.k8s.io/worker-index"

/-! ## Variables -/

/-- A variable with a value of its own. -/
def EnvVar.ofValue (name value : String) : EnvVar where
  name := name
  value := some value

/-- A variable whose value is a label of the pod. -/
def EnvVar.ofPodLabel (name label : String) : EnvVar where
  name := name
  valueFrom := some { field := some { fieldPath := "metadata.labels['" ++ label ++ "']" } }

/-- The variables of every container of a role. -/
def environment (group : RoleBasedGroup) (role : RoleSpec) : List EnvVar :=
  [ EnvVar.ofValue groupNameVariable group.name,
    EnvVar.ofValue roleNameVariable role.name,
    EnvVar.ofValue roleServiceVariable (group.workloadName role) ] ++
  match role.workloadKind with
  | .statefulSet => [EnvVar.ofPodLabel roleIndexVariable podIndexLabel]
  | .leaderWorkerSet =>
    [ EnvVar.ofPodLabel roleIndexVariable groupIndexLabel,
      EnvVar.ofPodLabel workerIndexVariable workerIndexLabel ]

/-! ## Merging -/

/-- The variables of both lists, one per name and sorted by name, so that equal sets of variables
give equal templates. Of one name the last variable counts, as a whole. -/
def EnvVar.merge (env overrides : List EnvVar) : List EnvVar :=
  (SortedMap.ofList ((env ++ overrides).map fun envVar => (envVar.name, envVar))).values

/-- A container with variables merged into its own. -/
def Container.mergeEnv (container : Container) (overrides : List EnvVar) : Container :=
  { container with env := some (EnvVar.merge (container.env.getD []) overrides) }

/-- A template with variables merged into every container that is not an init container. -/
def PodTemplate.injectEnv (template : PodTemplate) (env : List EnvVar) : PodTemplate :=
  { template with
    spec := template.spec.map fun spec =>
      { spec with containers := spec.containers.map (·.mergeEnv env) } }

end RoleDiscovery
