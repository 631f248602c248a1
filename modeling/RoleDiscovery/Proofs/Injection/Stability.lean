import Mathlib.Data.List.Forall2
import RoleDiscovery.Proofs.Environment.Canonical
import RoleDiscovery.Proofs.Injection.Contents
import RoleDiscovery.Proofs.Injection.Convergence

/-!
# What a template does not show

Pods are restarted when their template changes. Of its group a template shows the name only, and of
its role the name, the kind of workload and what its references bring. So nothing else may change
the template: not the topology, not what is done to the ConfigMap that holds it, and not the order
in which the variables of a container were declared.

Results:

* `Container.Shuffled`, `PodSpec.Shuffled`, `PodTemplate.Shuffled`: the same up to the order of
  variables.
* `PodTemplate.injected_congr`: what comes out depends on no more of a group and a role.
* `injection_hides_topology`: two injections that have these in common.
-/

namespace RoleDiscovery

open RoleDiscovery.Action

/-! ## The order of variables -/

/-- Two containers that are the same up to the order of their variables, which have distinct names
if they differ in it. -/
structure Container.Shuffled (container other : Container) : Prop where
  frame : other = { container with env := other.env }
  env : other.env = container.env ∨
    ((container.env.getD []).Perm (other.env.getD []) ∧
      ((container.env.getD []).map EnvVar.name).Nodup)

/-- Two pods that are the same up to the order of variables in their containers. -/
structure PodSpec.Shuffled (spec other : PodSpec) : Prop where
  frame : other = { spec with containers := other.containers }
  containers : List.Forall₂ Container.Shuffled spec.containers other.containers

/-- Two templates that are the same up to the order of variables in the containers of their pods. -/
structure PodTemplate.Shuffled (template other : PodTemplate) : Prop where
  frame : other = { template with spec := other.spec }
  spec : Option.Rel PodSpec.Shuffled template.spec other.spec

theorem Container.Shuffled.refl (container : Container) : container.Shuffled container where
  frame := rfl
  env := .inl rfl

theorem PodSpec.Shuffled.refl (spec : PodSpec) : spec.Shuffled spec where
  frame := rfl
  containers := List.forall₂_same.2 fun container _ => .refl container

theorem PodTemplate.Shuffled.refl (template : PodTemplate) : template.Shuffled template where
  frame := rfl
  spec := by
    cases template.spec with
    | none => exact .none
    | some spec => exact .some (.refl spec)

/-- Variables that are merged into a container come out in one order. -/
theorem Container.Shuffled.mergeEnv {container other : Container} (h : container.Shuffled other)
    (env : List EnvVar) : other.mergeEnv env = container.mergeEnv env := by
  have hmerge : EnvVar.merge (other.env.getD []) env =
      EnvVar.merge (container.env.getD []) env := by
    rcases h.env with heq | ⟨hperm, hnodup⟩
    · rw [heq]
    · exact EnvVar.merge_perm_left hperm hnodup
  rw [Container.mergeEnv, hmerge, h.frame]
  rfl

/-! ## What is shown of a role -/

section

variable {group group' : RoleBasedGroup} {role role' : RoleSpec}

theorem workloadName_congr (hgroup : group.name = group'.name) (hrole : role.name = role'.name) :
    group'.workloadName role' = group.workloadName role := by
  rw [RoleBasedGroup.workloadName, RoleBasedGroup.workloadName, hgroup, hrole]

variable (hgroup : group.name = group'.name) (hrole : role.name = role'.name)
  (hkind : role.workloadKind = role'.workloadKind)

include hgroup hrole in
theorem discoveryProfile_congr : discoveryProfile group' role' = discoveryProfile group role := by
  rw [discoveryProfile, discoveryProfile, clusterConfigVolume, clusterConfigVolume,
    workloadName_congr hgroup hrole]

include hgroup hrole hkind

theorem environment_congr : environment group' role' = environment group role := by
  rw [environment, environment, workloadName_congr hgroup hrole, hgroup, hrole, hkind]

/-- The mount is not among the variables, so these may be merged first. -/
theorem Container.Shuffled.prepare {container other : Container} (h : container.Shuffled other) :
    other.prepare group' role' = container.prepare group role := by
  have hmerge := h.mergeEnv (environment group role)
  rw [Container.prepare, environment_congr hgroup hrole hkind]
  exact congrArg (fun container => Container.addMount container clusterConfigMount) hmerge

theorem PodSpec.Shuffled.prepare {spec other : PodSpec} (h : spec.Shuffled other) :
    other.prepare group' role' = spec.prepare group role := by
  have hcontainers : other.containers.map (fun container => container.prepare group' role') =
      spec.containers.map fun container => container.prepare group role := by
    rw [← List.forall₂_eq_eq_eq, List.forall₂_map_left_iff, List.forall₂_map_right_iff]
    exact h.containers.flip.imp fun _ _ hc => hc.prepare hgroup hrole hkind
  rw [PodSpec.prepare, hcontainers, discoveryProfile_congr hgroup hrole, h.frame]
  rfl

/-- What comes out depends on the name of the group, the name and kind of the role and what the
references bring. -/
theorem PodTemplate.injected_congr {template other : PodTemplate} (h : template.Shuffled other)
    (supplies : List Supply) :
    other.injected group' role' supplies = template.injected group role supplies := by
  have hspec : (template.spec.getD {}).Shuffled (other.spec.getD {}) := by
    have hrel := h.spec
    revert hrel
    cases template.spec <;> cases other.spec <;> intro hrel <;> cases hrel
    · exact .refl _
    · assumption
  rw [injected, injected, PodSpec.injected, hspec.prepare hgroup hrole hkind, h.frame]
  rfl

end

/-! ## Two injections -/

/-- Two injections that succeed make the same template if their groups have the same name and their
roles the same name, kind of workload and references, and if the stores have the same profiles for
these: whatever else the groups and roles declare, and whatever is kept of ConfigMaps. The templates
that go in may differ in the order of variables, too. -/
theorem injection_hides_topology {σ τ : Type} (store : Store σ) (store' : Store τ)
    (contents : σ → Contents) (contents' : τ → Contents) (hk : store.Keeps contents)
    (hk' : store'.Keeps contents') (s : σ) (t : τ) (group group' : RoleBasedGroup)
    (role role' : RoleSpec) (hgroup : group.name = group'.name) (hrole : role.name = role'.name)
    (hkind : role.workloadKind = role'.workloadKind)
    (hreferences : role.engineRuntimes = role'.engineRuntimes)
    (hprofiles : ∀ reference ∈ role.engineRuntimes,
      (contents s).profile? reference.profileName = (contents' t).profile? reference.profileName) :
    let run := fun template => (inject group role template).run store s
    let run' := fun template => (inject group' role' template).run store' t
    (∀ template, (run template).result.2 = .ok () → (run' template).result.2 = .ok () →
      (run template).result.1 = (run' template).result.1) ∧
    ∀ template shuffled, template.Shuffled shuffled → (run template).result.2 = .ok () →
      (run' shuffled).result.2 = .ok () →
      (run template).result.1 = (run' shuffled).result.1 := by
  intro run run'
  have hsame : ∀ template shuffled, template.Shuffled shuffled →
      (run template).result.2 = .ok () → (run' shuffled).result.2 = .ok () →
      (run template).result.1 = (run' shuffled).result.1 := by
    intro template shuffled hshuffled hok hok'
    have heffect : effect store (inject group role template) s =
        (((run template).result.1, .ok ()), (run template).store, (run template).calls) := by
      rw [← hok]
      rfl
    have heffect' : effect store' (inject group' role' shuffled) t =
        (((run' shuffled).result.1, .ok ()), (run' shuffled).store, (run' shuffled).calls) := by
      rw [← hok']
      rfl
    obtain ⟨supplies, hsupplies, hafter⟩ := supplies_of_inject hk heffect
    obtain ⟨supplies', hsupplies', hafter'⟩ := supplies_of_inject hk' heffect'
    have heq : supplies' = supplies := by
      rw [← hreferences, ← Contents.mapM_supply?_congr hprofiles, hsupplies] at hsupplies'
      exact (Option.some.inj hsupplies').symm
    rw [hafter, hafter', heq]
    exact (PodTemplate.injected_congr hgroup hrole hkind hshuffled supplies).symm
  exact ⟨fun template => hsame template template (.refl template), hsame⟩

/-- The same role in a group that has moved and grown, with another uid. -/
def grownRole : RoleSpec :=
  { assistedRole with
    replicas := some 5
    leaderWorkerSet := { size := some 2 } }

/-- That group. -/
def grownGroup : RoleBasedGroup where
  metadata := { name := some "serving", ns := some "prod", uid := some "81" }
  spec := { roles := [{ name := "router" }, grownRole] }

/-- A store that holds a ConfigMap under the key of that role already. -/
def grownMemory : Memory :=
  { assistedMemory with
    configMaps :=
      [{ metadata := { name := some "serving-worker", ns := some "prod" } }] }

/-- A template whose container declares two variables, in the order in which they are given. -/
def templateWith (env : List EnvVar) : PodTemplate where
  spec := some { containers := [{ name := "main", env := some env }] }

/-- In one store the ConfigMap is created, in the other one it is replaced. The templates have their
variables in different order, and come out the same. -/
theorem injection_hides_topology_of_grown :
    let home := EnvVar.ofValue "HOME" "/"
    let path := EnvVar.ofValue "PATH" "/bin"
    let template := templateWith [path, home]
    let shuffled := templateWith [home, path]
    let run := (inject assistedGroup assistedRole template).run Memory.store assistedMemory
    let run' := (inject grownGroup grownRole shuffled).run Memory.store grownMemory
    template ≠ shuffled ∧ ClusterConfig.ofGroup assistedGroup ≠ ClusterConfig.ofGroup grownGroup ∧
      run.result.2 = .ok () ∧ run'.result.2 = .ok () ∧ run.result.1 = run'.result.1 := by
  intro home path template shuffled run run'
  have hshuffled : template.Shuffled shuffled :=
    ⟨rfl, .some ⟨rfl, .cons ⟨rfl, .inr ⟨.swap home path [], by decide⟩⟩ .nil⟩⟩
  have hok : run.result.2 = .ok () := rfl
  have hok' : run'.result.2 = .ok () := rfl
  refine ⟨by decide, by decide, hok, hok', ?_⟩
  exact (injection_hides_topology Memory.store Memory.store Memory.contents Memory.contents
    Memory.keeps Memory.keeps assistedMemory grownMemory assistedGroup grownGroup assistedRole
    grownRole rfl rfl rfl rfl (fun _ _ => rfl)).2 template shuffled hshuffled hok hok'

end RoleDiscovery
