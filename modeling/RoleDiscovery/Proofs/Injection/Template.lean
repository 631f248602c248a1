import RoleDiscovery.Injection
import RoleDiscovery.Proofs.Sidecar.Profiles

/-!
# What injection makes of a template

The template that comes out is a function of the template that goes in and of what the references
bring. The discovery volume is merged like the volume of a profile. A template that came out has
this volume and all profiles, so that the next run only works on its containers: each gets the
mount, the variables and its overrides, and that is the same however often it is done.

Results:

* `PodTemplate.injected`: the template that comes out.
* `Container.prepare_overrideAll`: nothing is left to do on a container the second time.
* `PodSpec.injected_of_complete`: what is done to a pod that came out.
* `PodTemplate.injected_injected_injected`: the third run makes what the second made.
-/

namespace RoleDiscovery

variable {group : RoleBasedGroup} {role : RoleSpec}

/-! ## Containers -/

namespace Container

/-- A container with what every container of a role gets: the discovery mount and the variables. -/
def prepare (container : Container) (group : RoleBasedGroup) (role : RoleSpec) : Container :=
  (container.addMount clusterConfigMount).mergeEnv (environment group role)

@[simp] theorem name_prepare (container : Container) :
    (container.prepare group role).name = container.name := rfl

/-- Overrides come after the mount and leave it alone. -/
theorem volumeMounts_overrideAll (container : Container) (changes : List ContainerOverride) :
    ((container.prepare group role).overrideAll changes).volumeMounts =
      (container.addMount clusterConfigMount).volumeMounts := by
  rw [prepare, overrideAll_mergeEnv]
  rfl

theorem addMount_of_volumeMounts {container other : Container}
    (h : other.volumeMounts = (container.addMount clusterConfigMount).volumeMounts) :
    other.addMount clusterConfigMount = other := by
  have hmerge : some (Keyed.merge VolumeMount.key (other.volumeMounts.getD [])
      [clusterConfigMount]) = other.volumeMounts := by
    rw [h]
    exact congrArg some Keyed.merge_merge_self
  rw [addMount, hmerge]

/-- What was done to a container once is not done again. -/
theorem prepare_overrideAll (container : Container) (changes : List ContainerOverride) :
    (((container.prepare group role).overrideAll changes).prepare group role).overrideAll changes =
      (container.prepare group role).overrideAll changes := by
  have hmount : ((container.prepare group role).overrideAll changes).addMount clusterConfigMount =
      (container.prepare group role).overrideAll changes :=
    addMount_of_volumeMounts (volumeMounts_overrideAll container changes)
  rw [prepare, hmount]
  exact overrideAll_mergeEnv_self _ _ _

end Container

/-- Containers with the mount, the variables and their overrides. -/
def refresh (group : RoleBasedGroup) (role : RoleSpec) (changes : List ContainerOverride)
    (containers : List Container) : List Container :=
  overrideContainers (containers.map fun container => container.prepare group role) changes

theorem refresh_cons (changes : List ContainerOverride) (container : Container)
    (containers : List Container) :
    refresh group role changes (container :: containers) =
      (container.prepare group role).overrideAll
          (changes.filter fun change => container.name = change.name) ::
        refresh group role (changes.filter fun change => container.name ≠ change.name)
          containers :=
  overrideContainers_cons _ _ _

/-- The induction is on the containers: what the first one is not given is left for the others. -/
theorem refresh_refresh (changes : List ContainerOverride) (containers : List Container) :
    refresh group role changes (refresh group role changes containers) =
      refresh group role changes containers := by
  induction containers generalizing changes with
  | nil => rw [refresh, refresh, List.map_nil, overrideContainers_nil, List.map_nil,
      overrideContainers_nil]
  | cons container containers ih =>
    rw [refresh_cons, refresh_cons]
    simp only [Container.name_overrideAll, Container.name_prepare]
    rw [ih, Container.prepare_overrideAll]

/-! ## Pods -/

/-- The discovery volume of a role, as what a profile would bring. -/
def discoveryProfile (group : RoleBasedGroup) (role : RoleSpec) : ProfileSpec where
  volumes := [clusterConfigVolume group role]

namespace PodSpec

variable {spec : PodSpec} {profile : ProfileSpec} {supplies : List Supply}

/-- A pod with the discovery volume, and with what every container of the role gets. -/
def prepare (spec : PodSpec) (group : RoleBasedGroup) (role : RoleSpec) : PodSpec :=
  { spec.addProfile (discoveryProfile group role) with
    containers := spec.containers.map fun container => container.prepare group role }

theorem map_name_prepare (containers : List Container) :
    (containers.map fun container => container.prepare group role).map Container.name =
      containers.map Container.name := by
  rw [List.map_map]
  rfl

theorem has_prepare : (spec.prepare group role).Has (discoveryProfile group role) :=
  has_withContainers (map_name_prepare _) has_addProfile

/-- What comes out for a pod. -/
def injected (spec : PodSpec) (group : RoleBasedGroup) (role : RoleSpec) (supplies : List Supply) :
    PodSpec :=
  (spec.prepare group role).addSupplies supplies

/-- A pod has the discovery volume and all profiles of a role. -/
structure Complete (spec : PodSpec) (group : RoleBasedGroup) (role : RoleSpec)
    (supplies : List Supply) : Prop where
  volume : spec.Has (discoveryProfile group role)
  supplies : ∀ supply ∈ supplies, spec.Has supply.profile

theorem complete_injected : (spec.injected group role supplies).Complete group role supplies where
  volume := has_addSupplies_of_has has_prepare
  supplies _ hm := has_addSupplies hm

/-- On a pod that is complete only the containers are worked on. -/
theorem injected_of_complete (h : spec.Complete group role supplies) :
    spec.injected group role supplies =
      { spec with
        containers := refresh group role (supplies.flatMap Supply.overrides) spec.containers } := by
  have hprepare : spec.prepare group role =
      { spec with
        containers := spec.containers.map fun container => container.prepare group role } := by
    rw [prepare, addProfile_of_has h.volume]
  have hhas : ∀ supply ∈ supplies, (spec.prepare group role).Has supply.profile := by
    intro supply hm
    rw [hprepare]
    exact has_withContainers (map_name_prepare _) (h.supplies supply hm)
  rw [injected, addSupplies_of_has hhas, hprepare]
  rfl

/-- A pod that came out twice comes out the same the third time. -/
theorem injected_injected_injected (spec : PodSpec) (supplies : List Supply) :
    ((spec.injected group role supplies).injected group role supplies).injected group role
        supplies =
      (spec.injected group role supplies).injected group role supplies := by
  have hcomplete : (spec.injected group role supplies).Complete group role supplies :=
    complete_injected
  generalize spec.injected group role supplies = once at hcomplete
  have hagain : (once.injected group role supplies).Complete group role supplies :=
    complete_injected
  rw [injected_of_complete hagain, injected_of_complete hcomplete, refresh_refresh]

end PodSpec

/-! ## Templates -/

namespace PodTemplate

/-- What comes out for a template. -/
def injected (template : PodTemplate) (group : RoleBasedGroup) (role : RoleSpec)
    (supplies : List Supply) : PodTemplate :=
  { template with spec := some ((template.spec.getD {}).injected group role supplies) }

theorem injected_injected_injected (template : PodTemplate) (supplies : List Supply) :
    ((template.injected group role supplies).injected group role supplies).injected group role
        supplies =
      (template.injected group role supplies).injected group role supplies :=
  congrArg (fun spec => { template with spec := some spec })
    (PodSpec.injected_injected_injected (template.spec.getD {}) supplies)

/-- The three steps on a template, in a row. -/
theorem injected_eq (template : PodTemplate) (supplies : List Supply) :
    ((template.addClusterConfig group role).injectEnv (environment group role)).addSupplies
        supplies =
      template.injected group role supplies := by
  have hspec : ((template.addClusterConfig group role).injectEnv (environment group role)).spec =
      some ((template.spec.getD {}).prepare group role) := by
    apply congrArg some
    unfold PodSpec.addVolume PodSpec.prepare
    dsimp only
    rw [List.map_map]
    rfl
  rw [addSupplies_of_spec hspec]
  rfl

end PodTemplate

end RoleDiscovery
