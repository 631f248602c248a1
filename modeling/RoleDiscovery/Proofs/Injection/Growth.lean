import RoleDiscovery.Proofs.Injection.Failure

/-!
# What injection leaves alone

An injection only adds. What a template has stays in its place and as it is, except for the mounts,
the variables and the arguments of its containers; of these no mount and no name of a variable is
lost. That an injection fails makes no difference: up to its failure it has done what it would have
done for fewer references.

Results:

* `Container.Grown`, `PodSpec.Grown`, `PodTemplate.Grown`: what may have become of a container, a
  pod and a template.
* `PodSpec.Grown.addVolume`, `PodSpec.Grown.mergeEnv`, `PodSpec.Grown.addSupplies`: what each step
  makes of a pod.
* `template_injectReferences`, `template_inject`: what comes out, on any store and whatever fails.
* `injection_only_adds`: what every step and the whole injection leave alone.
-/

namespace RoleDiscovery

/-! ## Containers -/

/-- A container after additions: it has further mounts, at places of their own, it has no fewer
names of variables, and apart from its arguments it is what it was. -/
structure Container.Grown (before after : Container) : Prop where
  frame : after =
    { before with args := after.args, env := after.env, volumeMounts := after.volumeMounts }
  mounts : before.volumeMounts.getD [] <+: after.volumeMounts.getD []
  nodup_mounts : ((after.volumeMounts.getD []).map VolumeMount.key).Nodup
  names : (before.env.getD []).map EnvVar.name ⊆ (after.env.getD []).map EnvVar.name

namespace Container

variable {container before after : Container}

theorem Grown.refl (h : ((container.volumeMounts.getD []).map VolumeMount.key).Nodup) :
    container.Grown container where
  frame := rfl
  mounts := List.prefix_refl _
  nodup_mounts := h
  names := List.Subset.refl _

theorem Grown.trans {last : Container} (h : before.Grown after) (h' : after.Grown last) :
    before.Grown last where
  frame := by
    have hlast := h'.frame
    rw [h.frame] at hlast
    exact hlast
  mounts := h.mounts.trans h'.mounts
  nodup_mounts := h'.nodup_mounts
  names := List.Subset.trans h.names h'.names

variable (h : ((container.volumeMounts.getD []).map VolumeMount.key).Nodup)

include h

theorem grown_addMount (mount : VolumeMount) : container.Grown (container.addMount mount) where
  frame := rfl
  mounts := Keyed.prefix_merge h
  nodup_mounts := Keyed.nodup_merge
  names := List.Subset.refl _

theorem grown_mergeEnv (env : List EnvVar) : container.Grown (container.mergeEnv env) where
  frame := rfl
  mounts := List.prefix_refl _
  nodup_mounts := h
  names _ hm := EnvVar.mem_map_name_merge.2 (.inl hm)

theorem grown_override (change : ContainerOverride) :
    container.Grown (container.override change) where
  frame := by rw [override_eq]
  mounts := by
    simp only [volumeMounts_override, List.prefix_refl]
  nodup_mounts := by
    rw [volumeMounts_override]
    exact h
  names := by
    rw [override_eq]
    dsimp only
    split_ifs
    · exact List.Subset.refl _
    · exact fun _ hm => EnvVar.mem_map_name_merge.2 (.inl hm)

end Container

/-! ## Containers in a row -/

/-- A row of containers after additions: the containers that were there are the first ones still,
and others may follow. -/
def ContainersGrown (before after : List Container) : Prop :=
  ∃ kept added, after = kept ++ added ∧ List.Forall₂ Container.Grown before kept

section

variable {before after : List Container}

theorem ContainersGrown.of_prefix {last : List Container} (h : ContainersGrown before after)
    (hp : after <+: last) : ContainersGrown before last := by
  obtain ⟨kept, added, rfl, hkept⟩ := h
  obtain ⟨rest, rfl⟩ := hp
  exact ⟨kept, added ++ rest, List.append_assoc _ _ _, hkept⟩

/-- What only adds to single containers adds to them in a row. -/
theorem ContainersGrown.map {change : Container → Container}
    (hc : ∀ container : Container, ((container.volumeMounts.getD []).map VolumeMount.key).Nodup →
      container.Grown (change container)) (h : ContainersGrown before after) :
    ContainersGrown before (after.map change) := by
  obtain ⟨kept, added, rfl, hkept⟩ := h
  refine ⟨kept.map change, added.map change, List.map_append, ?_⟩
  rw [List.forall₂_map_right_iff]
  exact hkept.imp fun _ _ hgrown => hgrown.trans (hc _ hgrown.nodup_mounts)

/-- An override changes a container that was there, or one that follows, and no place. -/
theorem ContainersGrown.overrideContainer (change : ContainerOverride)
    (h : ContainersGrown before after) :
    ContainersGrown before (overrideContainer after change) := by
  obtain ⟨kept, added, rfl, hkept⟩ := h
  induction hkept with
  | nil => exact ⟨[], _, rfl, .nil⟩
  | @cons first container before kept hfirst hkept ih =>
    by_cases hname : container.name = change.name
    · refine ⟨container.override change :: kept, added, ?_, ?_⟩
      · rw [List.cons_append, overrideContainer_of_eq hname, List.cons_append]
      · exact .cons (hfirst.trans (Container.grown_override hfirst.nodup_mounts change)) hkept
    · obtain ⟨rest, others, heq, hrest⟩ := ih
      refine ⟨container :: rest, others, ?_, .cons hfirst hrest⟩
      rw [List.cons_append, overrideContainer_of_ne hname, heq, List.cons_append]

theorem ContainersGrown.overrideContainers (changes : List ContainerOverride)
    (h : ContainersGrown before after) :
    ContainersGrown before (overrideContainers after changes) := by
  induction changes generalizing after with
  | nil => exact h
  | cons change changes ih => exact ih (h.overrideContainer change)

end

/-! ## Pods -/

/-- Of the containers, the init containers and the volumes of a pod no two have the same name. -/
structure PodSpec.Distinct (spec : PodSpec) : Prop where
  containers : (spec.containers.map Container.name).Nodup
  initContainers : (namesOf Container.name spec.initContainers).Nodup
  volumes : (namesOf Volume.name spec.volumes).Nodup

/-- A pod after additions: what it had comes first, in the same order and as it was, up to what
containers are given; no name is taken twice, and there is nothing else that has changed. -/
structure PodSpec.Grown (before after : PodSpec) : Prop where
  frame : after =
    { before with
      containers := after.containers
      initContainers := after.initContainers
      volumes := after.volumes }
  containers : ContainersGrown before.containers after.containers
  initContainers : before.initContainers.getD [] <+: after.initContainers.getD []
  volumes : before.volumes.getD [] <+: after.volumes.getD []
  distinct : after.Distinct

section

variable {α : Type} {name : α → String} {existing : Option (List α)} {items additions : List α}

theorem prefix_mergeOptional (h : (namesOf name existing).Nodup) :
    existing.getD [] <+: (mergeOptional name existing additions).getD [] := by
  rw [mergeOptional]
  split_ifs
  · exact List.prefix_refl _
  · exact Keyed.prefix_merge h

theorem nodup_mergeOptional (h : (namesOf name existing).Nodup) :
    (namesOf name (mergeOptional name existing additions)).Nodup := by
  rw [mergeOptional]
  split_ifs
  · exact h
  · exact Keyed.nodup_merge

theorem prefix_mergeNamed (h : (items.map name).Nodup) :
    items <+: mergeNamed name items additions := by
  have hnames : (namesOf name (some items)).Nodup := h
  have hset : items <+: (mergeOptional name (some items) additions).getD [] :=
    prefix_mergeOptional hnames
  rw [← some_mergeNamed] at hset
  exact hset

theorem nodup_mergeNamed (h : (items.map name).Nodup) :
    ((mergeNamed name items additions).map name).Nodup := by
  have hnames : (namesOf name (some items)).Nodup := h
  have hset : (namesOf name (mergeOptional name (some items) additions)).Nodup :=
    nodup_mergeOptional hnames
  rw [← some_mergeNamed] at hset
  exact hset

end

namespace PodSpec

variable {before spec : PodSpec}

theorem Grown.refl (h : spec.Distinct)
    (hm : ∀ container ∈ spec.containers,
      ((container.volumeMounts.getD []).map VolumeMount.key).Nodup) : spec.Grown spec where
  frame := rfl
  containers := by
    refine ⟨spec.containers, [], (List.append_nil _).symm, ?_⟩
    exact List.forall₂_same.2 fun container hc => Container.Grown.refl (hm container hc)
  initContainers := List.prefix_refl _
  volumes := List.prefix_refl _
  distinct := h

/-- Containers may be replaced by others that have grown out of the same ones. -/
theorem Grown.withContainers {containers : List Container} (h : before.Grown spec)
    (hc : ContainersGrown before.containers containers)
    (hnames : containers.map Container.name = spec.containers.map Container.name) :
    before.Grown { spec with containers } where
  frame := by
    rw [h.frame]
  containers := hc
  initContainers := h.initContainers
  volumes := h.volumes
  distinct :=
    { containers := by
        show (containers.map Container.name).Nodup
        rw [hnames]
        exact h.distinct.containers
      initContainers := h.distinct.initContainers
      volumes := h.distinct.volumes }

theorem Grown.addProfile (h : before.Grown spec) (profile : ProfileSpec) :
    before.Grown (spec.addProfile profile) where
  frame := by
    rw [h.frame]
    rfl
  containers := by
    refine h.containers.of_prefix ?_
    show spec.containers <+: mergeNamed Container.name spec.containers profile.containers
    exact prefix_mergeNamed h.distinct.containers
  initContainers := h.initContainers.trans (prefix_mergeOptional h.distinct.initContainers)
  volumes := h.volumes.trans (prefix_mergeOptional h.distinct.volumes)
  distinct :=
    { containers := nodup_mergeNamed h.distinct.containers
      initContainers := nodup_mergeOptional h.distinct.initContainers
      volumes := nodup_mergeOptional h.distinct.volumes }

theorem Grown.addSupply (h : before.Grown spec) (supply : Supply) :
    before.Grown (spec.addSupply supply) := by
  have hprofile := h.addProfile supply.profile
  exact hprofile.withContainers (hprofile.containers.overrideContainers supply.overrides)
    (map_name_overrideContainers _ _)

theorem Grown.addSupplies (h : before.Grown spec) (supplies : List Supply) :
    before.Grown (spec.addSupplies supplies) := by
  induction supplies generalizing spec with
  | nil => exact h
  | cons supply supplies ih => exact ih (h.addSupply supply)

/-- The discovery volume is added like a volume of a profile. -/
theorem Grown.addVolume (h : before.Grown spec) (volume : Volume) (mount : VolumeMount) :
    before.Grown (spec.addVolume volume mount) := by
  have hvolume := h.addProfile { volumes := [volume] }
  refine hvolume.withContainers ?_ ?_
  · exact h.containers.map fun _ hn => Container.grown_addMount hn mount
  · rw [List.map_map]
    rfl

theorem Grown.mergeEnv (h : before.Grown spec) (env : List EnvVar) :
    before.Grown { spec with containers := spec.containers.map (·.mergeEnv env) } := by
  refine h.withContainers ?_ ?_
  · exact h.containers.map fun _ hn => Container.grown_mergeEnv hn env
  · rw [List.map_map]
    rfl

end PodSpec

/-! ## Templates -/

/-- A template after additions to its pod; a missing pod counts as an empty one. -/
structure PodTemplate.Grown (before after : PodTemplate) : Prop where
  metadata : after.metadata = before.metadata
  spec : (before.spec.getD {}).Grown (after.spec.getD {})

namespace PodTemplate

variable {before template : PodTemplate}

theorem Grown.addClusterConfig (h : before.Grown template) (group : RoleBasedGroup)
    (role : RoleSpec) : before.Grown (template.addClusterConfig group role) where
  metadata := h.metadata
  spec := h.spec.addVolume _ _

theorem Grown.injectEnv (h : before.Grown template) (env : List EnvVar) :
    before.Grown (template.injectEnv env) where
  metadata := h.metadata
  spec := by
    obtain ⟨metadata, spec⟩ := template
    cases spec with
    | none => exact h.spec
    | some spec => exact h.spec.mergeEnv env

theorem Grown.addSupplies (h : before.Grown template) (supplies : List Supply) :
    before.Grown (template.addSupplies supplies) := by
  induction supplies generalizing template with
  | nil => exact h
  | cons supply supplies ih => exact ih ⟨h.metadata, h.spec.addSupply supply⟩

end PodTemplate

/-! ## Runs -/

section

open RoleDiscovery.Action

variable {σ : Type} (store : Store σ) (s : σ) (group : RoleBasedGroup) (role : RoleSpec)
  (template : PodTemplate)

/-- Whether or not all references can be had, what comes out is what some of them bring. -/
theorem template_injectReferences (references : List EngineRuntime) :
    ∃ supplies, (effect store (injectReferences role.name references template) s).1.1 =
      template.addSupplies supplies := by
  -- nothing is asked of the store, so any read will do
  have hany : ∀ {s t} {reference : EngineRuntime} {profile}, True →
      store.getProfile reference.profileName s = (.ok (some profile), t) → True ∧ True :=
    fun _ _ => ⟨trivial, trivial⟩
  obtain ⟨after, t, hall⟩ | ⟨k, _, _, failure, after, t, u, _, hcut, _, _, hrefused⟩ :=
    effect_injectReferences_cases store role.name references template s
  · obtain ⟨supplies, -, hafter⟩ :=
      supplies_of_injectReferences (fun _ => True) (fun _ _ => True) hany trivial hall
    exact ⟨supplies, by rw [hall, hafter]⟩
  · obtain ⟨supplies, -, hafter⟩ :=
      supplies_of_injectReferences (fun _ => True) (fun _ _ => True) hany trivial hcut
    exact ⟨supplies, by rw [hrefused, hafter]⟩

theorem template_injectSidecars :
    ∃ supplies, ((injectSidecars role template).run store s).result.1 =
      template.addSupplies supplies := by
  obtain ⟨supplies, hsupplies⟩ :=
    template_injectReferences store s role template role.engineRuntimes
  refine ⟨supplies, ?_⟩
  rw [← hsupplies]
  exact congrArg Prod.fst (run_of_effect (effect_injectSidecars rfl)).1

theorem template_injectConfig :
    ((injectConfig group role template).run store s).result.1 = template ∨
      ((injectConfig group role template).run store s).result.1 =
        template.addClusterConfig group role := by
  rcases hreconcile : effect store (reconcile group role (ClusterConfig.ofGroup group)) s with
    ⟨cause | decision, t, calls⟩
  · exact .inl (congrArg Prod.fst (run_of_effect (effect_injectConfig_error hreconcile)).1)
  · exact .inr (congrArg Prod.fst (run_of_effect (effect_injectConfig_ok hreconcile)).1)

theorem template_inject :
    ((inject group role template).run store s).result.1 = template ∨
      ∃ supplies, ((inject group role template).run store s).result.1 =
        ((template.addClusterConfig group role).injectEnv (environment group role)).addSupplies
          supplies := by
  rcases hreconcile : effect store (reconcile group role (ClusterConfig.ofGroup group)) s with
    ⟨cause | decision, t, calls⟩
  · exact .inl (congrArg Prod.fst (run_of_effect (effect_inject_error hreconcile)).1)
  · obtain ⟨supplies, hsupplies⟩ := template_injectReferences store t role
      ((template.addClusterConfig group role).injectEnv (environment group role))
      role.engineRuntimes
    refine .inr ⟨supplies, ?_⟩
    rw [← hsupplies]
    exact congrArg Prod.fst (run_of_effect (effect_inject_ok hreconcile rfl)).1

end

/-- Every step of an injection and the injection as a whole only add to a template, whatever the
store answers. -/
theorem injection_only_adds {σ : Type} (store : Store σ) (s : σ) (group : RoleBasedGroup)
    (role : RoleSpec) (template : PodTemplate) (hd : (template.spec.getD {}).Distinct)
    (hm : ∀ container ∈ (template.spec.getD {}).containers,
      ((container.volumeMounts.getD []).map VolumeMount.key).Nodup) :
    ∀ step ∈ [inject group role, injectConfig group role, injectEnvironment group role,
        injectSidecars role],
      template.Grown ((step template).run store s).result.1 := by
  have hself : template.Grown template := ⟨rfl, PodSpec.Grown.refl hd hm⟩
  simp only [List.forall_mem_cons, List.not_mem_nil, false_implies, implies_true, and_true]
  refine ⟨?_, ?_, ?_, ?_⟩
  · obtain hsame | ⟨supplies, hafter⟩ := template_inject store s group role template
    · rw [hsame]
      exact hself
    · rw [hafter]
      exact ((hself.addClusterConfig group role).injectEnv _).addSupplies supplies
  · obtain hsame | hafter := template_injectConfig store s group role template
    · rw [hsame]
      exact hself
    · rw [hafter]
      exact hself.addClusterConfig group role
  · exact hself.injectEnv (environment group role)
  · obtain ⟨supplies, hafter⟩ := template_injectSidecars store s role template
    rw [hafter]
    exact hself.addSupplies supplies

/-- A template that has something of everything. -/
def furnishedTemplate : PodTemplate where
  metadata := some { name := some "serving-worker" }
  spec := some
    { containers :=
        [{ name := "main"
           args := some ["--slow"]
           env := some [EnvVar.ofValue "MODE" "plain", EnvVar.ofValue groupNameVariable "other"]
           volumeMounts := some [{ name := "data", mountPath := "/data" }] }]
      initContainers := some [{ name := "setup" }]
      volumes := some [{ name := "data" }]
      restartPolicy := some "Always" }

/-- A role whose first profile meets that template and whose second one is missing. -/
def crowdedRole : RoleSpec where
  name := "worker"
  engineRuntimes :=
    [ { profileName := "crowd"
        containers := [{ name := "main", args := ["--fast"] }, { name := "helper" }] },
      { profileName := "missing" } ]

/-- The first profile of that role. Two of its names are taken, and one it brings twice. -/
def crowdedMemory : Memory where
  profiles :=
    [{ metadata := { name := some "crowd" }
       spec :=
         { initContainers := [{ name := "setup", image := some "setup:2" }]
           containers := [{ name := "helper" }, { name := "main" }, { name := "helper" }]
           volumes := [{ name := "data" }, { name := "cache" }] } }]

/-- What was there stays there although the injection fails with its second reference. -/
theorem injection_only_adds_of_crowded :
    let run := (inject assistedGroup crowdedRole furnishedTemplate).run Memory.store crowdedMemory
    (furnishedTemplate.spec.getD {}).Distinct ∧
      (∀ container ∈ (furnishedTemplate.spec.getD {}).containers,
        ((container.volumeMounts.getD []).map VolumeMount.key).Nodup) ∧
      run.result.2 = .error (.profiles "worker" (.profileNotFound "missing" "worker")) ∧
      (run.result.1.spec.getD {}).containers.map Container.name = ["main", "helper"] ∧
      furnishedTemplate.Grown run.result.1 := by
  intro run
  have hd : (furnishedTemplate.spec.getD {}).Distinct := ⟨by decide, by decide, by decide⟩
  have hm : ∀ container ∈ (furnishedTemplate.spec.getD {}).containers,
      ((container.volumeMounts.getD []).map VolumeMount.key).Nodup := by
    decide
  refine ⟨hd, hm, rfl, rfl, ?_⟩
  exact injection_only_adds Memory.store crowdedMemory assistedGroup crowdedRole furnishedTemplate
    hd hm _ List.mem_cons_self

end RoleDiscovery
