import RoleDiscovery.Proofs.Injection.Convergence

/-!
# The first two steps of an injection

The discovery volume and the variables of a role are brought into a template independently of each
other: the one step touches volumes and mounts, the other one variables. To do either of them again
changes nothing, as the volume, the mounts and the variables are there already. A template without a
pod gets one from the first step, without containers, so that there is nothing to do for the second
one, whichever of them comes first.

Results:

* `PodTemplate.addClusterConfig_addClusterConfig`, `PodTemplate.injectEnv_injectEnv`: both steps on
  a template that they were done to.
* `PodTemplate.addClusterConfig_injectEnv`: both steps in either order.
* `effect_injectConfig_again`: the first step in a store that it was done in.
* `injection_steps_settle`: the steps in a store that works.
-/

namespace RoleDiscovery

open RoleDiscovery.Action

variable {group : RoleBasedGroup} {role : RoleSpec}

/-! ## Templates -/

theorem Container.addMount_addMount (container : Container) :
    (container.addMount clusterConfigMount).addMount clusterConfigMount =
      container.addMount clusterConfigMount :=
  addMount_of_volumeMounts rfl

/-- A pod that has the volume and the mounts does not get them again. -/
theorem PodSpec.addVolume_addVolume (spec : PodSpec) (volume : Volume) :
    (spec.addVolume volume clusterConfigMount).addVolume volume clusterConfigMount =
      spec.addVolume volume clusterConfigMount := by
  have hvolumes : Keyed.merge Volume.name
      (Keyed.merge Volume.name (spec.volumes.getD []) [volume]) [volume] =
        Keyed.merge Volume.name (spec.volumes.getD []) [volume] :=
    Keyed.merge_merge_self
  have hcontainers : (spec.containers.map (·.addMount clusterConfigMount)).map
      (·.addMount clusterConfigMount) = spec.containers.map (·.addMount clusterConfigMount) := by
    rw [List.map_map]
    exact List.map_congr_left fun container _ => container.addMount_addMount
  unfold addVolume
  dsimp only
  rw [Option.getD_some, hvolumes, hcontainers]

namespace PodTemplate

variable (template : PodTemplate)

theorem addClusterConfig_addClusterConfig (group : RoleBasedGroup) (role : RoleSpec) :
    (template.addClusterConfig group role).addClusterConfig group role =
      template.addClusterConfig group role :=
  congrArg (fun spec => { template with spec := some spec }) (PodSpec.addVolume_addVolume _ _)

/-- Containers that have the variables do not change when they get them again. -/
theorem injectEnv_injectEnv (env : List EnvVar) :
    (template.injectEnv env).injectEnv env = template.injectEnv env := by
  cases hspec : template.spec with
  | none => simp only [injectEnv, hspec, Option.map_none]
  | some spec =>
    have hcontainers : (spec.containers.map (·.mergeEnv env)).map (·.mergeEnv env) =
        spec.containers.map (·.mergeEnv env) := by
      rw [List.map_map]
      exact List.map_congr_left fun container _ => container.mergeEnv_mergeEnv_self env
    simp only [injectEnv, hspec, Option.map_some, hcontainers]

/-- Mounts and variables of a container are different fields of it. -/
theorem addClusterConfig_injectEnv (group : RoleBasedGroup) (role : RoleSpec) (env : List EnvVar) :
    (template.injectEnv env).addClusterConfig group role =
      (template.addClusterConfig group role).injectEnv env := by
  cases hspec : template.spec with
  | none =>
    simp only [injectEnv, addClusterConfig, hspec, Option.map_none, Option.getD_none,
      Option.map_some]
    rfl
  | some spec =>
    have hcontainers : (spec.containers.map (·.mergeEnv env)).map (·.addMount clusterConfigMount) =
        (spec.containers.map (·.addMount clusterConfigMount)).map (·.mergeEnv env) := by
      rw [List.map_map, List.map_map]
      rfl
    simp only [injectEnv, addClusterConfig, hspec, Option.map_some, Option.getD_some,
      PodSpec.addVolume, hcontainers]

end PodTemplate

/-! ## Stores -/

section

variable {σ : Type} {store : Store σ} {contents : σ → Contents} {working : σ → Prop} {s t : σ}
  {calls : List Call}

/-- Where the first step was done, it finds the ConfigMap as it should be. -/
theorem effect_injectConfig_again (hk : store.Keeps contents) (hw : store.Works working)
    (ht : working t) {decision : Decision}
    (h : effect store (reconcile group role (ClusterConfig.ofGroup group)) s =
      (.ok decision, t, calls)) (template : PodTemplate) :
    ∃ u, effect store (injectConfig group role (template.addClusterConfig group role)) t =
        ((template.addClusterConfig group role, .ok ()), u,
          [.getConfigMap group.namespaceOrDefault (group.workloadName role)]) ∧
      contents u = contents t := by
  obtain ⟨u, hagain, hu, -⟩ :=
    reconcile_of_heldAt hk (hw.finds _ _) ht (heldAt_of_reconcile_ok hk h)
  refine ⟨u, ?_, hu⟩
  rw [effect_injectConfig_ok hagain, PodTemplate.addClusterConfig_addClusterConfig]

end

/-- On a store that works both steps succeed. The first one, done again, makes the same template and
writes no ConfigMap; the second one, done again, makes the same template; and one after the other
they make the same template and leave the same store in either order. -/
theorem injection_steps_settle {σ : Type} (store : Store σ) (contents : σ → Contents)
    (working : σ → Prop) (hk : store.Keeps contents) (hw : store.Works working) (s : σ)
    (hs : working s) (group : RoleBasedGroup) (role : RoleSpec) (template : PodTemplate)
    (hname : group.metadata.name.isSome) (huid : group.metadata.uid.isSome) :
    let config := fun (template : PodTemplate) (s : σ) =>
      (injectConfig group role template).run store s
    let env := fun (template : PodTemplate) (s : σ) =>
      (injectEnvironment group role template).run store s
    let first := config template s
    let firstAgain := config first.result.1 first.store
    let second := env template s
    let secondAgain := env second.result.1 second.store
    let firstThenSecond := env first.result.1 first.store
    let secondThenFirst := config second.result.1 second.store
    (first.result.2 = .ok () ∧ firstAgain.result = first.result ∧
        contents firstAgain.store = contents first.store ∧
        ∀ configMap succeeded, .applyConfigMap configMap succeeded ∉ firstAgain.calls) ∧
      (second.result.2 = .ok () ∧ secondAgain.result = second.result ∧
        secondAgain.store = second.store) ∧
      firstThenSecond.result.2 = .ok () ∧ secondThenFirst.result = firstThenSecond.result ∧
        secondThenFirst.store = firstThenSecond.store := by
  intro config env first firstAgain second secondAgain firstThenSecond secondThenFirst
  obtain ⟨decision, t, calls, hreconcile, ht⟩ :=
    reconcile_of_works hw hs role (ClusterConfig.ofGroup group) hname huid
  have hconfig (template : PodTemplate) : (config template s).result =
      (template.addClusterConfig group role, .ok ()) ∧ (config template s).store = t := by
    obtain ⟨hresult, hstore, -⟩ :=
      run_of_effect (effect_injectConfig_ok hreconcile)
    exact ⟨hresult, hstore⟩
  obtain ⟨hfirst, hleft⟩ : first.result = _ ∧ first.store = t := hconfig template
  refine ⟨⟨congrArg Prod.snd hfirst, ?_⟩, ⟨rfl, ?_, rfl⟩, rfl, ?_⟩
  · obtain ⟨u, hagain, hu⟩ :=
      effect_injectConfig_again hk hw ht hreconcile template
    have hrun : firstAgain = config (template.addClusterConfig group role) t := by
      show config first.result.1 first.store = _
      rw [hfirst, hleft]
    obtain ⟨hresult, hstore, hcalls⟩ := run_of_effect hagain
    rw [hrun, hfirst, hleft]
    refine ⟨hresult, (congrArg contents hstore).trans hu, fun configMap succeeded => ?_⟩
    show _ ∉ ((injectConfig group role _).run store t).calls
    rw [hcalls]
    simp
  · have hagain := template.injectEnv_injectEnv (environment group role)
    exact congrArg (fun template => (template, Except.ok ())) hagain
  · obtain ⟨hsecond, hstore⟩ := hconfig (template.injectEnv (environment group role))
    have hthen : firstThenSecond.result =
        ((template.addClusterConfig group role).injectEnv (environment group role), .ok ()) := by
      show (first.result.1.injectEnv _, _) = _
      rw [hfirst]
    refine ⟨?_, hstore.trans hleft.symm⟩
    rw [hthen, ← PodTemplate.addClusterConfig_injectEnv]
    exact hsecond

/-- A template that names a volume, a mount and a variable twice. -/
def repetitiveTemplate : PodTemplate where
  spec := some
    { volumes := some [{ name := "data" }, clusterConfigVolume assistedGroup assistedRole,
        { name := "data", configMap := some { name := "settings" } }]
      containers :=
        [{ name := "main"
           env := some [EnvVar.ofValue roleNameVariable "a", EnvVar.ofValue roleNameVariable "b"]
           volumeMounts := some [{ name := "data", mountPath := "/data" }, clusterConfigMount,
             { name := "data", mountPath := "/data", readOnly := some true }] }] }

/-- In an empty store the ConfigMap is written by the first of two runs, and what the template names
twice is put together by the first one, too. -/
theorem injection_steps_settle_of_repetitive :
    let config := fun (template : PodTemplate) (memory : Memory) =>
      (injectConfig assistedGroup assistedRole template).run Memory.store memory
    let first := config repetitiveTemplate {}
    let again := config first.result.1 first.store
    Memory.store.Keeps Memory.contents ∧ Memory.store.Works Memory.Works ∧ Memory.Works {} ∧
      assistedGroup.metadata.name.isSome ∧ assistedGroup.metadata.uid.isSome ∧
      first.result.1 ≠ repetitiveTemplate ∧ first.result.2 = .ok () ∧ again.result = first.result ∧
      ∀ configMap succeeded, .applyConfigMap configMap succeeded ∉ again.calls := by
  intro config first again
  have hworks : Memory.Works {} := ⟨rfl, rfl⟩
  obtain ⟨⟨hok, hresult, -, hcalls⟩, -⟩ := injection_steps_settle Memory.store Memory.contents
    Memory.Works Memory.keeps Memory.works_store {} hworks assistedGroup assistedRole
    repetitiveTemplate rfl rfl
  refine ⟨Memory.keeps, Memory.works_store, hworks, rfl, rfl, ?_, hok, hresult, hcalls⟩
  have hchanged : repetitiveTemplate.addClusterConfig assistedGroup assistedRole ≠
      repetitiveTemplate := by
    decide
  exact hchanged

end RoleDiscovery
