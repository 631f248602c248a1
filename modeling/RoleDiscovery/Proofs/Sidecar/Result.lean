import RoleDiscovery.Proofs.Keyed.Joined
import RoleDiscovery.Proofs.Sidecar.Idempotence

/-!
# What profiles make of a pod

The loop over the references of a role merges a profile and applies overrides in turn. What comes of
it can be said at once: each list of the pod is followed by what it lacks of all profiles together,
and each container gets the overrides of its name from the reference on at which it is there.

Results:

* `mergeOptional_eq`: a list that may be unset, in closed form.
* `reaching`: the references whose overrides find a container.
* `PodSpec.addSupplies_eq`, `PodSpec.containers_addSupplies`: a pod after all profiles.
* `injectProfiles_result`: a template after the profiles of a role.
-/

namespace RoleDiscovery

/-! ## Lists -/

section

variable {α : Type} {name : α → String} {existing : Option (List α)}

theorem mergeOptional_eq (existing : Option (List α)) (additions : List α) :
    mergeOptional name existing additions =
      if additions = [] then existing
      else some (Keyed.joined name (existing.getD []) additions) := by
  split_ifs with h
  · rw [h, mergeOptional_nil]
  · rw [mergeOptional_of_ne_nil h, Keyed.merge_eq_joined]

/-- To merge in two steps is to merge both lists of additions at once. -/
theorem mergeOptional_mergeOptional (existing : Option (List α)) (first second : List α) :
    mergeOptional name (mergeOptional name existing first) second =
      mergeOptional name existing (first ++ second) := by
  by_cases hfirst : first = []
  · rw [hfirst, mergeOptional_nil, List.nil_append]
  by_cases hsecond : second = []
  · rw [hsecond, mergeOptional_nil, List.append_nil]
  rw [mergeOptional_of_ne_nil hfirst, mergeOptional_of_ne_nil hsecond,
    mergeOptional_of_ne_nil (List.append_ne_nil_of_left_ne_nil hfirst second), Option.getD_some,
    Keyed.merge_merge]

theorem mergeNamed_eq_joined {items : List α} (h : (items.map name).Nodup) (additions : List α) :
    mergeNamed name items additions = Keyed.joined name items additions := by
  rw [mergeNamed]
  split_ifs with hnil
  · rw [List.isEmpty_iff.1 hnil, Keyed.joined_nil h]
  · rw [Keyed.merge_eq_joined]

end

/-! ## Overrides -/

namespace Container

/-- The arguments of the last override that has any, or those that were there. -/
theorem argsAfter_eq (changes : List ContainerOverride) (args : Option (List String)) :
    argsAfter changes args =
      ((changes.map ContainerOverride.args).filter fun given => given ≠ []).getLast?.or args := by
  induction changes using List.reverseRecOn with
  | nil => rfl
  | append_singleton changes change ih =>
    rw [argsAfter, List.foldl_append, List.foldl_cons, List.foldl_nil, List.map_append,
      List.filter_append, List.getLast?_append]
    by_cases h : change.args = []
    · rw [if_pos (List.isEmpty_iff.2 h)]
      refine ih.trans ?_
      simp [h]
    · rw [if_neg (mt List.isEmpty_iff.1 h)]
      simp [h]

end Container

/-- The overrides of a name. -/
def overridesOf (name : String) (supplies : List Supply) : List ContainerOverride :=
  (supplies.flatMap Supply.overrides).filter fun change => name = change.name

/-- The names of the containers of a profile. -/
def Supply.names (supply : Supply) : List String :=
  supply.profile.containers.map Container.name

/-- The references whose overrides find the container of a name: all of them if it is there from the
start, else those from the first one on whose profile brings it. -/
def reaching (names : List String) (name : String) (supplies : List Supply) : List Supply :=
  if name ∈ names then supplies else supplies.dropWhile fun supply => name ∉ supply.names

section

variable {names : List String} {name : String} {supply : Supply} {supplies : List Supply}

theorem overridesOf_cons : overridesOf name (supply :: supplies) =
    overridesOf name [supply] ++ overridesOf name supplies := by
  simp only [overridesOf, List.flatMap_cons, List.flatMap_nil, List.append_nil, List.filter_append]

theorem reaching_of_mem (h : name ∈ names) : reaching names name supplies = supplies :=
  if_pos h

theorem reaching_cons_of_mem (h : name ∈ names ∨ name ∈ supply.names) :
    reaching names name (supply :: supplies) = supply :: supplies := by
  rw [reaching]
  split_ifs with hn
  · rfl
  · exact List.dropWhile_cons_of_neg (by simpa using h.resolve_left hn)

theorem reaching_cons_of_not_mem (hn : name ∉ names) (hs : name ∉ supply.names) :
    reaching names name (supply :: supplies) =
      supplies.dropWhile fun supply => name ∉ supply.names := by
  rw [reaching, if_neg hn]
  exact List.dropWhile_cons_of_pos (by simpa using hs)

end

namespace PodSpec

variable {spec : PodSpec} {supplies : List Supply}

/-- Profiles add to three lists of a pod. -/
theorem addSupplies_eq (spec : PodSpec) (supplies : List Supply) : spec.addSupplies supplies =
    { spec with
      initContainers := mergeOptional Container.name spec.initContainers
        (supplies.flatMap fun supply => supply.profile.initContainers)
      containers := (spec.addSupplies supplies).containers
      volumes := mergeOptional Volume.name spec.volumes
        (supplies.flatMap fun supply => supply.profile.volumes) } := by
  induction supplies generalizing spec with
  | nil => rfl
  | cons supply supplies ih =>
    rw [List.flatMap_cons, List.flatMap_cons, ← mergeOptional_mergeOptional,
      ← mergeOptional_mergeOptional]
    exact ih (spec.addSupply supply)

/-- What one reference makes of the containers. -/
theorem containers_addSupply (h : (spec.containers.map Container.name).Nodup) (supply : Supply) :
    (spec.addSupply supply).containers =
      (Keyed.joined Container.name spec.containers supply.profile.containers).map fun container =>
        container.overrideAll (overridesOf container.name [supply]) := by
  show overrideContainers (mergeNamed _ _ _) _ = _
  rw [mergeNamed_eq_joined h, overrideContainers_of_nodup Keyed.nodup_joined]
  simp only [overridesOf, List.flatMap_cons, List.flatMap_nil, List.append_nil]

theorem names_addSupply (h : (spec.containers.map Container.name).Nodup) (supply : Supply) :
    (spec.addSupply supply).containers.map Container.name =
      (Keyed.joined Container.name spec.containers supply.profile.containers).map
        Container.name := by
  rw [containers_addSupply h, List.map_map]
  exact List.map_congr_left fun container _ => Container.name_overrideAll container _

/-- The containers of a pod after all profiles. The induction is on the references: what the first
one has merged and overridden is there from the start for the others. -/
theorem containers_addSupplies (h : (spec.containers.map Container.name).Nodup)
    (supplies : List Supply) : (spec.addSupplies supplies).containers =
      (Keyed.joined Container.name spec.containers
        (supplies.flatMap fun supply => supply.profile.containers)).map fun container =>
          container.overrideAll (overridesOf container.name
            (reaching (spec.containers.map Container.name) container.name supplies)) := by
  induction supplies generalizing spec with
  | nil =>
    rw [List.flatMap_nil, Keyed.joined_nil h]
    refine (List.map_id spec.containers).symm.trans (List.map_congr_left fun container hm => ?_)
    rw [reaching_of_mem (List.mem_map_of_mem hm)]
    rfl
  | cons supply supplies ih =>
    have hnames := names_addSupply h supply
    have hnodup : ((spec.addSupply supply).containers.map Container.name).Nodup :=
      hnames ▸ Keyed.nodup_joined
    refine (ih hnodup).trans ?_
    rw [List.flatMap_cons, ← Keyed.joined_joined, Keyed.joined_of_nodup hnodup,
      Keyed.joined_of_nodup Keyed.nodup_joined, hnames, List.map_append, List.map_append,
      containers_addSupply h, List.map_map]
    congr 1
    -- a container that is there after the first reference gets the overrides of all others
    · apply List.map_congr_left
      intro container hm
      have hname : container.name ∈ (Keyed.joined Container.name spec.containers
          supply.profile.containers).map Container.name := List.mem_map_of_mem hm
      rw [Function.comp_apply, Container.name_overrideAll, reaching_of_mem hname,
        ← Container.overrideAll_append, ← overridesOf_cons,
        reaching_cons_of_mem (Keyed.mem_map_joined.1 hname)]
    -- the others are not reached by the first reference
    · apply List.map_congr_left
      intro container hm
      have hname := of_decide_eq_true (List.mem_filter.1 hm).2
      obtain ⟨hspec, hsupply⟩ := not_or.1 (mt Keyed.mem_map_joined.2 hname)
      rw [reaching, if_neg hname, reaching_cons_of_not_mem hspec hsupply]

end PodSpec

/-! ## Runs -/

theorem eq_nil_of_mapM_supply? {contents : Contents} {references : List EngineRuntime}
    {supplies : List Supply} (h : references.mapM contents.supply? = some supplies) :
    supplies = [] ↔ references = [] := by
  rw [← List.length_eq_zero_iff, ← List.length_eq_zero_iff, (mapM_eq_some.1 h).length_eq]

/-- What comes of bringing in the profiles of a role, if a store has them all and tells of them.
Without a reference the template stays as it is. Else its init containers and its volumes are joined
with those of all profiles, if these have any. So are its containers, if their names are distinct;
besides, each has the arguments of the last of the overrides that reach it, and all their variables
merged into its own. -/
theorem injectProfiles_result {σ : Type} (store : Store σ) (contents : σ → Contents)
    (reading : σ → Prop) (hk : store.Keeps contents) (role : RoleSpec)
    (hprovides : store.Provides role.engineRuntimes reading) (template : PodTemplate) (s : σ)
    (hs : reading s) (supplies : List Supply)
    (h : role.engineRuntimes.mapM (contents s).supply? = some supplies) :
    let after := ((injectProfiles role template).run store s).result
    let before := template.spec.getD {}
    let initContainers := supplies.flatMap fun supply => supply.profile.initContainers
    let containers := supplies.flatMap fun supply => supply.profile.containers
    let volumes := supplies.flatMap fun supply => supply.profile.volumes
    after.2 = .ok () ∧
    (role.engineRuntimes = [] → after.1 = template) ∧
    (role.engineRuntimes ≠ [] → ∃ spec, after.1 = { template with spec := some spec } ∧
      spec = { before with
        initContainers :=
          if initContainers = [] then before.initContainers
          else some (Keyed.joined Container.name (before.initContainers.getD []) initContainers)
        containers := spec.containers
        volumes :=
          if volumes = [] then before.volumes
          else some (Keyed.joined Volume.name (before.volumes.getD []) volumes) } ∧
      ((before.containers.map Container.name).Nodup →
        spec.containers =
          (Keyed.joined Container.name before.containers containers).map fun source =>
            let changes := overridesOf source.name
              (reaching (before.containers.map Container.name) source.name supplies)
            { source with
              args := ((changes.map ContainerOverride.args).filter
                fun given => given ≠ []).getLast?.or source.args
              env :=
                if changes.flatMap ContainerOverride.env = [] then source.env
                else some (EnvVar.merge (source.env.getD [])
                  (changes.flatMap ContainerOverride.env)) })) := by
  intro after before initContainers containers volumes
  have hafter : after = (template.addSupplies supplies, .ok ()) :=
    (run_injectProfiles hk hprovides hs h template).1
  rw [hafter]
  refine ⟨rfl, ?_, ?_⟩
  · intro hnone
    rw [(eq_nil_of_mapM_supply? h).2 hnone]
    rfl
  · intro hsome
    obtain ⟨supply, rest, rfl⟩ :=
      List.exists_cons_of_ne_nil (mt (eq_nil_of_mapM_supply? h).1 hsome)
    refine ⟨before.addSupplies (supply :: rest), PodTemplate.addSupplies_cons _ _ _, ?_, ?_⟩
    · rw [← mergeOptional_eq, ← mergeOptional_eq]
      exact PodSpec.addSupplies_eq before _
    · intro hn
      rw [PodSpec.containers_addSupplies hn]
      apply List.map_congr_left
      intro source _
      rw [Container.overrideAll_eq, Container.argsAfter_eq, Container.envAfter_eq]

/-- A role whose first reference overrides two containers, the second of which comes with its second
reference only. -/
def layeredRole : RoleSpec where
  name := "worker"
  engineRuntimes :=
    [ { profileName := "first"
        containers :=
          [{ name := "main", args := ["--quiet"] }, { name := "helper", args := ["--early"] }] },
      { profileName := "second", containers := [{ name := "helper", args := ["--late"] }] } ]

/-- Each of the two containers has the arguments of the override that reaches it. -/
theorem injectProfiles_result_of_layered :
    Memory.store.Keeps Memory.contents ∧
      Memory.store.Provides layeredRole.engineRuntimes (· = hastyMemory) ∧
      ∃ spec, ((injectProfiles layeredRole plainTemplate).run Memory.store hastyMemory).result =
          ({ plainTemplate with spec := some spec }, .ok ()) ∧
        spec.containers =
          [{ name := "main", args := some ["--quiet"] },
            { name := "helper", args := some ["--late"] }] := by
  have hprovides : Memory.store.Provides layeredRole.engineRuntimes (· = hastyMemory) :=
    Memory.provides rfl _
  obtain ⟨hok, -, hresult⟩ := injectProfiles_result Memory.store Memory.contents _ Memory.keeps
    layeredRole hprovides plainTemplate hastyMemory rfl
    [⟨{}, [{ name := "main", args := ["--quiet"] }, { name := "helper", args := ["--early"] }]⟩,
      ⟨{ containers := [{ name := "helper" }] }, [{ name := "helper", args := ["--late"] }]⟩] rfl
  obtain ⟨spec, hspec, -, hcontainers⟩ := hresult (by decide)
  exact ⟨Memory.keeps, hprovides, spec, Prod.ext hspec hok,
    (hcontainers (by decide)).trans (by decide)⟩

end RoleDiscovery
