import RoleDiscovery.Proofs.Injection.Contents

/-!
# Injections in a row

An injection is meant for a fresh template. On its own output it does some more: the containers of
profiles get the discovery mount and the variables of the group as well. After that second run
nothing changes any more.

Results:

* `rerun`: the runs of an injection on its own output.
* `Contents.Serves`: there is nothing to be done to a store, and nothing is missing from it.
* `effect_inject_of_serves`, `serves_of_inject`: an injection on such a store, and what leaves one.
* `rerun_succ`: what a run after the first one does.
* `inject_converges`: from the second run on the template stays, and nothing is written.
-/

namespace RoleDiscovery

open RoleDiscovery.Action

/-- The runs of an injection, each on the template and the store that the one before it left. -/
def rerun {σ : Type} (store : Store σ) (group : RoleBasedGroup) (role : RoleSpec)
    (template : PodTemplate) (s : σ) : Nat → Run σ Injected
  | 0 => (inject group role template).run store s
  | n + 1 =>
    let before := rerun store group role template s n
    (inject group role before.result.1).run store before.store

/-- There is nothing to be done to a store for a role, and nothing is missing from it: it keeps the
topology under the key of the role, and all that the references of the role bring. -/
structure Contents.Serves (contents : Contents) (group : RoleBasedGroup) (role : RoleSpec)
    (supplies : List Supply) : Prop where
  held : contents.HeldAt group.namespaceOrDefault (group.workloadName role)
    (ClusterConfig.ofGroup group)
  supplies_eq : role.engineRuntimes.mapM contents.supply? = some supplies

/-- The calls of an injection that finds nothing to do. -/
def readsOf (group : RoleBasedGroup) (role : RoleSpec) : List Call :=
  .getConfigMap group.namespaceOrDefault (group.workloadName role) ::
    profileReads role.engineRuntimes

section

variable {σ : Type} {store : Store σ} {contents : σ → Contents} {reading : σ → Prop}
  {group : RoleBasedGroup} {role : RoleSpec} {template : PodTemplate} {supplies : List Supply}
  {s t : σ} {calls : List Call}

theorem not_mem_readsOf (configMap : ConfigMap) (succeeded : Bool) :
    .applyConfigMap configMap succeeded ∉ readsOf group role := by
  simp [readsOf, profileReads]

/-- An injection that succeeds leaves a store that serves, and the template that comes of it. -/
theorem serves_of_inject (hk : store.Keeps contents) {after : PodTemplate}
    (h : effect store (inject group role template) s = ((after, .ok ()), t, calls)) :
    ∃ supplies, (contents t).Serves group role supplies ∧
      after = template.injected group role supplies := by
  obtain ⟨supplies, hsupplies, hafter⟩ := supplies_of_inject hk h
  refine ⟨supplies, ⟨(injected_of_inject_ok hk h).1, ?_⟩, hafter⟩
  rw [← hsupplies]
  refine Contents.mapM_supply?_congr fun reference _ => ?_
  rw [profile?_of_inject hk h]

variable (hk : store.Keeps contents)
  (hfinds : store.Finds group.namespaceOrDefault (group.workloadName role) reading)
  (hprovides : store.Provides role.engineRuntimes reading)

include hk hfinds hprovides

/-- On a store that serves and answers, an injection only reads. -/
theorem effect_inject_of_serves (hs : reading s) (h : (contents s).Serves group role supplies)
    (template : PodTemplate) :
    ∃ t, effect store (inject group role template) s =
        ((template.injected group role supplies, .ok ()), t, readsOf group role) ∧
      contents t = contents s ∧ reading t := by
  obtain ⟨t, hreconcile, hsame, ht⟩ := reconcile_of_heldAt hk hfinds hs h.held
  obtain ⟨u, hreferences, hu, hreading⟩ := effect_injectReferences hk hprovides ht role.name
    ((template.addClusterConfig group role).injectEnv (environment group role))
    (hsame ▸ h.supplies_eq)
  rw [PodTemplate.injected_eq] at hreferences
  exact ⟨u, effect_inject_ok hreconcile hreferences, hu.trans hsame, hreading⟩

variable (hs : reading (rerun store group role template s 0).store)
  (h : (contents (rerun store group role template s 0).store).Serves group role supplies)

include hs h

/-- Once a store serves, it goes on to do so. -/
theorem contents_rerun (n : Nat) :
    contents (rerun store group role template s n).store =
        contents (rerun store group role template s 0).store ∧
      reading (rerun store group role template s n).store := by
  induction n with
  | zero => exact ⟨rfl, hs⟩
  | succ n ih =>
    obtain ⟨hsame, hreading⟩ := ih
    obtain ⟨t, heffect, ht, hreading⟩ := effect_inject_of_serves hk hfinds hprovides hreading
      (hsame ▸ h) (rerun store group role template s n).result.1
    have hstore : (rerun store group role template s (n + 1)).store = t :=
      (run_of_effect heffect).2.1
    rw [hstore]
    exact ⟨ht.trans hsame, hreading⟩

/-- A run after the first one injects what the one before it left, and only reads. -/
theorem rerun_succ (n : Nat) :
    (rerun store group role template s (n + 1)).result =
        ((rerun store group role template s n).result.1.injected group role supplies, .ok ()) ∧
      (rerun store group role template s (n + 1)).calls = readsOf group role := by
  obtain ⟨hsame, hreading⟩ := contents_rerun hk hfinds hprovides hs h n
  obtain ⟨t, heffect, -⟩ := effect_inject_of_serves hk hfinds hprovides hreading (hsame ▸ h)
    (rerun store group role template s n).result.1
  obtain ⟨hresult, -, hcalls⟩ := run_of_effect heffect
  exact ⟨hresult, hcalls⟩

/-- The template of the second run is the template of every later one. -/
theorem template_rerun (hfirst : (rerun store group role template s 0).result.1 =
      template.injected group role supplies) (n : Nat) :
    (rerun store group role template s (n + 1)).result.1 =
      (rerun store group role template s 1).result.1 := by
  have hsucc := rerun_succ hk hfinds hprovides hs h
  induction n with
  | zero => rfl
  | succ n ih =>
    rw [(hsucc (n + 1)).1, ih, (hsucc 0).1, hfirst]
    exact PodTemplate.injected_injected_injected template supplies

end

/-- If an injection succeeds and is run again and again on its own output, on a store that goes on
to answer what is read, and that nobody else writes, then every run succeeds, and from the second
run on the template stays what it is, the contents of the store too, and no ConfigMap is written. -/
theorem inject_converges {σ : Type} (store : Store σ) (contents : σ → Contents)
    (reading : σ → Prop) (hk : store.Keeps contents) (group : RoleBasedGroup) (role : RoleSpec)
    (hfinds : store.Finds group.namespaceOrDefault (group.workloadName role) reading)
    (hprovides : store.Provides role.engineRuntimes reading) (template : PodTemplate) (s : σ)
    (h : ((inject group role template).run store s).result.2 = .ok ())
    (hs : reading ((inject group role template).run store s).store) (n : Nat) :
    (rerun store group role template s (n + 1)).result =
        ((rerun store group role template s 1).result.1, .ok ()) ∧
      (contents (rerun store group role template s (n + 1)).store =
          contents (rerun store group role template s 0).store ∧
        reading (rerun store group role template s (n + 1)).store) ∧
      ∀ configMap succeeded, .applyConfigMap configMap succeeded ∉
        (rerun store group role template s (n + 1)).calls := by
  have hfirst : effect store (inject group role template) s =
      (((rerun store group role template s 0).result.1, .ok ()),
        (rerun store group role template s 0).store,
        (rerun store group role template s 0).calls) := by
    rw [← h]
    rfl
  obtain ⟨supplies, hserves, htemplate⟩ := serves_of_inject hk hfirst
  obtain ⟨hresult, hcalls⟩ := rerun_succ hk hfinds hprovides hs hserves n
  refine ⟨?_, contents_rerun hk hfinds hprovides hs hserves (n + 1), ?_⟩
  · rw [← template_rerun hk hfinds hprovides hs hserves htemplate n, hresult]
  · rw [hcalls]
    exact not_mem_readsOf

/-- A role with one profile. -/
def assistedRole : RoleSpec where
  name := "worker"
  engineRuntimes := [{ profileName := "assistant" }]

/-- A group with that role alone. -/
def assistedGroup : RoleBasedGroup where
  metadata := { name := some "serving", uid := some "7f" }
  spec := { roles := [assistedRole] }

/-- A store with the profile of that role, which brings one container. -/
def assistedMemory : Memory where
  profiles :=
    [{ metadata := { name := some "assistant" }
       spec := { containers := [{ name := "assistant" }] } }]

/-- A template with a container of its own. -/
def assistedTemplate : PodTemplate where
  spec := some { containers := [{ name := "main" }] }

/-- The profile brings a second container, which is complete after the second run. -/
theorem inject_converges_of_assisted :
    let run := rerun Memory.store assistedGroup assistedRole assistedTemplate assistedMemory
    let reading := fun memory => memory = (run 0).store
    Memory.store.Keeps Memory.contents ∧
      Memory.store.Finds assistedGroup.namespaceOrDefault
        (assistedGroup.workloadName assistedRole) reading ∧
      Memory.store.Provides assistedRole.engineRuntimes reading ∧
      ((inject assistedGroup assistedRole assistedTemplate).run Memory.store
        assistedMemory).result.2 = .ok () ∧
      (run 2).result = ((run 1).result.1, .ok ()) ∧ (run 2).store = (run 0).store := by
  intro run reading
  have hfinds : Memory.store.Finds assistedGroup.namespaceOrDefault
      (assistedGroup.workloadName assistedRole) reading := Memory.finds rfl _ _
  have hprovides : Memory.store.Provides assistedRole.engineRuntimes reading :=
    Memory.provides rfl _
  obtain ⟨hresult, ⟨-, hstore⟩, -⟩ := inject_converges Memory.store Memory.contents reading
    Memory.keeps assistedGroup assistedRole hfinds hprovides assistedTemplate assistedMemory rfl
    rfl 1
  exact ⟨Memory.keeps, hfinds, hprovides, rfl, hresult, hstore⟩

/-- The first run is not enough: the container of a profile gets its mount in the second one. -/
example :
    let supplies : List Supply := [⟨{ containers := [{ name := "assistant" }] }, []⟩]
    let once := assistedTemplate.injected assistedGroup assistedRole supplies
    once.injected assistedGroup assistedRole supplies ≠ once := by
  decide

end RoleDiscovery
