import RoleDiscovery.Proofs.Discovery.Contents
import RoleDiscovery.Proofs.Injection

/-!
# What an injection leaves in a store

Profiles are only read, so that a store keeps after an injection what the reconcile at its start has
left.

Results:

* `contents_of_inject`: after its reconcile an injection changes nothing.
* `profile?_of_inject`: profiles stay as they are.
* `supplies_of_inject`: what comes of an injection that succeeds is known from the profiles.
* `injected_of_inject_ok`: what an injection that succeeds leaves, and the template it makes.
-/

namespace RoleDiscovery

open RoleDiscovery.Action

variable {σ : Type} {store : Store σ} {contentsOf : σ → Contents} {s t : σ} {calls : List Call}

/-- After the reconcile an injection changes nothing. -/
theorem contents_of_inject (hk : store.Keeps contentsOf) {group : RoleBasedGroup} {role : RoleSpec}
    {template : PodTemplate} {decision : Decision} {u : σ} {before : List Call} {result : Injected}
    (hreconcile : effect store (reconcile group role (ClusterConfig.ofGroup group)) s =
      (.ok decision, t, before))
    (h : effect store (inject group role template) s = (result, u, calls)) :
    contentsOf u = contentsOf t := by
  rcases hreferences : effect store (injectReferences role.name role.engineRuntimes
    ((template.addClusterConfig group role).injectEnv (environment group role))) t with
    ⟨⟨brought, outcome⟩, v, rest⟩
  rw [effect_inject_ok hreconcile hreferences] at h
  cases h
  exact contents_of_injectReferences hk hreferences

/-- No injection changes a profile. -/
theorem profile?_of_inject (hk : store.Keeps contentsOf) {group : RoleBasedGroup} {role : RoleSpec}
    {template : PodTemplate} {result : Injected}
    (h : effect store (inject group role template) s = (result, t, calls)) :
    (contentsOf t).profile? = (contentsOf s).profile? := by
  rcases hreconcile : effect store (reconcile group role (ClusterConfig.ofGroup group)) s with
    ⟨cause | decision, u, before⟩
  · rw [effect_inject_error hreconcile] at h
    cases h
    exact profile?_of_reconcile hk hreconcile
  · rw [contents_of_inject hk hreconcile h]
    exact profile?_of_reconcile hk hreconcile

/-- An injection that succeeds makes the template that comes of the profiles in the store. -/
theorem supplies_of_inject (hk : store.Keeps contentsOf) {group : RoleBasedGroup} {role : RoleSpec}
    {template after : PodTemplate}
    (h : effect store (inject group role template) s = ((after, .ok ()), t, calls)) :
    ∃ supplies, role.engineRuntimes.mapM (contentsOf s).supply? = some supplies ∧
      after = template.injected group role supplies := by
  rcases hreconcile : effect store (reconcile group role (ClusterConfig.ofGroup group)) s with
    ⟨cause | decision, u, before⟩
  · rw [effect_inject_error hreconcile] at h
    cases h
  rcases hreferences : effect store (injectReferences role.name role.engineRuntimes
    ((template.addClusterConfig group role).injectEnv (environment group role))) u with
    ⟨⟨brought, outcome⟩, v, rest⟩
  rw [effect_inject_ok hreconcile hreferences] at h
  cases outcome with
  | error failure => cases h
  | ok _ =>
    cases h
    obtain ⟨supplies, hsupplies, hafter⟩ := injectReferences_ok hk hreferences
    refine ⟨supplies, ?_, hafter.trans (PodTemplate.injected_eq template supplies)⟩
    rw [← hsupplies]
    refine Contents.mapM_supply?_congr fun reference _ => ?_
    rw [profile?_of_reconcile hk hreconcile]

/-- An injection that succeeds leaves the topology under the key of the role, and makes the template
that comes of the overrides of the role and of some profiles. -/
theorem injected_of_inject_ok (hk : store.Keeps contentsOf) {group : RoleBasedGroup}
    {role : RoleSpec} {template after : PodTemplate}
    (h : effect store (inject group role template) s = ((after, .ok ()), t, calls)) :
    (contentsOf t).HeldAt group.namespaceOrDefault (group.workloadName role)
        (ClusterConfig.ofGroup group) ∧
      ∃ supplies : List Supply,
        supplies.map Supply.overrides = role.engineRuntimes.map EngineRuntime.containers ∧
          after = template.injected group role supplies := by
  obtain ⟨supplies, hsupplies, hafter⟩ := supplies_of_inject hk h
  refine ⟨?_, supplies, Contents.map_overrides_of_mapM_supply? hsupplies, hafter⟩
  rcases hreconcile : effect store (reconcile group role (ClusterConfig.ofGroup group)) s with
    ⟨cause | decision, u, before⟩
  · rw [effect_inject_error hreconcile] at h
    cases h
  · rw [contents_of_inject hk hreconcile h]
    exact heldAt_of_reconcile_ok hk hreconcile

end RoleDiscovery
