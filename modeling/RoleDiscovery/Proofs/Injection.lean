import RoleDiscovery.Proofs.Injection.Template

/-!
# What injection does

An injection first reconciles the discovery ConfigMap. If that fails nothing else happens; if it
succeeds the profiles are read, and no ConfigMap any more.

Results:

* `effect_injectConfig_ok`, `effect_injectSidecars`: the effects of its steps.
* `effect_inject_error`, `effect_inject_ok`: the effect of an injection by the effects of its parts.
-/

namespace RoleDiscovery

open RoleDiscovery.Action

variable {group : RoleBasedGroup} {role : RoleSpec} {template : PodTemplate} {σ : Type}
  {store : Store σ} {s t u : σ} {calls rest : List Call}

theorem effect_injectConfig_error {cause : DiscoveryError}
    (h : effect store (reconcile group role (ClusterConfig.ofGroup group)) s =
      (.error cause, t, calls)) :
    effect store (injectConfig group role template) s =
      ((template, .error (.reconcile role.name cause)), t, calls) := by
  rw [injectConfig, effect_inSpan, effect_bind h]
  simp only [effect_pure, List.append_nil]

theorem effect_injectConfig_ok {decision : Decision}
    (h : effect store (reconcile group role (ClusterConfig.ofGroup group)) s =
      (.ok decision, t, calls)) :
    effect store (injectConfig group role template) s =
      ((template.addClusterConfig group role, .ok ()), t, calls) := by
  rw [injectConfig, effect_inSpan, effect_bind h]
  simp only [effect_bind_pure (effect_report _), effect_pure, List.append_nil]

/-- An injection whose ConfigMap cannot be reconciled does nothing to the template. -/
theorem effect_inject_error {cause : DiscoveryError}
    (h : effect store (reconcile group role (ClusterConfig.ofGroup group)) s =
      (.error cause, t, calls)) :
    effect store (inject group role template) s =
      ((template, .error (.reconcile role.name cause)), t, calls) := by
  rw [inject, effect_bind (effect_injectConfig_error h)]
  simp only [effect_pure, List.append_nil]

/-- The profiles of a role are those of its references. -/
theorem effect_injectSidecars {after : PodTemplate} {result : Except SidecarError Unit}
    (h : effect store (injectReferences role.name role.engineRuntimes template) s =
      ((after, result), t, calls)) :
    effect store (injectSidecars role template) s =
      ((after, result.mapError (InjectError.profiles role.name)), t, calls) := by
  rw [injectSidecars, injectProfiles, effect_bind ((effect_inSpan _ _ _).trans h)]
  simp only [effect_pure, List.append_nil]

/-- After the ConfigMap the references are brought in. -/
theorem effect_inject_ok {decision : Decision} {after : PodTemplate}
    {result : Except SidecarError Unit}
    (h : effect store (reconcile group role (ClusterConfig.ofGroup group)) s =
      (.ok decision, t, calls))
    (hs : effect store (injectReferences role.name role.engineRuntimes
      ((template.addClusterConfig group role).injectEnv (environment group role))) t =
      ((after, result), u, rest)) :
    effect store (inject group role template) s =
      ((after, result.mapError (InjectError.profiles role.name)), u, calls ++ rest) := by
  rw [inject]
  exact effect_bind_of (effect_injectConfig_ok h) (effect_injectSidecars hs)

end RoleDiscovery
