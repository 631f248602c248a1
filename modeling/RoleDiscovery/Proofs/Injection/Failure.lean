import RoleDiscovery.Proofs.Injection.Contents
import RoleDiscovery.Proofs.Injection.Convergence

/-!
# Injections that fail

An injection can fail at two places. If the ConfigMap cannot be reconciled nothing has happened yet:
the template is the one that went in, no profile was read and the store is what it was. If a
reference cannot be had, what was done before it stays done, as if the role had no more references.

Results:

* `RoleSpec.cut`: a role with its first references only.
* `effect_inject_cases`: all that an injection can come to.
* `inject_failure_cases`: what is left of an injection that fails.
-/

namespace RoleDiscovery

open RoleDiscovery.Action

/-- A role with its first references only. -/
def RoleSpec.cut (role : RoleSpec) (k : Nat) : RoleSpec :=
  { role with engineRuntimes := role.engineRuntimes.take k }

/-- The profile that a call reads. -/
def Call.profile? : Call → Option String
  | .getProfile name => some name
  | _ => none

theorem filterMap_profile?_profileReads (references : List EngineRuntime) :
    (profileReads references).filterMap Call.profile? =
      references.map EngineRuntime.profileName := by
  rw [profileReads, List.filterMap_map]
  exact congrFun List.filterMap_eq_map references

variable {σ : Type} {store : Store σ} {s t : σ} {group : RoleBasedGroup} {role : RoleSpec}
  {template : PodTemplate} {calls : List Call}

/-- A reconcile reads no profile. -/
theorem filterMap_profile?_reconcile {config : ClusterConfig}
    {result : Except DiscoveryError Decision}
    (h : effect store (reconcile group role config) s = (result, t, calls)) :
    calls.filterMap Call.profile? = [] := by
  obtain ⟨_, _, _, heffect⟩ | ⟨_, _, _, _, heffect⟩ | ⟨_, _, _, _, _, heffect⟩ |
    ⟨_, _, _, _, _, _, _, _, _, _, _, heffect⟩ :=
    effect_reconcile_cases store s group role config
  all_goals
    rw [heffect] at h
    cases h
    rfl

/-- What is done before the references does not depend on them. -/
theorem effect_inject_cut {decision : Decision} {k : Nat} {after : PodTemplate}
    {result : Except SidecarError Unit} {u : σ} {rest : List Call}
    (h : effect store (reconcile group role (ClusterConfig.ofGroup group)) s =
      (.ok decision, t, calls))
    (hs : effect store (injectReferences role.name (role.engineRuntimes.take k)
      ((template.addClusterConfig group role).injectEnv (environment group role))) t =
      ((after, result), u, rest)) :
    effect store (inject group (role.cut k) template) s =
      ((after, result.mapError (InjectError.profiles role.name)), u, calls ++ rest) :=
  effect_inject_ok h hs

/-- All that an injection can come to: the ConfigMap cannot be reconciled, everything succeeds, or a
reference cannot be had after those before it could. -/
theorem effect_inject_cases (store : Store σ) (s : σ) (group : RoleBasedGroup) (role : RoleSpec)
    (template : PodTemplate) :
    (∃ cause t calls,
      effect store (reconcile group role (ClusterConfig.ofGroup group)) s =
        (.error cause, t, calls) ∧
      effect store (inject group role template) s =
        ((template, .error (.reconcile role.name cause)), t, calls)) ∨
    ∃ decision t calls,
      effect store (reconcile group role (ClusterConfig.ofGroup group)) s =
        (.ok decision, t, calls) ∧
      ((∃ after u, effect store (inject group role template) s =
        ((after, .ok ()), u, calls ++ profileReads role.engineRuntimes)) ∨
      ∃ k reference answer failure after u v, role.engineRuntimes[k]? = some reference ∧
        effect store (inject group (role.cut k) template) s =
          ((after, .ok ()), u, calls ++ profileReads (role.engineRuntimes.take k)) ∧
        store.getProfile reference.profileName u = (answer, v) ∧
        refusal? role.name reference.profileName answer = some failure ∧
        effect store (inject group role template) s =
          ((after, .error (.profiles role.name failure)), v,
            calls ++ profileReads (role.engineRuntimes.take (k + 1)))) := by
  rcases hreconcile : effect store (reconcile group role (ClusterConfig.ofGroup group)) s with
    ⟨cause | decision, t, calls⟩
  · exact .inl ⟨cause, t, calls, rfl, effect_inject_error hreconcile⟩
  refine .inr ⟨decision, t, calls, rfl, ?_⟩
  obtain ⟨after, u, hall⟩ | ⟨k, reference, answer, failure, after, u, v, hk, hcut, hread, hr,
    hrefused⟩ := effect_injectReferences_cases store role.name role.engineRuntimes
      ((template.addClusterConfig group role).injectEnv (environment group role)) t
  · exact .inl ⟨after, u, effect_inject_ok hreconcile hall⟩
  · exact .inr ⟨k, reference, answer, failure, after, u, v, hk, effect_inject_cut hreconcile hcut,
      hread, hr, effect_inject_ok hreconcile hrefused⟩

/-- An injection that fails has failed in one of two ways. Either the ConfigMap could not be
reconciled: then the template is what it was, no profile was read and the store keeps what it kept.
Or a reference could not be had, because the read failed or there is no such profile: then the
template is the one of a successful injection for the references before it, the profiles up to this
one were read, each once and in order, and the ConfigMap stays written. -/
theorem inject_failure_cases (store : Store σ) (contents : σ → Contents)
    (hk : store.Keeps contents) (s : σ) (group : RoleBasedGroup) (role : RoleSpec)
    (template : PodTemplate) :
    let ns := group.namespaceOrDefault
    let name := group.workloadName role
    let config := ClusterConfig.ofGroup group
    let reconciled := (reconcile group role config).run store s
    let run := (inject group role template).run store s
    ∀ failure, run.result.2 = .error failure →
      (∃ cause, reconciled.result = .error cause ∧
        ((∃ error, cause = .getConfigMap name ns error) ∨ cause = .missingOwnerUid group.name ∨
          ∃ error, cause = .applyConfigMap name ns error) ∧
        failure = .reconcile role.name cause ∧ run.result.1 = template ∧
        run.calls.filterMap Call.profile? = [] ∧ contents run.store = contents s) ∨
      ∃ decision k reference, reconciled.result = .ok decision ∧
        role.engineRuntimes[k]? = some reference ∧
        let cut := (inject group (role.cut k) template).run store s
        let answer := (store.getProfile reference.profileName cut.store).1
        cut.result = (run.result.1, .ok ()) ∧
        ((∃ error, answer = .error error ∧
            failure = .profiles role.name (.getProfile reference.profileName error)) ∨
          answer = .ok none ∧ (contents run.store).profile? reference.profileName = none ∧
            failure = .profiles role.name
              (.profileNotFound reference.profileName role.name)) ∧
        run.calls.filterMap Call.profile? =
          (role.engineRuntimes.take (k + 1)).map EngineRuntime.profileName ∧
        contents run.store = contents reconciled.store ∧
        (contents run.store).HeldAt ns name config := by
  intro ns name config reconciled run failure hfailure
  obtain ⟨cause, t, calls, hreconcile, hinject⟩ | ⟨decision, t, calls, hreconcile, hinject⟩ :=
    effect_inject_cases store s group role template
  · obtain ⟨hresult, hstore, hcalls⟩ := run_of_effect hinject
    obtain ⟨hcause, hcontents⟩ := contents_of_reconcile_error hk hreconcile
    refine .inl ⟨cause, (run_of_effect hreconcile).1, hcause, ?_, ?_, ?_, ?_⟩
    · exact (Except.error.inj ((congrArg Prod.snd hresult).symm.trans hfailure)).symm
    · exact congrArg Prod.fst hresult
    · rw [show run.calls = calls from hcalls]
      exact filterMap_profile?_reconcile hreconcile
    · rw [show run.store = t from hstore]
      exact hcontents
  · obtain ⟨after, u, hinject⟩ | ⟨k, reference, answer, refusal, after, u, v, hreference, hcut,
      hread, hrefused, hinject⟩ := hinject
    · have hok : run.result.2 = .ok () := congrArg Prod.snd (run_of_effect hinject).1
      exact absurd (hok.symm.trans hfailure) nofun
    · obtain ⟨hcutResult, hcutStore, -⟩ := run_of_effect hcut
      obtain ⟨hresult, hv, hcalls⟩ := run_of_effect hinject
      have hstore : run.store = v := hv
      have hafter : run.result.1 = after := congrArg Prod.fst hresult
      have hrefusal : failure = .profiles role.name refusal :=
        Except.error.inj (hfailure.symm.trans (congrArg Prod.snd hresult))
      refine .inr ⟨decision, k, reference, (run_of_effect hreconcile).1, hreference,
        ?_, ?_, ?_, ?_, ?_⟩
      · rw [hafter]
        exact hcutResult
      · rw [hcutStore, hread, hrefusal, hstore]
        rcases answer with error | _ | profile
        · cases hrefused
          exact .inl ⟨error, rfl, rfl⟩
        · cases hrefused
          rw [hk.contents_profile hread]
          exact .inr ⟨rfl, (hk.profile_eq hread).symm, rfl⟩
        · cases hrefused
      · rw [show run.calls = _ from hcalls, List.filterMap_append,
          filterMap_profile?_reconcile hreconcile, filterMap_profile?_profileReads, List.nil_append]
      · rw [hstore, (run_of_effect hreconcile).2.1]
        exact contents_of_inject hk hreconcile hinject
      · rw [hstore, contents_of_inject hk hreconcile hinject]
        exact heldAt_of_reconcile_ok hk hreconcile

/-- A role that refers to one profile twice. -/
def twiceAssistedRole : RoleSpec where
  name := "worker"
  engineRuntimes := [{ profileName := "assistant" }, { profileName := "assistant" }]

/-- A store that fails with the second read of a profile. -/
def flakyMemory : Faulty where
  memory := assistedMemory
  plan := [none, none, none, some (.getResource "ClusterEngineRuntimeProfile" "assistant"
    .undecodable)]

/-- The ConfigMap is written and the first reference brought in before the second one fails. -/
theorem inject_failure_cases_of_flaky :
    let run := (inject assistedGroup twiceAssistedRole assistedTemplate).run Faulty.store
      flakyMemory
    Faulty.store.Keeps Faulty.contents ∧
      run.result.2 = .error (.profiles "worker" (.getProfile "assistant"
        (.getResource "ClusterEngineRuntimeProfile" "assistant" .undecodable))) ∧
      (∃ k, ((inject assistedGroup (twiceAssistedRole.cut k) assistedTemplate).run Faulty.store
        flakyMemory).result = (run.result.1, .ok ())) ∧
      (Faulty.contents run.store).HeldAt "default" "serving-worker"
        (ClusterConfig.ofGroup assistedGroup) := by
  intro run
  have hfailure : run.result.2 = .error (.profiles "worker" (.getProfile "assistant"
      (.getResource "ClusterEngineRuntimeProfile" "assistant" .undecodable))) := rfl
  obtain ⟨_, _, _, hreconcile, _⟩ | ⟨_, k, _, _, _, hcut, _, _, _, hheld⟩ :=
    inject_failure_cases Faulty.store Faulty.contents Faulty.keeps flakyMemory assistedGroup
      twiceAssistedRole assistedTemplate _ hfailure
  · cases hreconcile
  · exact ⟨Faulty.keeps, hfailure, ⟨k, hcut⟩, hheld⟩

end RoleDiscovery
