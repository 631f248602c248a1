import RoleDiscovery.Proofs.Discovery
import RoleDiscovery.Proofs.Topology.Report

/-!
# What a reconcile reports

A reconcile reports a stored document that cannot be read, the difference between what is stored and
what is desired, and what it did in the end. What is reported as the difference is the report of
their comparison, so that the desired topology is known from it and the one that is stored.

Results:

* `decisionEvents`, `outcomeEvents`: what is reported of a decision and of what came of it.
* `entries_decide`, `entries_reconcile`: this is all that is reported.
* `diffs_decide`: a change is reported by the comparison that it was found by.
* `config_of_diffs`: next to the same topology, different ones are reported differently.
-/

namespace RoleDiscovery

/-! ## Events -/

/-- What is reported while it is decided by the answer to a read. -/
def decisionEvents (name : String) (config : ClusterConfig) :
    Except ClientError (Option ConfigMap) → List Event
  | .ok (some current) =>
    (if current.document?.isSome ∧ current.config? = none then
      [undecodableEvent current] else []) ++
      if current.config? = some config then []
      else [changedEvent name (ClusterConfig.compare current.config? (some config))]
  | _ => []

/-- What is reported of what came of a reconcile. -/
def outcomeEvents (name : String) : Except DiscoveryError Decision → List Event
  | .ok .unchanged => [upToDateEvent name]
  | .ok decision => [appliedEvent name decision]
  | .error _ => []

/-- The difference that an entry reports. -/
def LogEntry.diff? (entry : LogEntry) : Option String :=
  (entry.event.fields.lookup "diff").map FieldValue.toText

section

open RoleDiscovery.Action

variable {σ : Type} {store : Store σ} {s t : σ} {config : ClusterConfig} {ns name : String}

theorem entries_storedConfig (configMap : ConfigMap) :
    ((storedConfig configMap).run store s).entries =
      (if configMap.document?.isSome ∧ configMap.config? = none then [undecodableEvent configMap]
        else []).map (⟨[], ·⟩) := by
  rw [storedConfig]
  cases configMap.document? <;> cases configMap.config? <;> rfl

theorem result_storedConfig (configMap : ConfigMap) :
    ((storedConfig configMap).run store s).result = configMap.config? := by
  have heffect : effect store (storedConfig configMap).quiet s = _ := effect_quiet _ s
  rw [quiet_storedConfig] at heffect
  exact (run_of_effect heffect.symm).1

/-- All that is reported of a decision. -/
theorem entries_decide {answer : Except ClientError (Option ConfigMap)}
    (h : store.getConfigMap ns name s = (answer, t)) :
    ((decide name ns config).run store s).entries =
      (decisionEvents name config answer).map (⟨[], ·⟩) := by
  rw [decide, entries_bind]
  have hresult : ((getConfigMap ns name).run store s).result = answer := congrArg Prod.fst h
  rw [hresult]
  rcases answer with cause | _ | current
  · rfl
  · rfl
  · show ((storedConfig current >>= _).run store _).entries = _
    rw [entries_bind, entries_storedConfig, result_storedConfig, decisionEvents, List.map_append]
    refine congrArg (_ ++ ·) ?_
    by_cases hc : current.config? = some config
    · rw [if_pos hc, if_pos (ClusterConfig.isEqual_compare_iff.2 hc)]
      rfl
    · rw [if_neg hc, if_neg (mt ClusterConfig.isEqual_compare_iff.1 hc)]
      rfl

theorem result_decide {answer : Except ClientError (Option ConfigMap)}
    (h : store.getConfigMap ns name s = (answer, t)) :
    ((decide name ns config).run store s).result = decided name ns config answer :=
  (run_of_effect (effect_decide h)).1

variable {group : RoleBasedGroup} {role : RoleSpec}

/-- A ConfigMap that was written is reported. -/
theorem entries_applyDiscovery {decision : Decision} (hd : decision ≠ .unchanged) :
    ((applyDiscovery group role config decision).run store s).entries =
      (outcomeEvents (group.workloadName role)
        ((applyDiscovery group role config decision).run store s).result).map (⟨[], ·⟩) := by
  rw [applyDiscovery]
  cases discoveryConfigMap group role config with
  | error failure => rfl
  | ok configMap =>
    show ((writeConfigMap configMap _).run store s).entries =
      (outcomeEvents _ ((writeConfigMap configMap _).run store s).result).map _
    rw [run]
    rcases store.applyConfigMap configMap s with ⟨cause | _, u⟩
    · rfl
    · cases decision
      · rfl
      · rfl
      · exact absurd rfl hd

/-- All that is reported of a reconcile, inside its span. -/
theorem entries_reconcile {answer : Except ClientError (Option ConfigMap)}
    (h : store.getConfigMap group.namespaceOrDefault (group.workloadName role) s = (answer, t)) :
    ((reconcile group role config).run store s).entries =
      (decisionEvents (group.workloadName role) config answer ++
        outcomeEvents (group.workloadName role)
          ((reconcile group role config).run store s).result).map
            (⟨[reconcileSpan group role], ·⟩) := by
  have hresult {α : Type} (span : Span) (action : Action α) :
      ((action.inSpan span).run store s).result = (action.run store s).result :=
    congrArg Prod.fst (effect_inSpan span action s)
  rw [reconcile, entries_inSpan, hresult]
  dsimp only
  have hstore : ((decide (group.workloadName role) group.namespaceOrDefault config).run store
      s).store = t := (run_of_effect (effect_decide h)).2.1
  rw [entries_bind, result_bind, entries_decide h, result_decide h, hstore, List.map_append,
    List.map_append, List.map_map]
  refine congrArg (_ ++ ·) ?_
  have hwrite {decision : Decision} (hd : decision ≠ .unchanged) :
      ((applyDiscovery group role config decision).run store t).entries.map
          (fun entry => { entry with spans := reconcileSpan group role :: entry.spans }) =
        (outcomeEvents (group.workloadName role)
          ((applyDiscovery group role config decision).run store t).result).map
            (⟨[reconcileSpan group role], ·⟩) := by
    rw [entries_applyDiscovery hd, List.map_map]
    rfl
  rcases answer with cause | found
  · rfl
  · rw [decided]
    cases due found config
    · exact hwrite (by decide)
    · exact hwrite (by decide)
    · rfl

/-! ## Differences -/

/-- A change is reported by the comparison that it was found by. -/
theorem diffs_decide {current : ConfigMap}
    (h : store.getConfigMap ns name s = (.ok (some current), t)) :
    ((decide name ns config).run store s).entries.filterMap LogEntry.diff? =
      if current.config? = some config then []
      else [(ClusterConfig.compare current.config? (some config)).report] := by
  rw [entries_decide h, decisionEvents, List.map_append, List.filterMap_append]
  have hunread : ((if current.document?.isSome ∧ current.config? = none then
      [undecodableEvent current] else []).map (⟨[], ·⟩)).filterMap LogEntry.diff? = [] := by
    split_ifs <;> rfl
  rw [hunread, List.nil_append]
  split_ifs <;> rfl

/-- Next to a ConfigMap that holds a topology, the desired one is known from what is reported. -/
theorem config_of_diffs {current : ConfigMap} {old a b : ClusterConfig}
    (h : store.getConfigMap ns name s = (.ok (some current), t)) (hold : current.Holds old)
    (hdiffs : ((decide name ns a).run store s).entries.filterMap LogEntry.diff? =
      ((decide name ns b).run store s).entries.filterMap LogEntry.diff?) : a = b := by
  rw [diffs_decide h, diffs_decide h, ConfigMap.config?_eq_some.2 hold] at hdiffs
  split_ifs at hdiffs with ha hb hb
  · exact Option.some.inj (ha.symm.trans hb)
  · exact ClusterConfig.exact_codec.eq_of_report (List.singleton_inj.1 hdiffs)

end

end RoleDiscovery
