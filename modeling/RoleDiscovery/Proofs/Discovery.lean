import RoleDiscovery.Discovery
import RoleDiscovery.Proofs.Action
import RoleDiscovery.Proofs.Topology.Payload

/-!
# What a reconcile does

A reconcile reads the ConfigMap of the role once and writes it at most once: not at all if the one
that is there holds the topology, and as a whole otherwise.

Results:

* `ConfigMap.Holds`: a ConfigMap holds a topology.
* `due`: the decision that is due for what was found.
* `quiet_decide`, `quiet_reconcile`: deciding and reconciling without their reports.
* `effect_decide`: the effect of deciding.
* `effect_reconcile_unchanged`, `effect_reconcile_unowned`, `effect_reconcile_owned`: the effect of
  reconciling, by what is due and who owns it.
* `effect_reconcile_cases`: all that a reconcile can come to.
* `reconcile_writes_if_due`: the reads, writes and failures of one reconcile.
-/

namespace RoleDiscovery

/-! ## What a ConfigMap holds -/

namespace ConfigMap

/-- A ConfigMap holds a topology if the text under the key of discovery documents is not empty and
spells it. -/
def Holds (configMap : ConfigMap) (config : ClusterConfig) : Prop :=
  ∃ data document, configMap.data = some data ∧ data.find? clusterConfigKey = some document ∧
    document ≠ "" ∧ ClusterConfig.ofYaml? document = some config

theorem document?_eq_some {configMap : ConfigMap} {document : String} :
    configMap.document? = some document ↔
      ∃ data, configMap.data = some data ∧ data.find? clusterConfigKey = some document ∧
        document ≠ "" := by
  simp only [document?, Option.bind_eq_bind, Option.bind_eq_some_iff]
  constructor
  · rintro ⟨data, hdata, text, hfind, h⟩
    split_ifs at h with he
    obtain rfl := Option.some.inj h
    exact ⟨data, hdata, hfind, by simpa using he⟩
  · rintro ⟨data, hdata, hfind, hne⟩
    exact ⟨data, hdata, document, hfind, if_neg (by simpa using hne)⟩

theorem config?_eq_some {configMap : ConfigMap} {config : ClusterConfig} :
    configMap.config? = some config ↔ configMap.Holds config := by
  rw [config?, Option.bind_eq_some_iff]
  constructor
  · rintro ⟨document, hdocument, hread⟩
    obtain ⟨data, hdata, hfind, hne⟩ := document?_eq_some.1 hdocument
    exact ⟨data, document, hdata, hfind, hne, hread⟩
  · rintro ⟨data, document, hdata, hfind, hne, hread⟩
    exact ⟨document, document?_eq_some.2 ⟨data, hdata, hfind, hne⟩, hread⟩

/-- A ConfigMap that holds a topology holds no other one. -/
theorem Holds.unique {configMap : ConfigMap} {config config' : ClusterConfig}
    (h : configMap.Holds config) (h' : configMap.Holds config') : config = config' := by
  rw [← config?_eq_some] at h h'
  exact Option.some.inj (h.symm.trans h')

end ConfigMap

/-! ## What is due -/

/-- The decision that is due for what was found under the key of a role. -/
def due (found : Option ConfigMap) (config : ClusterConfig) : Decision :=
  match found with
  | none => .create
  | some current => if current.config? = some config then .unchanged else .update

theorem due_eq_create {found : Option ConfigMap} {config : ClusterConfig} :
    due found config = .create ↔ found = none := by
  unfold due
  split
  · simp
  · split <;> simp

theorem due_eq_unchanged {found : Option ConfigMap} {config : ClusterConfig} :
    due found config = .unchanged ↔ ∃ current, found = some current ∧ current.Holds config := by
  cases found with
  | none => simp [due]
  | some current => simp [due, ← ConfigMap.config?_eq_some]

theorem due_eq_update {found : Option ConfigMap} {config : ClusterConfig} :
    due found config = .update ↔ ∃ current, found = some current ∧ ¬current.Holds config := by
  cases found with
  | none => simp [due]
  | some current => simp [due, ← ConfigMap.config?_eq_some]

/-! ## What is done -/

section

open RoleDiscovery.Action

variable {group : RoleBasedGroup} {role : RoleSpec} {config : ClusterConfig}

theorem quiet_storedConfig (configMap : ConfigMap) :
    (storedConfig configMap).quiet = done configMap.config? := by
  unfold storedConfig
  dsimp only
  split <;> rfl

/-- What is decided by the answer to a read. -/
def decided (name ns : String) (config : ClusterConfig) :
    Except ClientError (Option ConfigMap) → Except DiscoveryError Decision
  | .error cause => .error (.getConfigMap name ns cause)
  | .ok found => .ok (due found config)

theorem quiet_decide (name ns : String) (config : ClusterConfig) :
    (decide name ns config).quiet =
      readConfigMap ns name fun answer => done (decided name ns config answer) := by
  rw [decide]
  refine congrArg (readConfigMap ns name) (funext fun answer => ?_)
  rcases answer with cause | _ | current
  · rfl
  · rfl
  · show (storedConfig current >>= _).quiet = _
    rw [quiet_bind, quiet_storedConfig]
    by_cases hc : current.config? = some config
    · rw [decided, due, if_pos hc, hc]
      show Action.quiet (if (ClusterConfig.compare (some config) (some config)).isEqual then _
        else _) = _
      rw [if_pos (ClusterConfig.isEqual_compare_iff.2 rfl)]
      rfl
    · rw [decided, due, if_neg hc]
      show Action.quiet (if (ClusterConfig.compare current.config? (some config)).isEqual then _
        else _) = _
      rw [if_neg (mt ClusterConfig.isEqual_compare_iff.1 hc)]
      rfl

/-- What comes of a reconcile by the answer to its write. -/
def afterWrite (group : RoleBasedGroup) (role : RoleSpec) (decision : Decision) :
    Except ClientError Unit → Except DiscoveryError Decision
  | .error cause =>
    .error (.applyConfigMap (group.workloadName role) group.namespaceOrDefault cause)
  | .ok () => .ok decision

/-- What is left of a reconcile after its read. -/
def afterRead (group : RoleBasedGroup) (role : RoleSpec) (config : ClusterConfig) :
    Except ClientError (Option ConfigMap) → Action (Except DiscoveryError Decision)
  | .error cause =>
    done (.error (.getConfigMap (group.workloadName role) group.namespaceOrDefault cause))
  | .ok found =>
    if due found config = .unchanged then done (.ok .unchanged)
    else
      match discoveryConfigMap group role config with
      | .error failure => done (.error failure)
      | .ok configMap =>
        writeConfigMap configMap fun answer =>
          done (afterWrite group role (due found config) answer)

theorem quiet_applyDiscovery (decision : Decision) :
    (applyDiscovery group role config decision).quiet =
      match discoveryConfigMap group role config with
      | .error failure => done (.error failure)
      | .ok configMap =>
        writeConfigMap configMap fun answer => done (afterWrite group role decision answer) := by
  rw [applyDiscovery]
  cases discoveryConfigMap group role config with
  | error failure => rfl
  | ok configMap =>
    refine congrArg (writeConfigMap configMap) (funext fun answer => ?_)
    cases answer <;> rfl

/-- A reconcile is a read and at most one write. -/
theorem quiet_reconcile (group : RoleBasedGroup) (role : RoleSpec) (config : ClusterConfig) :
    (reconcile group role config).quiet =
      readConfigMap group.namespaceOrDefault (group.workloadName role)
        (afterRead group role config) := by
  rw [reconcile, quiet_inSpan]
  show (decide _ _ config >>= _).quiet = _
  rw [quiet_bind, quiet_decide]
  refine congrArg (readConfigMap _ _) (funext fun answer => ?_)
  rcases answer with cause | found
  · rfl
  · simp only [decided, afterRead]
    cases due found config with
    | unchanged => rfl
    | create => exact quiet_applyDiscovery _
    | update => exact quiet_applyDiscovery _

end

/-! ## Effects -/

section

variable {σ : Type} {store : Store σ} {s t : σ} {group : RoleBasedGroup} {role : RoleSpec}
  {config : ClusterConfig}

open RoleDiscovery.Action

/-- To decide is to read once. -/
theorem effect_decide {name ns : String} {answer : Except ClientError (Option ConfigMap)}
    (h : store.getConfigMap ns name s = (answer, t)) :
    effect store (decide name ns config) s =
      (decided name ns config answer, t, [.getConfigMap ns name]) := by
  rw [← effect_quiet, quiet_decide, effect_readConfigMap, h]
  rfl

/-- A reconcile goes on after its read. -/
theorem effect_reconcile {answer : Except ClientError (Option ConfigMap)}
    (h : store.getConfigMap group.namespaceOrDefault (group.workloadName role) s = (answer, t)) :
    effect store (reconcile group role config) s =
      afterCall (.getConfigMap group.namespaceOrDefault (group.workloadName role))
        (effect store (afterRead group role config answer) t) := by
  rw [← effect_quiet, quiet_reconcile, effect_readConfigMap, h]

theorem effect_reconcile_error {cause : ClientError}
    (h : store.getConfigMap group.namespaceOrDefault (group.workloadName role) s =
      (.error cause, t)) :
    effect store (reconcile group role config) s =
      (.error (.getConfigMap (group.workloadName role) group.namespaceOrDefault cause), t,
        [.getConfigMap group.namespaceOrDefault (group.workloadName role)]) :=
  effect_reconcile h

/-- A ConfigMap that holds the topology is left alone. -/
theorem effect_reconcile_unchanged {found : Option ConfigMap}
    (h : store.getConfigMap group.namespaceOrDefault (group.workloadName role) s = (.ok found, t))
    (hd : due found config = .unchanged) :
    effect store (reconcile group role config) s =
      (.ok .unchanged, t,
        [.getConfigMap group.namespaceOrDefault (group.workloadName role)]) := by
  rw [effect_reconcile h, afterRead, if_pos hd]
  rfl

end

/-! ## What is written -/

/-- The discovery ConfigMap of a role whose group has a name and a uid. -/
def ownedConfigMap (group : RoleBasedGroup) (role : RoleSpec) (config : ClusterConfig)
    (owner uid : String) : ConfigMap where
  metadata :=
    { name := some (group.workloadName role)
      ns := some group.namespaceOrDefault
      ownerReferences := some [
        { apiVersion := customApiVersion
          kind := RoleBasedGroup.kind
          name := owner
          uid := uid
          controller := some true
          blockOwnerDeletion := some true }] }
  data := some (SortedMap.singleton clusterConfigKey config.toYaml)

section

variable {group : RoleBasedGroup} {role : RoleSpec} {config : ClusterConfig} {owner uid : String}

/-- What is written has the key that is read. -/
theorem key_ownedConfigMap :
    (ownedConfigMap group role config owner uid).key =
      (group.namespaceOrDefault, group.workloadName role) := rfl

/-- What is written holds the topology, so that nothing is due after it. -/
theorem holds_ownedConfigMap : (ownedConfigMap group role config owner uid).Holds config :=
  ⟨_, _, rfl, SortedMap.find?_singleton _ _, config.toYaml_ne_empty, config.ofYaml?_toYaml⟩

theorem discoveryConfigMap_ok (hn : group.metadata.name = some owner)
    (hu : group.metadata.uid = some uid) :
    discoveryConfigMap group role config = .ok (ownedConfigMap group role config owner uid) := by
  rw [discoveryConfigMap, controllerReference, hn, hu]
  rfl

theorem discoveryConfigMap_error (h : group.metadata.name = none ∨ group.metadata.uid = none) :
    discoveryConfigMap group role config = .error (.missingOwnerUid group.name) := by
  rw [discoveryConfigMap, controllerReference]
  rcases h with h | h
  · rw [h]
    rfl
  · rw [h]
    cases group.metadata.name <;> rfl

variable {σ : Type} {store : Store σ} {s t : σ} {found : Option ConfigMap}

open RoleDiscovery.Action

/-- A group that cannot own anything writes nothing. -/
theorem effect_reconcile_unowned
    (h : store.getConfigMap group.namespaceOrDefault (group.workloadName role) s = (.ok found, t))
    (hd : due found config ≠ .unchanged)
    (ho : group.metadata.name = none ∨ group.metadata.uid = none) :
    effect store (reconcile group role config) s =
      (.error (.missingOwnerUid group.name), t,
        [.getConfigMap group.namespaceOrDefault (group.workloadName role)]) := by
  rw [effect_reconcile h, afterRead, if_neg hd, discoveryConfigMap_error ho]
  rfl

/-- A group that can writes the ConfigMap once. -/
theorem effect_reconcile_owned {answer : Except ClientError Unit} {u : σ}
    (h : store.getConfigMap group.namespaceOrDefault (group.workloadName role) s = (.ok found, t))
    (hd : due found config ≠ .unchanged)
    (hn : group.metadata.name = some owner) (hu : group.metadata.uid = some uid)
    (ha : store.applyConfigMap (ownedConfigMap group role config owner uid) t = (answer, u)) :
    effect store (reconcile group role config) s =
      (afterWrite group role (due found config) answer, u,
        [.getConfigMap group.namespaceOrDefault (group.workloadName role),
          .applyConfigMap (ownedConfigMap group role config owner uid) answer.isOk]) := by
  rw [effect_reconcile h, afterRead, if_neg hd, discoveryConfigMap_ok hn hu]
  show afterCall _ (effect store (writeConfigMap _ _) t) = _
  rw [effect_writeConfigMap, ha]
  rfl

end

/-! ## One reconcile -/

section

variable {σ : Type} {store : Store σ} {s t : σ} {group : RoleBasedGroup} {role : RoleSpec}
  {config : ClusterConfig} {found : Option ConfigMap}

open RoleDiscovery.Action

/-- All that a reconcile can come to: the read fails, nothing is due, nobody can own the ConfigMap,
or it is written. -/
theorem effect_reconcile_cases (store : Store σ) (s : σ) (group : RoleBasedGroup) (role : RoleSpec)
    (config : ClusterConfig) :
    let ns := group.namespaceOrDefault
    let name := group.workloadName role
    (∃ cause t, store.getConfigMap ns name s = (.error cause, t) ∧
      effect store (reconcile group role config) s =
        (.error (.getConfigMap name ns cause), t, [.getConfigMap ns name])) ∨
    (∃ found t, store.getConfigMap ns name s = (.ok found, t) ∧ due found config = .unchanged ∧
      effect store (reconcile group role config) s =
        (.ok .unchanged, t, [.getConfigMap ns name])) ∨
    (∃ found t, store.getConfigMap ns name s = (.ok found, t) ∧ due found config ≠ .unchanged ∧
      (group.metadata.name = none ∨ group.metadata.uid = none) ∧
      effect store (reconcile group role config) s =
        (.error (.missingOwnerUid group.name), t, [.getConfigMap ns name])) ∨
    ∃ found t owner uid answer u, store.getConfigMap ns name s = (.ok found, t) ∧
      due found config ≠ .unchanged ∧
      group.metadata.name = some owner ∧ group.metadata.uid = some uid ∧
      store.applyConfigMap (ownedConfigMap group role config owner uid) t = (answer, u) ∧
      effect store (reconcile group role config) s =
        (afterWrite group role (due found config) answer, u,
          [.getConfigMap ns name,
            .applyConfigMap (ownedConfigMap group role config owner uid) answer.isOk]) := by
  intro ns name
  rcases hread : store.getConfigMap ns name s with ⟨cause | found, t⟩
  · exact .inl ⟨cause, t, rfl, effect_reconcile_error hread⟩
  by_cases hd : due found config = .unchanged
  · exact .inr (.inl ⟨found, t, rfl, hd, effect_reconcile_unchanged hread hd⟩)
  rcases hn : group.metadata.name with _ | owner
  · exact .inr (.inr (.inl ⟨found, t, rfl, hd, .inl rfl,
      effect_reconcile_unowned hread hd (.inl hn)⟩))
  rcases hu : group.metadata.uid with _ | uid
  · exact .inr (.inr (.inl ⟨found, t, rfl, hd, .inr rfl,
      effect_reconcile_unowned hread hd (.inr hu)⟩))
  rcases ha : store.applyConfigMap (ownedConfigMap group role config owner uid) t with ⟨answer, u⟩
  exact .inr (.inr (.inr ⟨found, t, owner, uid, answer, u, rfl, hd, rfl, rfl, ha,
    effect_reconcile_owned hread hd hn hu ha⟩))

/-- What is missing is an owner exactly if something is due and the group cannot own it. -/
theorem result_reconcile_eq_missing
    (h : store.getConfigMap group.namespaceOrDefault (group.workloadName role) s = (.ok found, t)) :
    ((reconcile group role config).run store s).result = .error (.missingOwnerUid group.name) ↔
      due found config ≠ .unchanged ∧
        (group.metadata.name = none ∨ group.metadata.uid = none) := by
  by_cases hd : due found config = .unchanged
  · rw [(run_of_effect (effect_reconcile_unchanged h hd)).1]
    simp [hd]
  by_cases ho : group.metadata.name = none ∨ group.metadata.uid = none
  · rw [(run_of_effect (effect_reconcile_unowned h hd ho)).1]
    simp [hd, ho]
  · obtain ⟨hn, hu⟩ := not_or.1 ho
    obtain ⟨owner, hn⟩ := Option.ne_none_iff_exists'.1 hn
    obtain ⟨uid, hu⟩ := Option.ne_none_iff_exists'.1 hu
    rw [(run_of_effect (effect_reconcile_owned h hd hn hu rfl)).1]
    cases (store.applyConfigMap (ownedConfigMap group role config owner uid) t).1 <;>
      simp [afterWrite, ho]

end

open RoleDiscovery.Action in
/-- A reconcile reads the ConfigMap of the role once. If that fails, nothing else happens. Else it
is decided by what was found whether the ConfigMap is written, which takes an owner: then it is
replaced as a whole, under the key that was read, by one that holds the topology. -/
theorem reconcile_writes_if_due {σ : Type} (store : Store σ) (s : σ) (group : RoleBasedGroup)
    (role : RoleSpec) (config : ClusterConfig) :
    let ns := group.namespaceOrDefault
    let name := group.workloadName role
    let decided := (decide name ns config).run store s
    let run := (reconcile group role config).run store s
    (∀ cause t, store.getConfigMap ns name s = (.error cause, t) →
      decided.result = .error (.getConfigMap name ns cause) ∧
        run.result = .error (.getConfigMap name ns cause) ∧ run.store = t ∧
        run.calls = [.getConfigMap ns name]) ∧
    ∀ found t, store.getConfigMap ns name s = (.ok found, t) →
      ∃ decision, decided.result = .ok decision ∧
        (decision = .create ↔ found = none) ∧
        (decision = .unchanged ↔ ∃ current, found = some current ∧ current.Holds config) ∧
        (decision = .update ↔ ∃ current, found = some current ∧ ¬current.Holds config) ∧
        (run.result = .error (.missingOwnerUid group.name) ↔
          decision ≠ .unchanged ∧ (group.metadata.name = none ∨ group.metadata.uid = none)) ∧
        (decision = .unchanged →
          run.result = .ok .unchanged ∧ run.store = t ∧ run.calls = [.getConfigMap ns name]) ∧
        (decision ≠ .unchanged → group.metadata.name = none ∨ group.metadata.uid = none →
          run.store = t ∧ run.calls = [.getConfigMap ns name]) ∧
        (decision ≠ .unchanged → ∀ owner uid,
          group.metadata.name = some owner → group.metadata.uid = some uid →
          ∃ written, written = ownedConfigMap group role config owner uid ∧
            written.key = (ns, name) ∧ written.Holds config ∧
            ∀ answer u, store.applyConfigMap written t = (answer, u) →
              run.store = u ∧
              run.calls = [.getConfigMap ns name, .applyConfigMap written answer.isOk] ∧
              run.result = match answer with
                | .error cause => .error (.applyConfigMap name ns cause)
                | .ok () => .ok decision) := by
  intro ns name decided run
  constructor
  · intro cause t hread
    exact ⟨(run_of_effect (effect_decide hread)).1,
      run_of_effect (effect_reconcile_error hread)⟩
  · intro found t hread
    refine ⟨due found config, (run_of_effect (effect_decide hread)).1, due_eq_create,
      due_eq_unchanged, due_eq_update, result_reconcile_eq_missing hread, ?_, ?_, ?_⟩
    · intro hd
      exact run_of_effect (effect_reconcile_unchanged hread hd)
    · intro hd ho
      exact (run_of_effect (effect_reconcile_unowned hread hd ho)).2
    · intro hd owner uid hn hu
      refine ⟨_, rfl, key_ownedConfigMap, holds_ownedConfigMap, ?_⟩
      intro answer u hanswer
      obtain ⟨hresult, hstore, hcalls⟩ :=
        run_of_effect (effect_reconcile_owned hread hd hn hu hanswer)
      refine ⟨hstore, hcalls, hresult.trans ?_⟩
      cases answer <;> rfl

end RoleDiscovery
