import RoleDiscovery.Proofs.Discovery.Contents

/-!
# Reconciles of given topologies

A role may be reconciled again and again with a topology that is given, whatever its group declares,
on any store. On a store that works this succeeds if the group can own anything.

Results:

* `Upkeep`: a role of a group with the topology that is due.
* `Upkeep.run`, `Upkeep.storeAfter`: a reconcile of it, and the store after several.
* `Upkeep.configMap?_run`, `Upkeep.heldAt_run`, `Upkeep.result_of_heldAt`: what one reconcile does.
* `Upkeep.run_of_works`, `Upkeep.run_cases`: what it does on a store that works.
* `Upkeep.storeAfter_keeps`: what each reconcile keeps is kept by all.
* `Upkeep.heldAt_storeAfter`, `Upkeep.succeed_of_works`: what came of a role stays, and all
  reconciles succeed on a store that works.
-/

namespace RoleDiscovery

open RoleDiscovery.Action

/-- The upkeep of a role: what its reconciles are given. -/
structure Upkeep where
  group : RoleBasedGroup
  role : RoleSpec
  config : ClusterConfig

namespace Upkeep

/-- The key of the ConfigMap that is kept up. -/
def key (upkeep : Upkeep) : String × String :=
  (upkeep.group.namespaceOrDefault, upkeep.group.workloadName upkeep.role)

/-- One reconcile. -/
def action (upkeep : Upkeep) : Action (Except DiscoveryError Decision) :=
  reconcile upkeep.group upkeep.role upkeep.config

section

variable {σ : Type} (store : Store σ)

/-- The run of a reconcile. -/
def run (upkeep : Upkeep) (s : σ) : Run σ (Except DiscoveryError Decision) :=
  upkeep.action.run store s

/-- The store after reconciles. -/
def storeAfter (s : σ) (passes : List Upkeep) : σ :=
  passes.foldl (fun t pass => (pass.run store t).store) s

/-- All reconciles of a sequence succeed. -/
def Succeed (s : σ) (passes : List Upkeep) : Prop :=
  ∀ before pass after, passes = before ++ pass :: after →
    ∃ decision, (pass.run store (storeAfter store s before)).result = .ok decision

end

variable {σ : Type} {store : Store σ} {contents : σ → Contents} {s : σ} {pass other : Upkeep}
  {passes before after : List Upkeep}

/-! ## One reconcile -/

theorem effect_of_result {result : Except DiscoveryError Decision}
    (h : (pass.run store s).result = result) :
    effect store (reconcile pass.group pass.role pass.config) s =
      (result, (pass.run store s).store, (pass.run store s).calls) := by
  rw [← h]
  rfl

section

variable (hk : store.Keeps contents)

include hk

/-- A reconcile leaves the other keys alone. -/
theorem configMap?_run {ns name : String} (hne : (ns, name) ≠ pass.key) :
    (contents (pass.run store s).store).configMap? ns name = (contents s).configMap? ns name :=
  configMap?_of_reconcile hk (effect_of_result rfl) hne

theorem heldAt_run {decision : Decision} (h : (pass.run store s).result = .ok decision) :
    (contents (pass.run store s).store).HeldAt pass.key.1 pass.key.2 pass.config :=
  heldAt_of_reconcile_ok hk (effect_of_result h)

/-- What a role holds stays through the reconciles of roles that do not want something else
there. -/
theorem heldAt_run_of_agrees (hagrees : pass.key = other.key → pass.config = other.config)
    (hheld : (contents s).HeldAt other.key.1 other.key.2 other.config) :
    (contents (pass.run store s).store).HeldAt other.key.1 other.key.2 other.config := by
  rcases hresult : (pass.run store s).result with cause | decision
  · rw [(contents_of_reconcile_error hk (effect_of_result hresult)).2]
    exact hheld
  by_cases hkey : pass.key = other.key
  · rw [← hkey, ← hagrees hkey]
    exact heldAt_run hk hresult
  · obtain ⟨stored, hfound, hholds⟩ := hheld
    exact ⟨stored, (configMap?_run hk (Ne.symm hkey)).trans hfound, hholds⟩

/-- A reconcile that finds its topology and succeeds has nothing to do. -/
theorem result_of_heldAt {decision : Decision} (h : (pass.run store s).result = .ok decision)
    (hheld : (contents s).HeldAt pass.key.1 pass.key.2 pass.config) :
    (pass.run store s).result = .ok .unchanged := by
  rw [h, (contents_of_reconcile_ok hk (effect_of_result h)).1]
  exact congrArg Except.ok (due_configMap?_eq_unchanged.2 hheld)

end

/-! ## Stores that work -/

/-- The group of a role has what it takes to own a ConfigMap. -/
structure CanOwn (pass : Upkeep) : Prop where
  name_isSome : pass.group.metadata.name.isSome
  uid_isSome : pass.group.metadata.uid.isSome

section

variable {working : σ → Prop} (hw : store.Works working) (hs : working s) (ho : pass.CanOwn)

include hw hs ho

/-- On a store that works a group that can own anything is always served. -/
theorem run_of_works :
    working (pass.run store s).store ∧
      ∃ decision, (pass.run store s).result = .ok decision := by
  obtain ⟨decision, t, calls, heffect, ht⟩ :=
    reconcile_of_works hw hs pass.role pass.config ho.name_isSome ho.uid_isSome
  obtain ⟨hresult, hstore, -⟩ := run_of_effect heffect
  exact ⟨hstore ▸ ht, decision, hresult⟩

/-- What a reconcile does: nothing if the topology is held; else it replaces the ConfigMap by one
that holds it. -/
theorem run_cases (hk : store.Keeps contents) :
    ((contents s).HeldAt pass.key.1 pass.key.2 pass.config ∧
      (pass.run store s).result = .ok .unchanged ∧
      contents (pass.run store s).store = contents s ∧
      (pass.run store s).calls = [.getConfigMap pass.key.1 pass.key.2]) ∨
    ¬(contents s).HeldAt pass.key.1 pass.key.2 pass.config ∧
      ∃ decision written, written.key = pass.key ∧ written.Holds pass.config ∧
        (pass.run store s).result = .ok decision ∧
        contents (pass.run store s).store = (contents s).put written ∧
        (pass.run store s).calls =
          [.getConfigMap pass.key.1 pass.key.2, .applyConfigMap written true] := by
  by_cases hheld : (contents s).HeldAt pass.key.1 pass.key.2 pass.config
  · obtain ⟨t, heffect, hsame, -⟩ := reconcile_of_heldAt hk (hw.finds _ _) hs hheld
    obtain ⟨hresult, hstore, hcalls⟩ := run_of_effect heffect
    exact .inl ⟨hheld, hresult, (congrArg contents hstore).trans hsame, hcalls⟩
  · obtain ⟨owner, hname⟩ := Option.isSome_iff_exists.1 ho.name_isSome
    obtain ⟨uid, huid⟩ := Option.isSome_iff_exists.1 ho.uid_isSome
    obtain ⟨decision, t, heffect, hput, -⟩ := reconcile_of_not_heldAt hw hs hk hname huid hheld
    obtain ⟨hresult, hstore, hcalls⟩ := run_of_effect heffect
    exact .inr ⟨hheld, decision, _, key_ownedConfigMap, holds_ownedConfigMap, hresult,
      (congrArg contents hstore).trans hput, hcalls⟩

/-- A reconcile writes if the topology is not held. -/
theorem applies_iff (hk : store.Keeps contents) :
    (∃ configMap succeeded, .applyConfigMap configMap succeeded ∈ (pass.run store s).calls) ↔
      ¬(contents s).HeldAt pass.key.1 pass.key.2 pass.config := by
  obtain ⟨hheld, -, -, hcalls⟩ | ⟨hheld, _, written, -, -, -, -, hcalls⟩ :=
    run_cases hw hs ho hk
  · rw [hcalls]
    simp [hheld]
  · rw [hcalls]
    simp [hheld]

end

/-! ## Reconciles in a row -/

theorem storeAfter_append :
    storeAfter store s (before ++ after) = storeAfter store (storeAfter store s before) after :=
  List.foldl_append

/-- What each reconcile keeps is kept by all. -/
theorem storeAfter_keeps (kept : σ → Prop)
    (hstep : ∀ pass ∈ passes, ∀ t, kept t → kept (pass.run store t).store) (hs : kept s) :
    kept (storeAfter store s passes) := by
  induction passes generalizing s with
  | nil => exact hs
  | cons pass passes ih =>
    exact ih (fun p hm => hstep p (List.mem_cons_of_mem _ hm))
      (hstep pass List.mem_cons_self s hs)

theorem heldAt_storeAfter (hk : store.Keeps contents)
    (hagree : ∀ pass ∈ passes, pass.key = other.key → pass.config = other.config)
    (hheld : (contents s).HeldAt other.key.1 other.key.2 other.config) :
    (contents (storeAfter store s passes)).HeldAt other.key.1 other.key.2 other.config :=
  storeAfter_keeps (fun t => (contents t).HeldAt other.key.1 other.key.2 other.config)
    (fun pass hm _ => heldAt_run_of_agrees hk (hagree pass hm)) hheld

section

variable {working : σ → Prop} (hw : store.Works working) (hs : working s)

include hw hs

theorem working_storeAfter (ho : ∀ pass ∈ passes, pass.CanOwn) :
    working (storeAfter store s passes) :=
  storeAfter_keeps working (fun pass hm _ ht => (run_of_works hw ht (ho pass hm)).1) hs

theorem succeed_of_works (ho : ∀ pass ∈ passes, pass.CanOwn) : Succeed store s passes := by
  rintro before pass after rfl
  have hbefore : working (storeAfter store s before) :=
    working_storeAfter hw hs fun p hm => ho p (List.mem_append_left _ hm)
  exact (run_of_works hw hbefore (ho pass (by simp))).2

end

/-- The only role of a group, reconciled with the topology of the group. -/
def ofNames (group uid role : String) : Upkeep :=
  let owner : RoleBasedGroup :=
    { metadata := { name := some group, uid := some uid }
      spec := { roles := [{ name := role }] } }
  { group := owner, role := { name := role }, config := ClusterConfig.ofGroup owner }

theorem canOwn_ofNames (group uid role : String) : (ofNames group uid role).CanOwn :=
  ⟨rfl, rfl⟩

end Upkeep

end RoleDiscovery
