import RoleDiscovery.Proofs.Discovery.Upkeep
import RoleDiscovery.Proofs.Topology.Builder

/-!
# Runs of reconciles

The versions of one group are reconciled one after another, role by role in any order, on a store
that does not fail. The ConfigMap of a role is then written when the topology of the group has
changed since its last reconcile, and at no other time.

Results:

* `Upkeep.IsPassOf`: a reconcile of a role with the topology of a version of the group.
* `Upkeep.applies_iff_changed`: which of two successive passes of a role write.
* `Upkeep.writes_le`: how often a role is written.
* `writes_follow_changes`: the results, the effects and the number of writes of a run.
-/

namespace RoleDiscovery

open RoleDiscovery.Action

/-- What the versions of a group have in common: its name and its namespace. Each has a uid. -/
structure IsVersionOf (name ns : String) (group : RoleBasedGroup) : Prop where
  name_eq : group.metadata.name = some name
  ns_eq : group.namespaceOrDefault = ns
  uid_isSome : group.metadata.uid.isSome

/-- A pass of the group: a role of one of its versions is reconciled with the topology of that
version. -/
structure Upkeep.IsPassOf (name ns : String) (pass : Upkeep) : Prop
    extends IsVersionOf name ns pass.group where
  config_eq : pass.config = ClusterConfig.ofGroup pass.group

/-- Whether a call writes the ConfigMap under a key. -/
def Call.writes (key : String × String) : Call → Bool
  | .applyConfigMap configMap _ => configMap.key = key
  | _ => false

/-- How often the value of a list changes from one element to the next. -/
def changes {α : Type} [DecidableEq α] : List α → Nat
  | a :: b :: rest => (if a = b then 0 else 1) + changes (b :: rest)
  | _ => 0

namespace Upkeep

/-- The calls of reconciles. -/
def callsOf {σ : Type} (store : Store σ) (s : σ) : List Upkeep → List Call
  | [] => []
  | pass :: rest => (pass.run store s).calls ++ callsOf store (pass.run store s).store rest

/-- The topologies that the passes of a role are given. -/
def topologies (role : String) (passes : List Upkeep) : List (List RoleTopology) :=
  (passes.filter fun pass => pass.role.name = role).map fun pass => pass.group.topology

theorem topologies_cons_of_eq {pass : Upkeep} (passes : List Upkeep) {role : String}
    (h : pass.role.name = role) :
    topologies role (pass :: passes) = pass.group.topology :: topologies role passes := by
  simp [topologies, h]

theorem topologies_cons_of_ne {pass : Upkeep} (passes : List Upkeep) {role : String}
    (h : pass.role.name ≠ role) :
    topologies role (pass :: passes) = topologies role passes := by
  simp [topologies, h]

/-! ## Passes -/

section

variable {name ns : String} {pass other : Upkeep}

theorem IsPassOf.canOwn (h : pass.IsPassOf name ns) : pass.CanOwn where
  name_isSome := by rw [h.name_eq, Option.isSome_some]
  uid_isSome := h.uid_isSome

theorem IsPassOf.key_eq (h : pass.IsPassOf name ns) :
    pass.key = (ns, name ++ "-" ++ pass.role.name) := by
  rw [key, h.ns_eq, RoleBasedGroup.workloadName, RoleBasedGroup.name, ObjectMeta.nameOrGenerated,
    h.name_eq]
  rfl

/-- Roles of different names have different keys. -/
theorem IsPassOf.key_eq_iff (h : pass.IsPassOf name ns) {role : String} :
    pass.key = (ns, name ++ "-" ++ role) ↔ pass.role.name = role := by
  rw [h.key_eq]
  constructor
  · intro heq
    have hlist := congrArg String.toList (Prod.mk.inj heq).2
    simp only [String.toList_append] at hlist
    exact String.toList_inj.1 (List.append_cancel_left hlist)
  · intro heq
    rw [heq]

/-- Two passes have the same topology if their versions agree on what counts of their roles. -/
theorem IsPassOf.config_eq_iff (h : pass.IsPassOf name ns) (ho : other.IsPassOf name ns) :
    pass.config = other.config ↔ pass.group.topology = other.group.topology := by
  have hname : pass.group.name = other.group.name := by
    simp only [RoleBasedGroup.name, ObjectMeta.nameOrGenerated, h.name_eq, ho.name_eq]
    rfl
  have hns : pass.group.namespaceOrDefault = other.group.namespaceOrDefault :=
    h.ns_eq.trans ho.ns_eq.symm
  rw [h.config_eq, ho.config_eq, ClusterConfig.ofGroup_eq_iff]
  simp [hname, hns]

end

section

variable {σ : Type} {store : Store σ} {contents : σ → Contents} {working : σ → Prop} {s : σ}
  {name ns : String} {first pass last : Upkeep} {passes : List Upkeep}
  (hk : store.Keeps contents) (hw : store.Works working) (hs : working s)

include hk hw hs

/-- Of two passes of a role without one in between, the later writes if the topology has changed. -/
theorem applies_iff_changed (hf : first.IsPassOf name ns) (hl : last.IsPassOf name ns)
    (hp : ∀ pass ∈ passes, pass.IsPassOf name ns) (hrole : first.role.name = last.role.name)
    (hne : ∀ pass ∈ passes, pass.role.name ≠ last.role.name) :
    (∃ configMap succeeded, .applyConfigMap configMap succeeded ∈
        (last.run store (storeAfter store s (first :: passes))).calls) ↔
      first.group.topology ≠ last.group.topology := by
  obtain ⟨-, _, hok⟩ := run_of_works hw hs hf.canOwn
  have hkey : first.key = last.key := by rw [hf.key_eq, hl.key_eq, hrole]
  -- the passes in between are of other roles, and so have other keys
  have hothers : ∀ pass ∈ passes, pass.key = first.key → pass.config = first.config := by
    intro pass hm heq
    rw [hkey, hl.key_eq, (hp pass hm).key_eq_iff] at heq
    exact absurd heq (hne pass hm)
  have hheld := heldAt_storeAfter hk hothers (heldAt_run hk hok)
  rw [hkey] at hheld
  have hlast : working (storeAfter store s (first :: passes)) :=
    working_storeAfter hw hs
      (List.forall_mem_cons.2 ⟨hf.canOwn, fun p hm => (hp p hm).canOwn⟩)
  rw [applies_iff hw hlast hl.canOwn hk, not_iff_not, ← hf.config_eq_iff hl]
  constructor
  · exact hheld.unique
  · intro h
    exact h ▸ hheld

/-! ## Counting writes -/

theorem countP_of_ne (ho : pass.CanOwn) {key : String × String} (hne : pass.key ≠ key) :
    (pass.run store s).calls.countP (Call.writes key) = 0 := by
  obtain ⟨-, -, -, hcalls⟩ | ⟨-, _, written, hkey, -, -, -, hcalls⟩ := run_cases hw hs ho hk
  · rw [hcalls]
    rfl
  · have hwrite : written.key ≠ key := hkey.trans_ne hne
    rw [hcalls]
    simp [Call.writes, hwrite]

theorem countP_of_heldAt (ho : pass.CanOwn)
    (h : (contents s).HeldAt pass.key.1 pass.key.2 pass.config) (key : String × String) :
    (pass.run store s).calls.countP (Call.writes key) = 0 := by
  obtain ⟨-, -, -, hcalls⟩ | ⟨hheld, -⟩ := run_cases hw hs ho hk
  · rw [hcalls]
    rfl
  · exact absurd h hheld

theorem countP_le_one (ho : pass.CanOwn) (key : String × String) :
    (pass.run store s).calls.countP (Call.writes key) ≤ 1 := by
  obtain ⟨-, -, -, hcalls⟩ | ⟨-, _, written, -, -, -, -, hcalls⟩ := run_cases hw hs ho hk
  · rw [hcalls]
    exact Nat.zero_le 1
  · rw [hcalls]
    show List.countP _ [Call.applyConfigMap written true] ≤ 1
    exact List.countP_le_length

/-- Once its ConfigMap holds a topology, a role is written only when the topology changes. -/
theorem writes_le_of_heldAt (hf : first.IsPassOf name ns)
    (hp : ∀ pass ∈ passes, pass.IsPassOf name ns)
    (h : (contents s).HeldAt first.key.1 first.key.2 first.config) :
    (callsOf store s passes).countP (Call.writes first.key) ≤
      changes (first.group.topology :: topologies first.role.name passes) := by
  induction passes generalizing s first with
  | nil => exact Nat.zero_le _
  | cons pass passes ih =>
    have hv := hp pass List.mem_cons_self
    have hrest := fun p hm => hp p (List.mem_cons_of_mem _ hm)
    obtain ⟨hrun, _, hok⟩ := run_of_works hw hs hv.canOwn
    rw [callsOf, List.countP_append]
    by_cases hr : pass.role.name = first.role.name
    · have hkey : pass.key = first.key := by rw [hv.key_eq, hf.key_eq, hr]
      have hle := ih hrun hv hrest (heldAt_run hk hok)
      rw [hkey, hr] at hle
      rw [topologies_cons_of_eq passes hr, changes]
      by_cases heq : first.group.topology = pass.group.topology
      · have hheld : (contents s).HeldAt pass.key.1 pass.key.2 pass.config := by
          rw [hkey, ← (hf.config_eq_iff hv).2 heq]
          exact h
        rw [countP_of_heldAt hk hw hs hv.canOwn hheld, if_pos heq]
        exact Nat.add_le_add_left hle 0
      · rw [if_neg heq]
        exact Nat.add_le_add (countP_le_one hk hw hs hv.canOwn _) hle
    · have hkey : pass.key ≠ first.key := by
        rw [hf.key_eq, Ne, hv.key_eq_iff]
        exact hr
      rw [countP_of_ne hk hw hs hv.canOwn hkey, Nat.zero_add, topologies_cons_of_ne passes hr]
      exact ih hrun hf hrest (heldAt_run_of_agrees hk (fun heq => absurd heq hkey) h)

/-- A role is written at most once more often than its topology changes. -/
theorem writes_le (hp : ∀ pass ∈ passes, pass.IsPassOf name ns) (role : String) :
    (callsOf store s passes).countP (Call.writes (ns, name ++ "-" ++ role)) ≤
      1 + changes (topologies role passes) := by
  induction passes generalizing s with
  | nil => exact Nat.zero_le _
  | cons pass passes ih =>
    have hv := hp pass List.mem_cons_self
    have hrest := fun p hm => hp p (List.mem_cons_of_mem _ hm)
    obtain ⟨hrun, _, hok⟩ := run_of_works hw hs hv.canOwn
    rw [callsOf, List.countP_append]
    by_cases hr : pass.role.name = role
    · rw [topologies_cons_of_eq passes hr]
      subst hr
      rw [← hv.key_eq]
      exact Nat.add_le_add (countP_le_one hk hw hs hv.canOwn _)
        (writes_le_of_heldAt hk hw hrun hv hrest (heldAt_run hk hok))
    · have hkey : pass.key ≠ (ns, name ++ "-" ++ role) := mt hv.key_eq_iff.1 hr
      rw [countP_of_ne hk hw hs hv.canOwn hkey, Nat.zero_add, topologies_cons_of_ne passes hr]
      exact ih hrun hrest

end

end Upkeep

/-! ## Runs -/

/-- Over any run of passes for the versions of one group, on a store that works, every pass
succeeds, leaves the topology of its version under the key of its role and changes no other key. Of
two successive passes of a role the later one writes if the topology has changed, so that a role is
written at most once more often than that. -/
theorem writes_follow_changes {σ : Type} (store : Store σ) (contents : σ → Contents)
    (working : σ → Prop) (hk : store.Keeps contents) (hw : store.Works working)
    (name ns : String) (s : σ) (passes : List Upkeep) (hs : working s)
    (hp : ∀ pass ∈ passes, pass.IsPassOf name ns) :
    (∀ before pass after, passes = before ++ pass :: after →
      let found := Upkeep.storeAfter store s before
      let run := pass.run store found
      (∃ decision, run.result = .ok decision) ∧
        (∃ stored, (contents run.store).configMap? ns (name ++ "-" ++ pass.role.name) =
            some stored ∧
          stored.config? = some (ClusterConfig.ofGroup pass.group)) ∧
        ∀ key : String × String, key ≠ (ns, name ++ "-" ++ pass.role.name) →
          (contents run.store).configMap? key.1 key.2 =
            (contents found).configMap? key.1 key.2) ∧
      (∀ before first between last after,
        passes = before ++ first :: (between ++ last :: after) →
        first.role.name = last.role.name →
        (∀ pass ∈ between, pass.role.name ≠ last.role.name) →
        ((∃ configMap succeeded, .applyConfigMap configMap succeeded ∈
            (last.run store (Upkeep.storeAfter store s (before ++ first :: between))).calls) ↔
          first.group.topology ≠ last.group.topology)) ∧
      ∀ role : String,
        (Upkeep.callsOf store s passes).countP (Call.writes (ns, name ++ "-" ++ role)) ≤
          1 + changes (Upkeep.topologies role passes) := by
  refine ⟨?_, ?_, Upkeep.writes_le hk hw hs hp⟩
  · intro before pass after hpasses found run
    subst hpasses
    have hv : pass.IsPassOf name ns := hp pass (by simp)
    have hfound : working found :=
      Upkeep.working_storeAfter hw hs fun p hm => (hp p (by simp [hm])).canOwn
    obtain ⟨-, decision, hok⟩ := Upkeep.run_of_works hw hfound hv.canOwn
    obtain ⟨stored, hstored, hholds⟩ := Upkeep.heldAt_run hk hok
    rw [hv.key_eq] at hstored
    rw [hv.config_eq] at hholds
    refine ⟨⟨decision, hok⟩, ⟨stored, hstored, ConfigMap.config?_eq_some.2 hholds⟩, ?_⟩
    intro key hne
    rw [← hv.key_eq] at hne
    exact Upkeep.configMap?_run hk hne
  · intro before first between last after hpasses hrole hne
    subst hpasses
    rw [Upkeep.storeAfter_append]
    have hbefore : working (Upkeep.storeAfter store s before) :=
      Upkeep.working_storeAfter hw hs fun p hm => (hp p (by simp [hm])).canOwn
    exact Upkeep.applies_iff_changed hk hw hbefore (hp first (by simp)) (hp last (by simp))
      (fun p hm => hp p (by simp [hm])) hrole hne

/-- A pass for a version of a group with one role, by its number of replicas. -/
def Upkeep.ofReplicas (replicas : Int32) : Upkeep :=
  let role : RoleSpec := { name := "worker", replicas := some replicas }
  let group : RoleBasedGroup :=
    { metadata := { name := some "serving", uid := some "7f" }
      spec := { roles := [role] } }
  { group, role, config := ClusterConfig.ofGroup group }

/-- The second of three passes finds nothing to do, and the third follows a change. -/
theorem writes_follow_changes_of_replicas :
    Memory.store.Keeps Memory.contents ∧ Memory.store.Works Memory.Works ∧ Memory.Works {} ∧
      (∀ pass ∈ [Upkeep.ofReplicas 1, Upkeep.ofReplicas 1, Upkeep.ofReplicas 2],
        pass.IsPassOf "serving" "default") ∧
      (¬∃ configMap succeeded, .applyConfigMap configMap succeeded ∈
        ((Upkeep.ofReplicas 1).run Memory.store
          (Upkeep.storeAfter Memory.store {} [Upkeep.ofReplicas 1])).calls) ∧
      (∃ configMap succeeded, .applyConfigMap configMap succeeded ∈
        ((Upkeep.ofReplicas 2).run Memory.store
          (Upkeep.storeAfter Memory.store {} [Upkeep.ofReplicas 1, Upkeep.ofReplicas 1])).calls) ∧
      (Upkeep.callsOf Memory.store {}
          [Upkeep.ofReplicas 1, Upkeep.ofReplicas 1, Upkeep.ofReplicas 2]).countP
        (Call.writes ("default", "serving-worker")) ≤ 2 := by
  have hw : Memory.Works {} := ⟨rfl, rfl⟩
  have hp : ∀ pass ∈ [Upkeep.ofReplicas 1, Upkeep.ofReplicas 1, Upkeep.ofReplicas 2],
      pass.IsPassOf "serving" "default" := by
    simp only [List.forall_mem_cons, List.not_mem_nil, false_implies, implies_true, and_true]
    exact ⟨⟨⟨rfl, rfl, rfl⟩, rfl⟩, ⟨⟨rfl, rfl, rfl⟩, rfl⟩, ⟨⟨rfl, rfl, rfl⟩, rfl⟩⟩
  obtain ⟨-, hchanged, hcount⟩ := writes_follow_changes Memory.store Memory.contents Memory.Works
    Memory.keeps Memory.works_store "serving" "default" {} _ hw hp
  have hchanges : changes (Upkeep.topologies "worker"
      [Upkeep.ofReplicas 1, Upkeep.ofReplicas 1, Upkeep.ofReplicas 2]) = 1 := by
    decide
  have hle := hcount "worker"
  rw [hchanges] at hle
  refine ⟨Memory.keeps, Memory.works_store, hw, hp, ?_, ?_, hle⟩
  · have hsame := hchanged [] (Upkeep.ofReplicas 1) [] (Upkeep.ofReplicas 1)
      [Upkeep.ofReplicas 2] rfl rfl (by simp)
    exact fun h => hsame.1 h rfl
  · have hother := hchanged [Upkeep.ofReplicas 1] (Upkeep.ofReplicas 1) [] (Upkeep.ofReplicas 2) []
      rfl rfl (by simp)
    exact hother.2 (by decide)

end RoleDiscovery
