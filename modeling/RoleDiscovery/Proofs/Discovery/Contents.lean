import RoleDiscovery.Proofs.Discovery
import RoleDiscovery.Proofs.Store.Contents

/-!
# What a reconcile leaves in a store

A reconcile that fails leaves a store as it was, whatever call of it failed. One that succeeds
leaves the topology under the key of the role. Other keys are never touched.

Results:

* `Contents.HeldAt`: the ConfigMap under a key holds a topology.
* `contents_of_reconcile_error`, `contents_of_reconcile_ok`: what a reconcile makes of the contents.
* `heldAt_of_reconcile_ok`: after a success the topology is there.
* `configMap?_of_reconcile`: other keys are left alone.
* `reconcile_of_heldAt`: a reconcile only reads if the topology is there.
* `reconcile_of_works`, `reconcile_of_not_heldAt`: on a store that works a reconcile succeeds, and
  writes if the topology is not there.
-/

namespace RoleDiscovery

open RoleDiscovery.Action

/-- The ConfigMap under a key holds a topology. -/
def Contents.HeldAt (contents : Contents) (ns key : String) (config : ClusterConfig) : Prop :=
  ∃ stored, contents.configMap? ns key = some stored ∧ stored.Holds config

variable {contents : Contents} {group : RoleBasedGroup} {role : RoleSpec} {config : ClusterConfig}

theorem due_configMap?_eq_unchanged {ns key : String} :
    due (contents.configMap? ns key) config = .unchanged ↔ contents.HeldAt ns key config :=
  due_eq_unchanged

/-- Under a key at most one topology is held. -/
theorem Contents.HeldAt.unique {ns key : String} {other : ClusterConfig}
    (h : contents.HeldAt ns key config) (h' : contents.HeldAt ns key other) : config = other := by
  obtain ⟨stored, hfound, hholds⟩ := h
  obtain ⟨stored', hfound', hholds'⟩ := h'
  obtain rfl := Option.some.inj (hfound.symm.trans hfound')
  exact hholds.unique hholds'

theorem heldAt_put_ownedConfigMap {owner uid : String} :
    (contents.put (ownedConfigMap group role config owner uid)).HeldAt group.namespaceOrDefault
      (group.workloadName role) config :=
  ⟨ownedConfigMap group role config owner uid, if_pos key_ownedConfigMap, holds_ownedConfigMap⟩

variable {σ : Type} {store : Store σ} {contentsOf : σ → Contents} {s t : σ} {calls : List Call}

/-- A reconcile that fails could not read, could not own the ConfigMap or could not write it, and
changes nothing. -/
theorem contents_of_reconcile_error (hk : store.Keeps contentsOf) {cause : DiscoveryError}
    (h : effect store (reconcile group role config) s = (.error cause, t, calls)) :
    ((∃ error, cause = .getConfigMap (group.workloadName role) group.namespaceOrDefault error) ∨
        cause = .missingOwnerUid group.name ∨
        ∃ error, cause =
          .applyConfigMap (group.workloadName role) group.namespaceOrDefault error) ∧
      contentsOf t = contentsOf s := by
  obtain ⟨error, _, hread, heffect⟩ | ⟨_, _, _, _, heffect⟩ | ⟨_, _, hread, _, _, heffect⟩ |
    ⟨_, _, _, _, answer, _, hread, _, _, _, hwrite, heffect⟩ :=
    effect_reconcile_cases store s group role config
  · rw [heffect] at h
    cases h
    exact ⟨.inl ⟨error, rfl⟩, hk.contents_read hread⟩
  · rw [heffect] at h
    cases h
  · rw [heffect] at h
    cases h
    exact ⟨.inr (.inl rfl), hk.contents_read hread⟩
  · rw [heffect] at h
    cases answer with
    | error error =>
      cases h
      exact ⟨.inr (.inr ⟨error, rfl⟩),
        (hk.contents_refused hwrite).trans (hk.contents_read hread)⟩
    | ok _ => cases h

/-- A reconcile that succeeds did what was due: nothing if the topology was there, and otherwise it
wrote the ConfigMap of an owner. -/
theorem contents_of_reconcile_ok (hk : store.Keeps contentsOf) {decision : Decision}
    (h : effect store (reconcile group role config) s = (.ok decision, t, calls)) :
    decision = due ((contentsOf s).configMap? group.namespaceOrDefault (group.workloadName role))
        config ∧
      (decision = .unchanged ∧ contentsOf t = contentsOf s ∨
        decision ≠ .unchanged ∧ ∃ owner uid, group.metadata.name = some owner ∧
          group.metadata.uid = some uid ∧
          contentsOf t = (contentsOf s).put (ownedConfigMap group role config owner uid)) := by
  obtain ⟨_, _, _, heffect⟩ | ⟨_, _, hread, hdue, heffect⟩ | ⟨_, _, _, _, _, heffect⟩ |
    ⟨_, _, owner, uid, answer, _, hread, hdue, hname, huid, hwrite, heffect⟩ :=
    effect_reconcile_cases store s group role config
  · rw [heffect] at h
    cases h
  · rw [heffect] at h
    cases h
    rw [hk.found_eq hread] at hdue
    exact ⟨hdue.symm, .inl ⟨rfl, hk.contents_read hread⟩⟩
  · rw [heffect] at h
    cases h
  · rw [heffect] at h
    cases answer with
    | error failure => cases h
    | ok _ =>
      cases h
      refine ⟨?_, .inr ⟨hdue, owner, uid, hname, huid, ?_⟩⟩
      · rw [hk.found_eq hread]
      · rw [hk.contents_applied hwrite, hk.contents_read hread]

/-- A reconcile that succeeds found the topology or wrote it. -/
theorem heldAt_of_reconcile_ok (hk : store.Keeps contentsOf) {decision : Decision}
    (h : effect store (reconcile group role config) s = (.ok decision, t, calls)) :
    (contentsOf t).HeldAt group.namespaceOrDefault (group.workloadName role) config := by
  obtain ⟨hdecision, ⟨hunchanged, hsame⟩ | ⟨-, _, _, -, -, hput⟩⟩ := contents_of_reconcile_ok hk h
  · rw [hsame]
    exact due_configMap?_eq_unchanged.1 (hdecision.symm.trans hunchanged)
  · rw [hput]
    exact heldAt_put_ownedConfigMap

/-- No reconcile changes what is kept under the keys of other roles. -/
theorem configMap?_of_reconcile (hk : store.Keeps contentsOf)
    {result : Except DiscoveryError Decision}
    (h : effect store (reconcile group role config) s = (result, t, calls)) {ns name : String}
    (hne : (ns, name) ≠ (group.namespaceOrDefault, group.workloadName role)) :
    (contentsOf t).configMap? ns name = (contentsOf s).configMap? ns name := by
  rcases result with cause | decision
  · rw [(contents_of_reconcile_error hk h).2]
  · obtain ⟨-, ⟨-, hsame⟩ | ⟨-, _, _, -, -, hput⟩⟩ := contents_of_reconcile_ok hk h
    · rw [hsame]
    · rw [hput]
      exact if_neg (key_ownedConfigMap.trans_ne hne.symm)

/-- No reconcile changes a profile. -/
theorem profile?_of_reconcile (hk : store.Keeps contentsOf)
    {result : Except DiscoveryError Decision}
    (h : effect store (reconcile group role config) s = (result, t, calls)) :
    (contentsOf t).profile? = (contentsOf s).profile? := by
  rcases result with cause | decision
  · rw [(contents_of_reconcile_error hk h).2]
  · obtain ⟨-, ⟨-, hsame⟩ | ⟨-, _, _, -, -, hput⟩⟩ := contents_of_reconcile_ok hk h
    · rw [hsame]
    · rw [hput]
      rfl

/-! ## Stores that answer -/

/-- A reconcile that finds the topology only reads. -/
theorem reconcile_of_heldAt (hk : store.Keeps contentsOf) {reading : σ → Prop}
    (hfinds : store.Finds group.namespaceOrDefault (group.workloadName role) reading)
    (hs : reading s)
    (h : (contentsOf s).HeldAt group.namespaceOrDefault (group.workloadName role) config) :
    ∃ t, effect store (reconcile group role config) s =
        (.ok .unchanged, t, [.getConfigMap group.namespaceOrDefault (group.workloadName role)]) ∧
      contentsOf t = contentsOf s ∧ reading t := by
  obtain ⟨found, t, hread, ht⟩ := hfinds s hs
  have hdue : due found config = .unchanged := by
    rw [hk.found_eq hread]
    exact due_configMap?_eq_unchanged.2 h
  exact ⟨t, effect_reconcile_unchanged hread hdue, hk.contents_read hread, ht⟩

section

variable {working : σ → Prop} (hw : store.Works working) (hs : working s)

include hw hs

/-- On a store that works a group with a name and a uid is always served. -/
theorem reconcile_of_works (role : RoleSpec) (config : ClusterConfig)
    (hname : group.metadata.name.isSome) (huid : group.metadata.uid.isSome) :
    ∃ decision t calls, effect store (reconcile group role config) s = (.ok decision, t, calls) ∧
      working t := by
  obtain ⟨owner, hname⟩ := Option.isSome_iff_exists.1 hname
  obtain ⟨uid, huid⟩ := Option.isSome_iff_exists.1 huid
  obtain ⟨found, t, hread, ht⟩ := hw.found hs group.namespaceOrDefault (group.workloadName role)
  by_cases hdue : due found config = .unchanged
  · exact ⟨_, _, _, effect_reconcile_unchanged hread hdue, ht⟩
  · obtain ⟨u, hwrite, hu⟩ := hw.applied ht (ownedConfigMap group role config owner uid)
    exact ⟨_, _, _, effect_reconcile_owned hread hdue hname huid hwrite, hu⟩

/-- A reconcile that does not find the topology writes it once, if the group can own it. -/
theorem reconcile_of_not_heldAt (hk : store.Keeps contentsOf) {owner uid : String}
    (hname : group.metadata.name = some owner) (huid : group.metadata.uid = some uid)
    (h : ¬(contentsOf s).HeldAt group.namespaceOrDefault (group.workloadName role) config) :
    ∃ decision t, effect store (reconcile group role config) s =
        (.ok decision, t, [.getConfigMap group.namespaceOrDefault (group.workloadName role),
          .applyConfigMap (ownedConfigMap group role config owner uid) true]) ∧
      contentsOf t = (contentsOf s).put (ownedConfigMap group role config owner uid) ∧
      working t := by
  obtain ⟨found, u, hread, hu⟩ := hw.found hs group.namespaceOrDefault (group.workloadName role)
  have hdue : due found config ≠ .unchanged := by
    rw [hk.found_eq hread]
    exact mt due_configMap?_eq_unchanged.1 h
  obtain ⟨t, hwrite, ht⟩ := hw.applied hu (ownedConfigMap group role config owner uid)
  refine ⟨_, t, effect_reconcile_owned hread hdue hname huid hwrite, ?_, ht⟩
  rw [hk.contents_applied hwrite, hk.contents_read hread]

end

end RoleDiscovery
