import RoleDiscovery.Proofs.Discovery.Upkeep
import RoleDiscovery.Proofs.Topology.Builder

/-!
# Who owns a discovery ConfigMap

What is written names the group as its controller. Whether anything is written, though, depends on
the topology alone, so that a ConfigMap that holds the topology keeps the owner it has. That may be
a group that is gone, if one of the same name has taken its place. Where only one group has written
under a key, that group owns what it has reconciled.

Results:

* `ConfigMap.OwnedBy`: a ConfigMap is controlled by the group with a uid.
* `Contents.OwnedAt`, `Contents.ReservedFor`: so is what stands under a key, if anything has to.
* `configMap?_of_reconcile_ok`: what stands under the key of a role after a success.
* `Upkeep.reservedFor_storeAfter`, `Upkeep.ownedAt_storeAfter`: what one group alone writes is its
  own, over any run of reconciles.
* `Upkeep.owner_stays`: what another group left is not taken over.
* `reconcile_owns_what_it_writes`: whose the ConfigMap of a role is after a success.
-/

namespace RoleDiscovery

open RoleDiscovery.Action

/-! ## Owners -/

/-- A reference by which the group with a uid controls an object, and cannot be deleted before
it. -/
structure OwnerReference.Controls (reference : OwnerReference) (uid : String) : Prop where
  uid_eq : reference.uid = uid
  controller_eq : reference.controller = some true
  blockOwnerDeletion_eq : reference.blockOwnerDeletion = some true

/-- A ConfigMap is controlled by the group with a uid. -/
def ConfigMap.OwnedBy (configMap : ConfigMap) (uid : String) : Prop :=
  ∃ reference ∈ configMap.metadata.ownerReferences.getD [], reference.Controls uid

/-- The ConfigMap under a key is controlled by the group with a uid. -/
def Contents.OwnedAt (contents : Contents) (ns name uid : String) : Prop :=
  ∃ stored, contents.configMap? ns name = some stored ∧ stored.OwnedBy uid

/-- There is nothing under a key that the group with a uid does not control. -/
def Contents.ReservedFor (contents : Contents) (ns name uid : String) : Prop :=
  ∀ stored, contents.configMap? ns name = some stored → stored.OwnedBy uid

theorem Contents.OwnedAt.reservedFor {contents : Contents} {ns name uid : String}
    (h : contents.OwnedAt ns name uid) : contents.ReservedFor ns name uid := by
  obtain ⟨stored, hstored, howned⟩ := h
  intro current hcurrent
  obtain rfl := Option.some.inj (hstored.symm.trans hcurrent)
  exact howned

section

variable {group : RoleBasedGroup} {role : RoleSpec} {config : ClusterConfig}
  {owner uid other : String}

/-- What is written has one owner, the group. -/
theorem ownedBy_ownedConfigMap :
    (ownedConfigMap group role config owner uid).OwnedBy other ↔ uid = other := by
  constructor
  · rintro ⟨reference, hm, hcontrols⟩
    obtain rfl := List.mem_singleton.1 hm
    exact hcontrols.uid_eq
  · rintro rfl
    exact ⟨_, List.mem_cons_self, rfl, rfl, rfl⟩

end

/-! ## Reconciles -/

/-- What stands under the key of a role after a success is the ConfigMap that was found, or the one
that its group owns. -/
theorem configMap?_of_reconcile_ok {σ : Type} {store : Store σ} {contents : σ → Contents} {s t : σ}
    {calls : List Call} {group : RoleBasedGroup} {role : RoleSpec} {config : ClusterConfig}
    {decision : Decision} (hk : store.Keeps contents)
    (h : effect store (reconcile group role config) s = (.ok decision, t, calls)) :
    let ns := group.namespaceOrDefault
    let name := group.workloadName role
    (∃ current, (contents s).configMap? ns name = some current ∧ current.Holds config ∧
      (contents t).configMap? ns name = some current) ∨
    ¬(contents s).HeldAt ns name config ∧ ∃ owner uid, group.metadata.name = some owner ∧
      group.metadata.uid = some uid ∧
      (contents t).configMap? ns name = some (ownedConfigMap group role config owner uid) := by
  intro ns name
  obtain ⟨hdecision, ⟨hunchanged, hsame⟩ | ⟨hdue, owner, uid, hname, huid, hput⟩⟩ :=
    contents_of_reconcile_ok hk h
  · obtain ⟨current, hfound, hholds⟩ :=
      due_configMap?_eq_unchanged.1 (hdecision.symm.trans hunchanged)
    refine .inl ⟨current, hfound, hholds, ?_⟩
    rw [hsame]
    exact hfound
  · refine .inr ⟨?_, owner, uid, hname, huid, ?_⟩
    · exact fun hheld => hdue (hdecision.trans (due_configMap?_eq_unchanged.2 hheld))
    · rw [hput]
      exact if_pos key_ownedConfigMap

namespace Upkeep

section

variable {σ : Type} {store : Store σ} {contents : σ → Contents} {s : σ} {pass : Upkeep}
  {passes : List Upkeep} {ns name uid : String} (hk : store.Keeps contents)

include hk

/-- A group that has a key to itself owns what it has reconciled. -/
theorem ownedAt_run_of_reserved {decision : Decision} (h : (pass.run store s).result = .ok decision)
    (huid : pass.group.metadata.uid = some uid)
    (hreserved : (contents s).ReservedFor pass.key.1 pass.key.2 uid) :
    (contents (pass.run store s).store).OwnedAt pass.key.1 pass.key.2 uid := by
  obtain ⟨current, hfound, -, hleft⟩ | ⟨-, _, uid', -, huid', hleft⟩ :=
    configMap?_of_reconcile_ok hk (effect_of_result h)
  · exact ⟨current, hleft, hreserved current hfound⟩
  · obtain rfl := Option.some.inj (huid'.symm.trans huid)
    exact ⟨_, hleft, ownedBy_ownedConfigMap.2 rfl⟩

/-- A key stays with the group that has it to itself, if no other group is reconciled there. -/
theorem reservedFor_run (hpass : pass.key = (ns, name) → pass.group.metadata.uid = some uid)
    (hreserved : (contents s).ReservedFor ns name uid) :
    (contents (pass.run store s).store).ReservedFor ns name uid := by
  by_cases hkey : pass.key = (ns, name)
  · obtain ⟨rfl, rfl⟩ := Prod.mk.inj hkey
    rcases hresult : (pass.run store s).result with cause | decision
    · rw [(contents_of_reconcile_error hk (effect_of_result hresult)).2]
      exact hreserved
    · exact (ownedAt_run_of_reserved hk hresult (hpass rfl) hreserved).reservedFor
  · rw [Contents.ReservedFor, configMap?_run hk (Ne.symm hkey)]
    exact hreserved

theorem reservedFor_storeAfter
    (hpasses : ∀ pass ∈ passes, pass.key = (ns, name) → pass.group.metadata.uid = some uid)
    (hreserved : (contents s).ReservedFor ns name uid) :
    (contents (storeAfter store s passes)).ReservedFor ns name uid :=
  storeAfter_keeps (fun t => (contents t).ReservedFor ns name uid)
    (fun pass hm _ => reservedFor_run hk (hpasses pass hm)) hreserved

/-- Over any run of reconciles, if nobody but the group with a uid is reconciled under a key where
nothing stands at first, that group owns what stands there after each of its successes. -/
theorem ownedAt_storeAfter {decision : Decision}
    (hempty : (contents s).configMap? pass.key.1 pass.key.2 = none)
    (hpasses : ∀ p ∈ passes, p.key = pass.key → p.group.metadata.uid = some uid)
    (huid : pass.group.metadata.uid = some uid)
    (h : (pass.run store (storeAfter store s passes)).result = .ok decision) :
    (contents (pass.run store (storeAfter store s passes)).store).OwnedAt pass.key.1 pass.key.2
      uid := by
  refine ownedAt_run_of_reserved hk h huid (reservedFor_storeAfter hk hpasses ?_)
  intro stored hstored
  rw [hempty] at hstored
  cases hstored

end

/-- A group that follows another one under the same key, with the same topology, finds it there and
leaves the ConfigMap to the other. -/
theorem owner_stays (hk : store.Keeps contents) {working : σ → Prop} (hw : store.Works working)
    (hs : working s) {first second : Upkeep} {owner uid : String}
    {create again : Run σ (Except DiscoveryError Decision)}
    (hempty : (contents s).configMap? first.key.1 first.key.2 = none)
    (hkey : first.key = second.key) (hconfig : first.config = second.config)
    (hname : first.group.metadata.name = some owner)
    (huid : first.group.metadata.uid = some uid) (hcreate : first.run store s = create)
    (hagain : second.run store create.store = again) :
    working create.store ∧ again.result = .ok .unchanged ∧
      (contents again.store).configMap? second.key.1 second.key.2 =
        some (ownedConfigMap first.group first.role first.config owner uid) := by
  subst hcreate hagain
  obtain ⟨hworks, _, hcreate⟩ :=
    run_of_works hw hs ⟨by rw [hname, Option.isSome_some], by rw [huid, Option.isSome_some]⟩
  obtain ⟨_, hfound, -⟩ | ⟨-, owner', uid', hname', huid', hleft⟩ :=
    configMap?_of_reconcile_ok hk (effect_of_result hcreate)
  · exact absurd (hempty.symm.trans hfound) (by simp)
  obtain rfl := Option.some.inj (hname'.symm.trans hname)
  obtain rfl := Option.some.inj (huid'.symm.trans huid)
  have hheld : (contents (first.run store s).store).HeldAt second.key.1 second.key.2
      second.config := by
    rw [← hkey, ← hconfig]
    exact ⟨_, hleft, holds_ownedConfigMap⟩
  obtain ⟨t, heffect, hsame, -⟩ := reconcile_of_heldAt hk (hw.finds _ _) hworks hheld
  obtain ⟨hresult, hstore, -⟩ := run_of_effect heffect
  refine ⟨hworks, hresult, ?_⟩
  show (contents (second.run store _).store).configMap? _ _ = _
  rw [run, action, hstore, hsame, ← hkey]
  exact hleft

end Upkeep

/-- After a success the ConfigMap of a role is controlled by its group, with the uid that the group
has now, unless the topology was already there: then the ConfigMap stays as it was found, whoever
owns it. -/
theorem reconcile_owns_what_it_writes {σ : Type} (store : Store σ) (contents : σ → Contents)
    (hk : store.Keeps contents) (s : σ) (group : RoleBasedGroup) (role : RoleSpec)
    (config : ClusterConfig) (owner uid : String) (decision : Decision)
    (hname : group.metadata.name = some owner) (huid : group.metadata.uid = some uid)
    (hok : ((reconcile group role config).run store s).result = .ok decision) :
    let ns := group.namespaceOrDefault
    let name := group.workloadName role
    let found := (contents s).configMap? ns name
    let left := (contents ((reconcile group role config).run store s).store).configMap? ns name
    (∀ current, found = some current → current.Holds config → left = some current) ∧
      ((∀ current, found = some current → ¬current.Holds config) →
        ∃ stored reference, left = some stored ∧ stored.Holds config ∧
          stored.metadata.ownerReferences = some [reference] ∧ reference.Controls uid ∧
          reference.name = owner ∧ reference.kind = RoleBasedGroup.kind ∧
          reference.apiVersion = customApiVersion) ∧
      ((∃ stored, left = some stored ∧ stored.OwnedBy uid) ↔
        ∀ current, found = some current → current.Holds config → current.OwnedBy uid) := by
  intro ns name found left
  have heffect : effect store (reconcile group role config) s = (.ok decision, _, _) :=
    congrArg (fun result => (result, _, _)) hok
  obtain ⟨current, hfound, hholds, hleft⟩ | ⟨hheld, owner', uid', hname', huid', hleft⟩ :=
    configMap?_of_reconcile_ok hk heffect
  · have hleft : left = some current := hleft
    have hunique {other : ConfigMap} (hother : found = some other) : current = other :=
      Option.some.inj (hfound.symm.trans hother)
    refine ⟨?_, ?_, ?_, ?_⟩
    · intro other hother _
      exact hleft.trans (congrArg some (hunique hother))
    · intro hnone
      exact absurd hholds (hnone current hfound)
    · rintro ⟨stored, hstored, howned⟩ other hother -
      obtain rfl := Option.some.inj (hleft.symm.trans hstored)
      exact hunique hother ▸ howned
    · intro howned
      exact ⟨current, hleft, howned current hfound hholds⟩
  · obtain rfl := Option.some.inj (hname'.symm.trans hname)
    obtain rfl := Option.some.inj (huid'.symm.trans huid)
    have hnone : ∀ other, found = some other → ¬other.Holds config :=
      fun other hother hholds => hheld ⟨other, hother, hholds⟩
    refine ⟨?_, ?_, ?_, ?_⟩
    · intro other hother hholds
      exact absurd hholds (hnone other hother)
    · intro _
      exact ⟨_, _, hleft, holds_ownedConfigMap, rfl, ⟨rfl, rfl, rfl⟩, rfl, rfl, rfl⟩
    · intro _ other hother hholds
      exact absurd hholds (hnone other hother)
    · intro _
      exact ⟨_, hleft, ownedBy_ownedConfigMap.2 rfl⟩

/-- A ConfigMap under the key of a role that holds no topology and has an owner that is gone. -/
def abandonedConfigMap : ConfigMap where
  metadata :=
    { name := some "serving-worker"
      ns := some "default"
      ownerReferences := some [
        { apiVersion := customApiVersion
          kind := RoleBasedGroup.kind
          name := "serving"
          uid := "7f"
          controller := some true
          blockOwnerDeletion := some true }] }

/-- It is replaced, and the group that has taken the place of its owner owns what is left. -/
theorem reconcile_owns_what_it_writes_of_abandoned :
    let pass := Upkeep.ofNames "serving" "81" "worker"
    let memory : Memory := { configMaps := [abandonedConfigMap] }
    Memory.store.Keeps Memory.contents ∧ pass.group.metadata.name = some "serving" ∧
      pass.group.metadata.uid = some "81" ∧
      ∃ decision, (pass.run Memory.store memory).result = .ok decision ∧
        ∃ stored, (Memory.contents (pass.run Memory.store memory).store).configMap? pass.key.1
          pass.key.2 = some stored ∧ stored.OwnedBy "81" := by
  intro pass memory
  have hworks : memory.Works := ⟨rfl, rfl⟩
  obtain ⟨-, decision, hok⟩ :=
    Upkeep.run_of_works Memory.works_store hworks (Upkeep.canOwn_ofNames _ _ _)
  obtain ⟨-, -, howned⟩ := reconcile_owns_what_it_writes Memory.store Memory.contents Memory.keeps
    memory pass.group pass.role pass.config "serving" "81" decision rfl rfl hok
  refine ⟨Memory.keeps, rfl, rfl, decision, hok, howned.2 ?_⟩
  have hfound : memory.configMap? pass.group.namespaceOrDefault
      (pass.group.workloadName pass.role) = some abandonedConfigMap := by
    decide
  rintro current hcurrent ⟨data, _, hdata, -⟩
  obtain rfl := Option.some.inj (hfound.symm.trans hcurrent)
  cases hdata

/-- If the topology is there, the owner that is gone keeps the ConfigMap. -/
theorem owner_may_be_gone :
    let old := Upkeep.ofNames "serving" "7f" "worker"
    let new := Upkeep.ofNames "serving" "81" "worker"
    let create := old.run Memory.store {}
    let again := new.run Memory.store create.store
    create.store.Works ∧ new.group.metadata.name = some "serving" ∧
      new.group.metadata.uid = some "81" ∧ again.result = .ok .unchanged ∧
      ∃ stored, (Memory.contents again.store).configMap? new.key.1 new.key.2 = some stored ∧
        ¬stored.OwnedBy "81" := by
  intro old new create again
  have hempty : Memory.Works {} := ⟨rfl, rfl⟩
  have hconfig : old.config = new.config := ClusterConfig.ofGroup_eq_iff.2 (by decide)
  obtain ⟨hworks, hresult, hleft⟩ := Upkeep.owner_stays Memory.keeps Memory.works_store hempty rfl
    (by decide) hconfig rfl rfl (rfl : old.run Memory.store {} = create)
    (rfl : new.run Memory.store create.store = again)
  refine ⟨hworks, rfl, rfl, hresult, _, hleft, ?_⟩
  exact mt ownedBy_ownedConfigMap.1 (by decide)

end RoleDiscovery
