import RoleDiscovery.Proofs.Action.Interleaving
import RoleDiscovery.Proofs.Discovery.Upkeep

/-!
# Concurrent reconciles

Between the read and the write of a reconcile others may read and write. So a decision may be stale
when it is carried out, but what is written is always a whole ConfigMap. If all reconciles want the
same, the first write settles it: whoever reads after it finds the topology and writes nothing.

Results:

* `Stage`, `stage_of_told`: where a reconcile is, by what it was told.
* `heldAt_after`: once the topology was written it stays, if nothing else is written.
* `reconciles_interleave`: any number of reconciles in flight on one store.
-/

namespace RoleDiscovery

open RoleDiscovery.Action

variable {group : RoleBasedGroup} {role : RoleSpec} {config : ClusterConfig}

/-! ## Stages -/

/-- Where a reconcile is, by what it has exchanged: it has not read yet, its read has failed, it has
found the topology, it has nothing that it could write, it is about to write, or it has written. -/
inductive Stage (group : RoleBasedGroup) (role : RoleSpec) (config : ClusterConfig) :
    List Exchange → Action (Except DiscoveryError Decision) → Prop where
  | fresh :
    Stage group role config []
      (readConfigMap group.namespaceOrDefault (group.workloadName role)
        (afterRead group role config))
  | failed (cause : ClientError) :
    Stage group role config
      [.readConfigMap group.namespaceOrDefault (group.workloadName role) (.error cause)]
      (done (.error (.getConfigMap (group.workloadName role) group.namespaceOrDefault cause)))
  | settled {found : Option ConfigMap} (hd : due found config = .unchanged) :
    Stage group role config
      [.readConfigMap group.namespaceOrDefault (group.workloadName role) (.ok found)]
      (done (.ok .unchanged))
  | unowned {found : Option ConfigMap} {failure : DiscoveryError}
    (hd : due found config ≠ .unchanged)
    (hf : discoveryConfigMap group role config = .error failure) :
    Stage group role config
      [.readConfigMap group.namespaceOrDefault (group.workloadName role) (.ok found)]
      (done (.error failure))
  | pending {found : Option ConfigMap} {configMap : ConfigMap}
    (hd : due found config ≠ .unchanged)
    (hc : discoveryConfigMap group role config = .ok configMap) :
    Stage group role config
      [.readConfigMap group.namespaceOrDefault (group.workloadName role) (.ok found)]
      (writeConfigMap configMap fun answer =>
        done (afterWrite group role (due found config) answer))
  | written {found : Option ConfigMap} {configMap : ConfigMap} (answer : Except ClientError Unit)
    (hd : due found config ≠ .unchanged)
    (hc : discoveryConfigMap group role config = .ok configMap) :
    Stage group role config
      [.readConfigMap group.namespaceOrDefault (group.workloadName role) (.ok found),
        .writeConfigMap configMap answer]
      (done (afterWrite group role (due found config) answer))

/-- The answer to its read brings a reconcile to its next stage. -/
theorem stage_afterRead (answer : Except ClientError (Option ConfigMap)) :
    Stage group role config
      [.readConfigMap group.namespaceOrDefault (group.workloadName role) answer]
      (afterRead group role config answer) := by
  rcases answer with cause | found
  · exact .failed cause
  rw [afterRead]
  by_cases hd : due found config = .unchanged
  · rw [if_pos hd]
    exact .settled hd
  · rw [if_neg hd]
    cases hc : discoveryConfigMap group role config with
    | error failure => exact .unowned hd hc
    | ok configMap => exact .pending hd hc

/-- A reconcile is at one of the stages, whatever it was told. -/
theorem stage_of_told {exchanges : List Exchange}
    {rest : Action (Except DiscoveryError Decision)}
    (h : (reconcile group role config).quiet.Told exchanges rest) :
    Stage group role config exchanges rest := by
  rw [quiet_reconcile] at h
  induction h with
  | start => exact .fresh
  | readConfigMap answer _ ih =>
    cases ih
    exact stage_afterRead answer
  | writeConfigMap answer _ ih =>
    cases ih with
    | pending hd hc => exact .written answer hd hc
  | readProfile _ _ ih => cases ih

section

variable {exchanges : List Exchange} {rest : Action (Except DiscoveryError Decision)}
  {ns name : String} {found : Option ConfigMap} {configMap : ConfigMap}
  {answer : Except ClientError Unit}

/-- What is written is the whole ConfigMap of the role, and follows a read that found another
topology. -/
theorem read_of_write (h : Stage group role config exchanges rest)
    (hm : .writeConfigMap configMap answer ∈ exchanges) :
    discoveryConfigMap group role config = .ok configMap ∧
      ∃ found, due found config ≠ .unchanged ∧
        exchanges = [.readConfigMap group.namespaceOrDefault (group.workloadName role) (.ok found),
          .writeConfigMap configMap answer] := by
  cases h with
  | fresh => exact absurd hm List.not_mem_nil
  | failed cause => cases List.mem_singleton.1 hm
  | settled hd => cases List.mem_singleton.1 hm
  | unowned hd hf => cases List.mem_singleton.1 hm
  | pending hd hc => cases List.mem_singleton.1 hm
  | written _ hd hc =>
    rcases List.mem_cons.1 hm with heq | hm
    · cases heq
    · cases List.mem_singleton.1 hm
      exact ⟨hc, _, hd, rfl⟩

/-- A reconcile that has found the topology has nothing left but to say so. -/
theorem settled_of_read (h : Stage group role config exchanges rest)
    (hm : .readConfigMap ns name (.ok found) ∈ exchanges)
    (hd : due found config = .unchanged) :
    rest = done (.ok .unchanged) ∧
      exchanges = [.readConfigMap group.namespaceOrDefault (group.workloadName role)
        (.ok found)] := by
  cases h with
  | fresh => exact absurd hm List.not_mem_nil
  | failed cause => cases List.mem_singleton.1 hm
  | settled _ =>
    cases List.mem_singleton.1 hm
    exact ⟨rfl, rfl⟩
  | unowned hdue _ =>
    cases List.mem_singleton.1 hm
    exact absurd hd hdue
  | pending hdue _ =>
    cases List.mem_singleton.1 hm
    exact absurd hd hdue
  | written _ hdue _ =>
    rcases List.mem_cons.1 hm with heq | hm
    · cases heq
      exact absurd hd hdue
    · cases List.mem_singleton.1 hm

/-- A reconcile that has succeeded has found the topology or written it. -/
theorem found_or_written_of_ok {decision : Decision}
    (h : Stage group role config exchanges (done (.ok decision))) :
    (∃ found, due found config = .unchanged ∧
      .readConfigMap group.namespaceOrDefault (group.workloadName role) (.ok found) ∈ exchanges) ∨
      ∃ configMap, .writeConfigMap configMap (.ok ()) ∈ exchanges := by
  generalize hrest : (done (.ok decision) : Action (Except DiscoveryError Decision)) = rest at h
  cases h with
  | fresh => cases hrest
  | failed cause => cases hrest
  | settled hd => exact .inl ⟨_, hd, List.mem_singleton_self _⟩
  | unowned hd hf => cases hrest
  | pending hd hc => cases hrest
  | written answer hd hc =>
    cases answer with
    | error cause => cases hrest
    | ok _ => exact .inr ⟨_, List.mem_cons_of_mem _ (List.mem_singleton_self _)⟩

end

/-! ## Reconciles that want the same -/

theorem heldAt_put_of_discoveryConfigMap {configMap : ConfigMap}
    (h : discoveryConfigMap group role config = .ok configMap) (contents : Contents) :
    (contents.put configMap).HeldAt group.namespaceOrDefault (group.workloadName role) config := by
  rcases hn : group.metadata.name with _ | owner
  · rw [discoveryConfigMap_error (.inl hn)] at h
    cases h
  rcases hu : group.metadata.uid with _ | uid
  · rw [discoveryConfigMap_error (.inr hu)] at h
    cases h
  rw [discoveryConfigMap_ok hn hu] at h
  cases h
  exact heldAt_put_ownedConfigMap

/-- Once the topology was written it stays, if nothing else is written. -/
theorem heldAt_after {contents : Contents} {configMaps : List ConfigMap}
    (hw : ∀ configMap ∈ configMaps, discoveryConfigMap group role config = .ok configMap)
    (h : contents.HeldAt group.namespaceOrDefault (group.workloadName role) config ∨
      configMaps ≠ []) :
    (contents.after configMaps).HeldAt group.namespaceOrDefault (group.workloadName role)
      config := by
  induction configMaps generalizing contents with
  | nil => exact h.resolve_right (not_not_intro rfl)
  | cons configMap configMaps ih =>
    apply ih fun other hm => hw other (List.mem_cons_of_mem _ hm)
    exact .inl (heldAt_put_of_discoveryConfigMap (hw configMap List.mem_cons_self) contents)

section

variable {ι σ : Type} [DecidableEq ι] {contents : σ → Contents} {s : σ}
  {state : InFlight ι σ (Except DiscoveryError Decision)}

/-- All actions in flight are reconciles that want the same. -/
structure Agreed (group : RoleBasedGroup) (role : RoleSpec) (config : ClusterConfig)
    (contents : σ → Contents) (s : σ) (state : InFlight ι σ (Except DiscoveryError Decision)) :
    Prop where
  faithful : InFlight.Faithful contents s state
  stage : ∀ i, Stage group role config (exchangesOf i state.history) (state.actions i).quiet

namespace Agreed

theorem discoveryConfigMap_of_mem (h : Agreed group role config contents s state)
    {configMap : ConfigMap} (hm : configMap ∈ writesOf state.history) :
    discoveryConfigMap group role config = .ok configMap := by
  obtain ⟨i, hmem⟩ := mem_writesOf.1 hm
  exact (read_of_write (h.stage i) (mem_exchangesOf.2 hmem)).1

/-- The topology is held at any point after it was, and after a write. -/
theorem heldAt_append (h : Agreed group role config contents s state)
    {before between later : List (ι × Exchange)} (hh : state.history = before ++ between ++ later)
    (hheld : ((contents s).after (writesOf before)).HeldAt group.namespaceOrDefault
      (group.workloadName role) config ∨ writesOf between ≠ []) :
    ((contents s).after (writesOf (before ++ between))).HeldAt group.namespaceOrDefault
      (group.workloadName role) config := by
  rw [writesOf_append, Contents.after_append]
  refine heldAt_after (fun configMap hm => h.discoveryConfigMap_of_mem ?_) hheld
  rw [hh, writesOf_append, writesOf_append]
  exact List.mem_append_left _ (List.mem_append_right _ hm)

/-- A reconcile that reads the topology has nothing left to do. -/
theorem settled (h : Agreed group role config contents s state) {before later : List (ι × Exchange)}
    {i : ι} {found : Option ConfigMap}
    (hh : state.history = before ++ (i, .readConfigMap group.namespaceOrDefault
      (group.workloadName role) (.ok found)) :: later)
    (hheld : ((contents s).after (writesOf before)).HeldAt group.namespaceOrDefault
      (group.workloadName role) config) :
    (state.actions i).quiet = done (.ok .unchanged) ∧
      ∀ configMap answer, (i, .writeConfigMap configMap answer) ∉ state.history := by
  have hd : due found config = .unchanged := by
    rw [h.faithful.found_eq hh]
    exact due_configMap?_eq_unchanged.2 hheld
  have hm : .readConfigMap group.namespaceOrDefault (group.workloadName role) (.ok found) ∈
      exchangesOf i state.history := by
    rw [mem_exchangesOf, hh]
    exact List.mem_append_right _ List.mem_cons_self
  obtain ⟨hrest, hexchanges⟩ := settled_of_read (h.stage i) hm hd
  refine ⟨hrest, ?_⟩
  intro configMap answer hmem
  rw [← mem_exchangesOf, hexchanges, List.mem_singleton] at hmem
  cases hmem

/-- Once a reconcile has succeeded the topology is held. -/
theorem heldAt_of_ok (h : Agreed group role config contents s state) {i : ι} {decision : Decision}
    (hok : (state.actions i).result? = some (.ok decision)) :
    ((contents s).after (writesOf state.history)).HeldAt group.namespaceOrDefault
      (group.workloadName role) config := by
  have hstage := h.stage i
  rw [quiet_of_result? hok] at hstage
  obtain ⟨found, hd, hm⟩ | ⟨configMap, hm⟩ := found_or_written_of_ok hstage
  · obtain ⟨before, later, hh⟩ := List.append_of_mem (mem_exchangesOf.1 hm)
    rw [h.faithful.found_eq hh] at hd
    rw [hh]
    exact h.heldAt_append (hh.trans (List.append_nil _).symm)
      (.inl (due_configMap?_eq_unchanged.1 hd))
  · have hwrites : writesOf state.history ≠ [] :=
      List.ne_nil_of_mem (mem_writesOf.2 ⟨i, mem_exchangesOf.1 hm⟩)
    have hh : state.history = [] ++ state.history ++ [] := (List.append_nil _).symm
    exact h.heldAt_append hh (.inr hwrites)

/-- Whoever writes has read before, and before anything was written. -/
theorem read_before_written (h : Agreed group role config contents s state)
    {before later : List (ι × Exchange)} {i : ι} {configMap : ConfigMap}
    {answer : Except ClientError Unit}
    (hh : state.history = before ++ (i, .writeConfigMap configMap answer) :: later) :
    ∃ first found between, before = first ++ (i, .readConfigMap group.namespaceOrDefault
      (group.workloadName role) (.ok found)) :: between ∧ writesOf first = [] := by
  have hm : .writeConfigMap configMap answer ∈ exchangesOf i state.history := by
    rw [mem_exchangesOf, hh]
    exact List.mem_append_right _ List.mem_cons_self
  obtain ⟨-, found, hd, hexchanges⟩ := read_of_write (h.stage i) hm
  rw [hh, exchangesOf_append, exchangesOf_cons_self] at hexchanges
  -- The write is not the first thing that was exchanged, so the read stands before it.
  have hread : .readConfigMap group.namespaceOrDefault (group.workloadName role) (.ok found) ∈
      exchangesOf i before := by
    cases hb : exchangesOf i before with
    | nil =>
      rw [hb] at hexchanges
      cases List.head_eq_of_cons_eq hexchanges
    | cons first _ =>
      rw [hb] at hexchanges
      rw [List.head_eq_of_cons_eq hexchanges]
      exact List.mem_cons_self
  obtain ⟨first, between, rfl⟩ := List.append_of_mem (mem_exchangesOf.1 hread)
  refine ⟨first, found, between, rfl, ?_⟩
  rw [List.append_assoc, List.cons_append] at hh
  by_contra hwrites
  have hheld : ((contents s).after (writesOf ([] ++ first))).HeldAt group.namespaceOrDefault
      (group.workloadName role) config := h.heldAt_append hh (.inr hwrites)
  apply hd
  rw [h.faithful.found_eq hh]
  exact due_configMap?_eq_unchanged.2 hheld

end Agreed

end

/-! ## Any number of reconciles -/

section

variable {ι σ : Type} [DecidableEq ι]

/-- Reconciles in flight on one store after their turns by a schedule. -/
def inFlight (store : Store σ) (upkeeps : ι → Upkeep) (s : σ) (schedule : List ι) :
    InFlight ι σ (Except DiscoveryError Decision) :=
  InFlight.after store ⟨fun i => (upkeeps i).action, s, []⟩ schedule

theorem inFlight_append (store : Store σ) (upkeeps : ι → Upkeep) (s : σ) (early late : List ι) :
    inFlight store upkeeps s (early ++ late) =
      (inFlight store upkeeps s early).after store late :=
  InFlight.after_append store _ early late

theorem stage_inFlight (store : Store σ) (upkeeps : ι → Upkeep) (s : σ) (schedule : List ι)
    (i : ι) :
    Stage (upkeeps i).group (upkeeps i).role (upkeeps i).config
      (exchangesOf i (inFlight store upkeeps s schedule).history)
      ((inFlight store upkeeps s schedule).actions i).quiet :=
  stage_of_told (InFlight.told_after store (fun i => (upkeeps i).action) s schedule i)

theorem agreed_inFlight {store : Store σ} {contents : σ → Contents} (hk : store.Keeps contents)
    {upkeeps : ι → Upkeep} {group : RoleBasedGroup} {role : RoleSpec} {config : ClusterConfig}
    (hr : ∀ i, upkeeps i = ⟨group, role, config⟩) (s : σ) (schedule : List ι) :
    Agreed group role config contents s (inFlight store upkeeps s schedule) where
  faithful := InFlight.faithful_after hk _ s schedule
  stage i := by
    have hstage := stage_inFlight store upkeeps s schedule i
    rw [hr i] at hstage
    exact hstage

/-- Any number of reconciles take turns on one store in any order, and calls of the store may fail.
Under each key the store keeps the ConfigMap that was written last, whole, and before the first
write what it kept at the start; what a reconcile writes is the ConfigMap of its role. If all want
the same, then once one of them has succeeded the topology is held for good, and each that reads it
after that does not write but ends with having found it unchanged, as soon as it has its turns.
Whoever writes has read before anything was written. -/
theorem reconciles_interleave (store : Store σ) (contents : σ → Contents)
    (hk : store.Keeps contents) (s : σ) (upkeeps : ι → Upkeep) (schedule : List ι) :
    let state := inFlight store upkeeps s schedule
    (∀ ns name, (contents state.store).configMap? ns name =
      (((writesOf state.history).filter fun configMap => configMap.key = (ns, name)).getLast?).or
        ((contents s).configMap? ns name)) ∧
    (∀ i configMap answer, (i, .writeConfigMap configMap answer) ∈ state.history →
      discoveryConfigMap (upkeeps i).group (upkeeps i).role (upkeeps i).config =
        .ok configMap) ∧
    ∀ group role config, (∀ i, upkeeps i = ⟨group, role, config⟩) →
      let ns := group.namespaceOrDefault
      let name := group.workloadName role
      (∀ early late, schedule = early ++ late →
        let before := inFlight store upkeeps s early
        ∀ i decision, (before.actions i).result? = some (.ok decision) →
          (contents state.store).HeldAt ns name config ∧
          ∃ later, state.history = before.history ++ later ∧
            ∀ j found, (j, .readConfigMap ns name (.ok found)) ∈ later →
              (∀ configMap answer, (j, .writeConfigMap configMap answer) ∉ state.history) ∧
              ∃ turns, ∀ further : List ι, turns ≤ further.count j →
                ((inFlight store upkeeps s (schedule ++ further)).actions j).result? =
                  some (.ok .unchanged)) ∧
      ∀ before i configMap answer later,
        state.history = before ++ (i, .writeConfigMap configMap answer) :: later →
          ∃ first found between,
            before = first ++ (i, .readConfigMap ns name (.ok found)) :: between ∧
              ∀ j other, (j, .writeConfigMap other (.ok ())) ∉ first := by
  intro state
  have hfaithful : InFlight.Faithful contents s state := InFlight.faithful_after hk _ s schedule
  refine ⟨?_, ?_, ?_⟩
  · intro ns name
    rw [hfaithful.contents_eq]
    exact Contents.configMap?_after _ _ ns name
  · intro i configMap answer hm
    exact (read_of_write (stage_inFlight store upkeeps s schedule i) (mem_exchangesOf.2 hm)).1
  intro group role config hr ns name
  have hstate : Agreed group role config contents s state := agreed_inFlight hk hr s schedule
  refine ⟨?_, ?_⟩
  · intro early late hschedule before i decision hok
    have hheld := (agreed_inFlight hk hr s early).heldAt_of_ok hok
    obtain ⟨later, hlater⟩ := InFlight.history_after store before late
    have hhistory : state.history = before.history ++ later := by
      rw [← hlater, ← inFlight_append, ← hschedule]
    refine ⟨?_, later, hhistory, ?_⟩
    · rw [hfaithful.contents_eq, hhistory]
      exact hstate.heldAt_append (hhistory.trans (List.append_nil _).symm) (.inl hheld)
    · intro j found hm
      -- What the read found was held when the reconcile of `i` had ended, and ever since.
      obtain ⟨between, rest, rfl⟩ := List.append_of_mem hm
      rw [← List.append_assoc] at hhistory
      have hagain := hstate.heldAt_append hhistory (.inl hheld)
      obtain ⟨hquiet, hnot⟩ := hstate.settled hhistory hagain
      refine ⟨hnot, (state.actions j).reports, ?_⟩
      intro further hturns
      rw [inFlight_append]
      exact InFlight.result?_after store further hquiet hturns
  · intro before i configMap answer later hh
    obtain ⟨first, found, between, hbefore, hwrites⟩ := hstate.read_before_written hh
    refine ⟨first, found, between, hbefore, ?_⟩
    intro j other hm
    have hmem := mem_writesOf.2 ⟨j, hm⟩
    rw [hwrites] at hmem
    exact List.not_mem_nil hmem

end

/-- The upkeep of the only role of a group. -/
def contendedUpkeep : Upkeep where
  group :=
    { metadata := { name := some "serving", uid := some "7f" }
      spec := { roles := [{ name := "worker" }] } }
  role := { name := "worker" }
  config := { group := { name := "serving", ns := "default", roleNames := [] }, roles := [] }

/-- What is written for that role. -/
def contendedConfigMap : ConfigMap :=
  ownedConfigMap contendedUpkeep.group contendedUpkeep.role contendedUpkeep.config "serving" "7f"

/-- A store that fails with the first write. -/
def contendedStore : Faulty where
  memory := {}
  plan := [none, none, some (.missingObjectKey "metadata.name")]

/-- Two reconciles read before anything was written, and one of them fails to write. The third one
reads after the other has succeeded, and writes nothing. -/
theorem reconciles_interleave_of_contended :
    let upkeeps : Fin 3 → Upkeep := fun _ => contendedUpkeep
    let before := inFlight Faulty.store upkeeps contendedStore [0, 1, 1, 0, 0]
    let state := inFlight Faulty.store upkeeps contendedStore [0, 1, 1, 0, 0, 2]
    Faulty.store.Keeps Faulty.contents ∧ (before.actions 0).result? = some (.ok .create) ∧
      (Faulty.contents state.store).HeldAt "default" "serving-worker" contendedUpkeep.config ∧
      ∀ configMap answer, (2, .writeConfigMap configMap answer) ∉ state.history := by
  intro upkeeps before state
  have hok : (before.actions 0).result? = some (.ok .create) := rfl
  obtain ⟨-, -, hsame⟩ := reconciles_interleave Faulty.store Faulty.contents Faulty.keeps
    contendedStore upkeeps [0, 1, 1, 0, 0, 2]
  obtain ⟨hlater, -⟩ := hsame _ _ _ fun _ => rfl
  obtain ⟨hheld, later, hhistory, hread⟩ := hlater [0, 1, 1, 0, 0] [2] rfl 0 .create hok
  have hlast : state.history = before.history ++
      [(2, .readConfigMap "default" "serving-worker" (.ok (some contendedConfigMap)))] := rfl
  have hsplit := List.append_cancel_left (hhistory.symm.trans hlast)
  refine ⟨Faulty.keeps, hok, hheld, (hread 2 (some contendedConfigMap) ?_).1⟩
  rw [hsplit]
  exact List.mem_singleton_self _

end RoleDiscovery
