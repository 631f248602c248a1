import Mathlib.Data.List.Forall2
import RoleDiscovery.Proofs.Sorting
import RoleDiscovery.Topology

/-!
# What a topology keeps of a group

A topology sorts its roles by name, and keeps their names in the order in which they were declared.
Sorting is stable, so the declared list can be told from the two.

Results:

* `RoleBasedGroup.topology`: the part of a group that its topology depends on.
* `ClusterConfig.ofGroup_eq_iff`: two groups of one name and namespace have the same topology if
  they agree on that part.
* `ClusterConfig.ofGroup_withRoles_of_perm`: the order of roles with names of their own shows in
  the list of names only.
* `ClusterConfig.ofGroup_captures`: all of this about groups as they are declared.
-/

namespace RoleDiscovery

/-! ## The relevant part of a group -/

/-- What counts of a declared role: its name, its kind and number of replicas with their defaults,
and the size of its pod groups if it is a LeaderWorkerSet. -/
structure RoleTopology where
  name : String
  kind : WorkloadKind
  replicas : Int32
  size : Option Int32
  deriving DecidableEq

/-- What counts of a role. -/
def RoleSpec.topology (role : RoleSpec) : RoleTopology where
  name := role.name
  kind := role.workload.kind.getD .statefulSet
  replicas := role.replicas.getD 1
  size := if role.workload.kind = some .leaderWorkerSet then role.leaderWorkerSet.size else none

/-- What counts of a group apart from its name and namespace: its roles as they are declared. -/
def RoleBasedGroup.topology (group : RoleBasedGroup) : List RoleTopology :=
  group.spec.roles.map RoleSpec.topology

/-- The entry of a role in a topology, given the name of the group. -/
def RoleTopology.info (group : String) (role : RoleTopology) : RoleInfo where
  name := role.name
  kind := role.kind
  service := some (group ++ "-" ++ role.name)
  serviceTemplate := none
  replicas := role.replicas
  lwsWorkers := role.size
  startIndex := if role.replicas = 0 then -1 else 0

theorem info_topology (group : RoleBasedGroup) (role : RoleSpec) :
    role.topology.info group.name = RoleInfo.ofRole group role := by
  unfold RoleSpec.topology RoleTopology.info RoleInfo.ofRole RoleSpec.workloadKind
  cases role.workload.kind with
  | none => rfl
  | some kind => cases kind <;> rfl

/-- An entry tells which role it is of. -/
theorem info_injective {group : String} {a b : RoleTopology} (h : a.info group = b.info group) :
    a = b := by
  obtain ⟨hname, hkind, -, -, hreplicas, hsize, -⟩ := RoleInfo.mk.inj h
  cases a
  cases b
  simp_all

/-! ## Building -/

namespace ClusterConfig

/-- The roles of a topology, sorted before their entries are made. -/
theorem roles_ofGroup (group : RoleBasedGroup) :
    (ofGroup group).roles =
      (group.topology.mergeSort fun a b => a.name ≤ b.name).map fun role =>
        role.info group.name := by
  have hmap : group.topology.map (fun role => role.info group.name) =
      group.spec.roles.map (RoleInfo.ofRole group) := by
    rw [RoleBasedGroup.topology, List.map_map]
    exact List.map_congr_left fun role _ => info_topology group role
  have hsort := List.map_mergeSort (l := group.topology) (f := fun role => role.info group.name)
    (r := fun a b => decide (a.name ≤ b.name)) (s := fun a b => decide (a.name ≤ b.name))
    fun _ _ _ _ => rfl
  rw [hsort, hmap]
  rfl

theorem roleNames_ofGroup (group : RoleBasedGroup) :
    (ofGroup group).group.roleNames = group.topology.map RoleTopology.name := by
  rw [RoleBasedGroup.topology, List.map_map]
  rfl

/-- Two groups have the same topology if they have the same name and namespace and agree on what
counts of their declared roles. -/
theorem ofGroup_eq_iff {g h : RoleBasedGroup} :
    ofGroup g = ofGroup h ↔
      g.name = h.name ∧ g.namespaceOrDefault = h.namespaceOrDefault ∧ g.topology = h.topology := by
  constructor
  · intro heq
    have hname : g.name = h.name := congrArg (fun config => config.group.name) heq
    have hns : g.namespaceOrDefault = h.namespaceOrDefault :=
      congrArg (fun config => config.group.ns) heq
    have hkeys := congrArg (fun config => config.group.roleNames) heq
    have hroles := congrArg ClusterConfig.roles heq
    simp only [roleNames_ofGroup] at hkeys
    rw [roles_ofGroup, roles_ofGroup, hname] at hroles
    have hsorted := (List.map_inj_right fun _ _ => info_injective).1 hroles
    exact ⟨hname, hns, eq_of_mergeSort_eq hkeys hsorted⟩
  · rintro ⟨hname, hns, htopology⟩
    have hroles : (ofGroup g).roles = (ofGroup h).roles := by
      rw [roles_ofGroup, roles_ofGroup, hname, htopology]
    have hgroup : (ofGroup g).group = (ofGroup h).group := by
      have hnames : (ofGroup g).group.roleNames = (ofGroup h).group.roleNames := by
        rw [roleNames_ofGroup, roleNames_ofGroup, htopology]
      show GroupInfo.mk g.name g.namespaceOrDefault (ofGroup g).group.roleNames = _
      rw [hname, hns, hnames]
      rfl
    show ClusterConfig.mk (ofGroup g).group (ofGroup g).roles = _
    rw [hgroup, hroles]

/-- Two groups agree on what counts of their roles if they do so place by place. -/
theorem topology_eq_iff {g h : RoleBasedGroup} :
    g.topology = h.topology ↔
      List.Forall₂ (fun a b => a.topology = b.topology) g.spec.roles h.spec.roles := by
  rw [← List.forall₂_map_right_iff (R := fun a b => RoleSpec.topology a = b),
    ← List.forall₂_map_left_iff (R := fun a b => a = b), List.forall₂_eq_eq_eq]
  rfl

theorem namespaceOrDefault_eq (group : RoleBasedGroup) :
    group.namespaceOrDefault = (group.metadata.ns.filter fun ns => ns ≠ "").getD "default" := by
  unfold RoleBasedGroup.namespaceOrDefault
  cases group.metadata.ns with
  | none => rfl
  | some ns => by_cases h : ns = "" <;> simp [h, defaultNamespace, Option.filter]

/-- To declare roles with names of their own in another order changes the list of names only. -/
theorem ofGroup_withRoles_of_perm {group : RoleBasedGroup} {roles : List RoleSpec}
    (hn : (group.spec.roles.map RoleSpec.name).Nodup) (h : roles.Perm group.spec.roles) :
    ofGroup { group with spec := { group.spec with roles } } =
      { ofGroup group with
        group := { (ofGroup group).group with roleNames := roles.map RoleSpec.name } } := by
  have hnames : ((group.spec.roles.map (RoleInfo.ofRole group)).map RoleInfo.name).Nodup := by
    rw [List.map_map]
    exact hn
  have hsorted := mergeSort_eq_of_perm hnames (h.symm.map (RoleInfo.ofRole group))
  exact congrArg (ClusterConfig.mk _) hsorted.symm

/-- A topology captures exactly the relevant part of a group. Two groups have the same topology if
they go by the same name and namespace and their roles agree place by place in what counts. The
roles of a topology are sorted by name, those of one name in declaration order. To declare roles
with names of their own in another order changes the list of names and leaves the roles as they
are. -/
theorem ofGroup_captures :
    (∀ g h : RoleBasedGroup, ofGroup g = ofGroup h ↔
      (g.metadata.name <|> g.metadata.generateName).getD "" =
          (h.metadata.name <|> h.metadata.generateName).getD "" ∧
        (g.metadata.ns.filter fun ns => ns ≠ "").getD "default" =
          (h.metadata.ns.filter fun ns => ns ≠ "").getD "default" ∧
        List.Forall₂ (fun a b => a.topology = b.topology) g.spec.roles h.spec.roles) ∧
    (∀ group : RoleBasedGroup,
      (ofGroup group).roles.Perm (group.spec.roles.map (RoleInfo.ofRole group)) ∧
        (ofGroup group).roles.Pairwise (fun a b => a.name ≤ b.name) ∧
        ∀ name, ((ofGroup group).roles.filter fun role => role.name = name) =
          (group.spec.roles.map (RoleInfo.ofRole group)).filter fun role => role.name = name) ∧
    ∀ (group : RoleBasedGroup) (roles : List RoleSpec),
      (group.spec.roles.map RoleSpec.name).Nodup → roles.Perm group.spec.roles →
        ofGroup { group with spec := { group.spec with roles } } =
          { ofGroup group with
            group := { (ofGroup group).group with roleNames := roles.map RoleSpec.name } } := by
  refine ⟨fun g h => ?_, fun group => ⟨?_, ?_, ?_⟩, fun group roles => ofGroup_withRoles_of_perm⟩
  · rw [ofGroup_eq_iff, namespaceOrDefault_eq, namespaceOrDefault_eq, topology_eq_iff]
    rfl
  · exact List.mergeSort_perm _ _
  · exact pairwise_mergeSort RoleInfo.name _
  · exact filter_mergeSort RoleInfo.name _

/-- A group with a generated name in the default namespace. -/
def nightlyGroup : RoleBasedGroup where
  metadata := { generateName := some "nightly-", ns := some "" }
  spec.roles :=
    [{ name := "prefill", workload.kind := some .leaderWorkerSet, leaderWorkerSet.size := some 4 },
     { name := "decode", replicas := some 0, leaderWorkerSet.size := some 2 },
     { name := "router" }]

theorem ofGroup_captures_of_nightly :
    let reversed := nightlyGroup.spec.roles.reverse
    (nightlyGroup.spec.roles.map RoleSpec.name).Nodup ∧
      reversed.Perm nightlyGroup.spec.roles ∧
      ofGroup { nightlyGroup with spec := { nightlyGroup.spec with roles := reversed } } =
        { ofGroup nightlyGroup with
          group :=
            { (ofGroup nightlyGroup).group with roleNames := ["router", "decode", "prefill"] } } :=
  ⟨by decide, List.reverse_perm _,
    ofGroup_captures.2.2 nightlyGroup _ (by decide) (List.reverse_perm _)⟩

end ClusterConfig

end RoleDiscovery
