import RoleDiscovery.Proofs.Discovery.Upkeep

/-!
# Roles that share a workload name

The name of a workload joins the name of a group and the name of a role by a hyphen, and either of
the two may contain hyphens itself. So roles of two groups can come to have one ConfigMap between
them, and then they overwrite each other; it takes a role whose name begins with what the name of
the other group has more. All other roles leave each other alone, however their reconciles
alternate.

Results:

* `joined_eq_joined_iff`: when two pairs of names are joined to the same name.
* `Upkeep.result_of_mem`: a role finds what came of it before.
* `Upkeep.changes_of_shared`, `Upkeep.alternate_of_shared`: of two roles with one key, each undoes
  what the other did.
* `roles_are_isolated`: which roles of two groups share a name, and that all others are isolated.
-/

namespace RoleDiscovery

open RoleDiscovery.Action

/-! ## Names -/

/-- Joined to the name of a role, a longer name of a group gives the same as a shorter one, if what
it has more has moved there from the name of the role. -/
def Overlaps (group role other otherRole : String) : Prop :=
  ∃ middle, other = group ++ "-" ++ middle ∧ role = middle ++ "-" ++ otherRole

section

variable {group role other otherRole : String}

/-- A separator that occurs in the parts leaves open where they were joined. -/
theorem append_cons_eq_append_cons_iff {α : Type} {separator : α} {a b c d : List α} :
    a ++ separator :: b = c ++ separator :: d ↔
      a = c ∧ b = d ∨ (∃ middle, c = a ++ separator :: middle ∧ b = middle ++ separator :: d) ∨
        ∃ middle, a = c ++ separator :: middle ∧ d = middle ++ separator :: b := by
  rw [List.append_eq_append_iff]
  constructor
  · rintro (⟨rest, rfl, hrest⟩ | ⟨rest, rfl, hrest⟩)
    · cases rest with
      | nil =>
        obtain ⟨-, rfl⟩ := List.cons.inj hrest
        exact .inl ⟨(List.append_nil a).symm, rfl⟩
      | cons first rest =>
        obtain ⟨rfl, rfl⟩ := List.cons.inj hrest
        exact .inr (.inl ⟨rest, rfl, rfl⟩)
    · cases rest with
      | nil =>
        obtain ⟨-, rfl⟩ := List.cons.inj hrest
        exact .inl ⟨List.append_nil c, rfl⟩
      | cons first rest =>
        obtain ⟨rfl, rfl⟩ := List.cons.inj hrest
        exact .inr (.inr ⟨rest, rfl, rfl⟩)
  · rintro (⟨rfl, rfl⟩ | ⟨middle, rfl, rfl⟩ | ⟨middle, rfl, rfl⟩)
    · exact .inl ⟨[], (List.append_nil a).symm, rfl⟩
    · exact .inl ⟨separator :: middle, rfl, rfl⟩
    · exact .inr ⟨separator :: middle, rfl, rfl⟩

theorem overlaps_iff_toList :
    Overlaps group role other otherRole ↔
      ∃ middle, other.toList = group.toList ++ '-' :: middle ∧
        role.toList = middle ++ '-' :: otherRole.toList := by
  constructor
  · rintro ⟨middle, rfl, rfl⟩
    exact ⟨middle.toList, by simp, by simp⟩
  · rintro ⟨middle, hother, hrole⟩
    refine ⟨String.ofList middle, String.toList_inj.1 ?_, String.toList_inj.1 ?_⟩
    · rw [hother]
      simp
    · rw [hrole]
      simp

/-- Two pairs of names are joined to the same name if they are the same or if they overlap. -/
theorem joined_eq_joined_iff :
    group ++ "-" ++ role = other ++ "-" ++ otherRole ↔
      group = other ∧ role = otherRole ∨ Overlaps group role other otherRole ∨
        Overlaps other otherRole group role := by
  have hjoined (a b : String) : (a ++ "-" ++ b).toList = a.toList ++ '-' :: b.toList := by
    simp
  rw [← String.toList_inj, hjoined, hjoined, append_cons_eq_append_cons_iff, String.toList_inj,
    String.toList_inj, overlaps_iff_toList, overlaps_iff_toList]

end

/-! ## Reconciles of two roles -/

namespace Upkeep

variable {σ : Type} {store : Store σ} {contents : σ → Contents} {s : σ} {pass other : Upkeep}
  {passes before after : List Upkeep}

section

variable (hk : store.Keeps contents)

include hk

/-- Of two roles with one key but different topologies, each undoes what the other has just done. -/
theorem changes_of_shared {done decision : Decision} (hkey : pass.key = other.key)
    (hconfig : pass.config ≠ other.config) (hother : (other.run store s).result = .ok done)
    (hpass : (pass.run store (other.run store s).store).result = .ok decision) :
    decision = .update ∧
      (contents (pass.run store (other.run store s).store).store).configMap? pass.key.1 pass.key.2 ≠
        (contents (other.run store s).store).configMap? pass.key.1 pass.key.2 := by
  obtain ⟨stored, hfound, hholds⟩ := heldAt_run hk hother
  rw [← hkey] at hfound
  obtain ⟨stored', hfound', hholds'⟩ := heldAt_run hk hpass
  have hother : ¬stored.Holds pass.config := fun h => hconfig (h.unique hholds)
  constructor
  · rw [(contents_of_reconcile_ok hk (effect_of_result hpass)).1]
    exact due_eq_update.2 ⟨stored, hfound, hother⟩
  · rw [hfound', hfound]
    intro hsame
    obtain rfl := Option.some.inj hsame
    exact hother hholds'

/-- A role that has been reconciled before finds what it left, if nobody wants something else
there. -/
theorem result_of_mem (hok : Succeed store s (before ++ pass :: after)) (hm : pass ∈ before)
    (hagree : ∀ p ∈ before, p.key = pass.key → p.config = pass.config) :
    (pass.run store (storeAfter store s before)).result = .ok .unchanged := by
  obtain ⟨decision, hresult⟩ := hok before pass after rfl
  refine result_of_heldAt hk hresult ?_
  obtain ⟨first, rest, rfl⟩ := List.append_of_mem hm
  obtain ⟨_, hfirst⟩ := hok first pass (rest ++ pass :: after) (by simp)
  have hrest : ∀ p ∈ rest, p.key = pass.key → p.config = pass.config :=
    fun p hp => hagree p (by simp [hp])
  rw [storeAfter_append]
  have hheld := heldAt_storeAfter hk hrest (heldAt_run hk hfirst)
  exact hheld

end

/-- On a store that works, two roles with one key but different topologies go on writing. -/
theorem alternate_of_shared (hk : store.Keeps contents) {working : σ → Prop}
    (hw : store.Works working) (hs : working s) {first second : Upkeep}
    {create overwrite again : Run σ (Except DiscoveryError Decision)}
    (hkey : first.key = second.key) (hconfig : first.config ≠ second.config)
    (hfirst : first.CanOwn) (hsecond : second.CanOwn)
    (hcreate : first.run store s = create)
    (hoverwrite : second.run store create.store = overwrite)
    (hagain : first.run store overwrite.store = again) :
    (∃ decision, create.result = .ok decision) ∧ overwrite.result = .ok .update ∧
      (contents overwrite.store).configMap? first.key.1 first.key.2 ≠
        (contents create.store).configMap? first.key.1 first.key.2 ∧
      again.result = .ok .update := by
  subst hcreate hoverwrite hagain
  obtain ⟨hworks, _, hcreate⟩ := run_of_works hw hs hfirst
  obtain ⟨hworks, _, hoverwrite⟩ := run_of_works hw hworks hsecond
  obtain ⟨-, _, hagain⟩ := run_of_works hw hworks hfirst
  obtain ⟨rfl, hchanged⟩ := changes_of_shared hk hkey.symm hconfig.symm hcreate hoverwrite
  obtain ⟨rfl, -⟩ := changes_of_shared hk hkey hconfig hoverwrite hagain
  rw [← hkey] at hchanged
  exact ⟨⟨_, hcreate⟩, hoverwrite, hchanged, hagain⟩

end Upkeep

/-! ## Two roles -/

/-- Two roles of groups in one namespace that differ in the name of the group or in their own have
one workload name between them exactly if their names overlap. If they do not, their reconciles may
alternate at will: none changes the ConfigMap of the other role, and after the first of a role all
that succeed find it up to date. -/
theorem roles_are_isolated {σ : Type} (store : Store σ) (contents : σ → Contents)
    (hk : store.Keeps contents) (first second : Upkeep)
    (hns : first.group.namespaceOrDefault = second.group.namespaceOrDefault)
    (hne : (first.group.name, first.role.name) ≠ (second.group.name, second.role.name)) :
    let overlap :=
      Overlaps first.group.name first.role.name second.group.name second.role.name ∨
        Overlaps second.group.name second.role.name first.group.name first.role.name
    (first.group.workloadName first.role = second.group.workloadName second.role ↔ overlap) ∧
      (¬overlap → ∀ (s : σ) (passes : List Upkeep),
        (∀ pass ∈ passes, pass = first ∨ pass = second) → Upkeep.Succeed store s passes →
        ∀ before pass after, passes = before ++ pass :: after →
          let found := Upkeep.storeAfter store s before
          let run := pass.run store found
          (∀ other ∈ [first, second], other ≠ pass →
            (contents run.store).configMap? other.key.1 other.key.2 =
              (contents found).configMap? other.key.1 other.key.2) ∧
          (pass ∈ before → run.result = .ok .unchanged)) := by
  intro overlap
  have hshared : first.group.workloadName first.role = second.group.workloadName second.role ↔
      overlap := by
    have hpair : ¬(first.group.name = second.group.name ∧ first.role.name = second.role.name) :=
      fun h => hne (Prod.ext h.1 h.2)
    exact joined_eq_joined_iff.trans (or_iff_right hpair)
  refine ⟨hshared, ?_⟩
  intro hapart s passes hpasses hok before pass after hsplit found run
  subst hsplit
  have hkeys : first.key ≠ second.key :=
    fun h => hapart (hshared.1 (Prod.mk.inj h).2)
  have hself : ∀ p q : Upkeep, p = first ∨ p = second → q = first ∨ q = second →
      p.key = q.key → p = q := by
    rintro p q (rfl | rfl) (rfl | rfl) h
    · rfl
    · exact absurd h hkeys
    · exact absurd h.symm hkeys
    · rfl
  have hpass := hpasses pass (by simp)
  constructor
  · intro other hother hdiffers
    have hother : other = first ∨ other = second := by simpa using hother
    refine Upkeep.configMap?_run hk ?_
    exact fun h => hdiffers (hself other pass hother hpass h)
  · intro hm
    refine Upkeep.result_of_mem hk hok hm fun p hp hkey => ?_
    rw [hself p pass (hpasses p (by simp [hp])) hpass hkey]

/-- The names of these two begin alike, but they do not overlap. -/
theorem roles_are_isolated_of_apart :
    let first := Upkeep.ofNames "serving" "7f" "worker"
    let second := Upkeep.ofNames "serving-batch" "81" "worker"
    Memory.store.Keeps Memory.contents ∧
      first.group.namespaceOrDefault = second.group.namespaceOrDefault ∧
      (first.group.name, first.role.name) ≠ (second.group.name, second.role.name) ∧
      first.group.workloadName first.role ≠ second.group.workloadName second.role ∧
      Upkeep.Succeed Memory.store {} [first, second, first] ∧
      (first.run Memory.store (Upkeep.storeAfter Memory.store {} [first, second])).result =
        .ok .unchanged := by
  intro first second
  have hne : (first.group.name, first.role.name) ≠ (second.group.name, second.role.name) := by
    decide
  have hnames : first.group.workloadName first.role ≠ second.group.workloadName second.role := by
    decide
  have hok : Upkeep.Succeed Memory.store {} [first, second, first] :=
    Upkeep.succeed_of_works Memory.works_store ⟨rfl, rfl⟩ (by
      simp only [List.forall_mem_cons, List.not_mem_nil, false_implies, implies_true, and_true]
      exact ⟨Upkeep.canOwn_ofNames _ _ _, Upkeep.canOwn_ofNames _ _ _,
        Upkeep.canOwn_ofNames _ _ _⟩)
  obtain ⟨hshared, hapart⟩ :=
    roles_are_isolated Memory.store Memory.contents Memory.keeps first second rfl hne
  have hagain := hapart (mt hshared.2 hnames) {} [first, second, first] (by simp) hok
    [first, second] first [] rfl
  exact ⟨Memory.keeps, rfl, hne, hnames, hok, hagain.2 (by simp)⟩

/-- These two overlap, and each time one of them is reconciled the other one loses its topology. -/
theorem roles_overwrite_each_other :
    let first := Upkeep.ofNames "serving" "7f" "batch-worker"
    let second := Upkeep.ofNames "serving-batch" "81" "worker"
    let create := first.run Memory.store {}
    let overwrite := second.run Memory.store create.store
    let again := first.run Memory.store overwrite.store
    first.role ∈ first.group.spec.roles ∧ second.role ∈ second.group.spec.roles ∧
      first.group.namespaceOrDefault = second.group.namespaceOrDefault ∧
      (first.group.name, first.role.name) ≠ (second.group.name, second.role.name) ∧
      first.group.workloadName first.role = second.group.workloadName second.role ∧
      (∃ decision, create.result = .ok decision) ∧
      overwrite.result = .ok .update ∧
      (Memory.contents overwrite.store).configMap? first.key.1 first.key.2 ≠
        (Memory.contents create.store).configMap? first.key.1 first.key.2 ∧
      again.result = .ok .update := by
  intro first second create overwrite again
  have hempty : Memory.Works {} := ⟨rfl, rfl⟩
  refine ⟨by decide, by decide, by decide, by decide, by decide, ?_⟩
  exact Upkeep.alternate_of_shared Memory.keeps Memory.works_store hempty (by decide) (by decide)
    (Upkeep.canOwn_ofNames _ _ _) (Upkeep.canOwn_ofNames _ _ _) rfl rfl rfl

end RoleDiscovery
