import Mathlib.Tactic.Common
import RoleDiscovery.Proofs.Action
import RoleDiscovery.Proofs.Environment
import RoleDiscovery.Sidecar

/-!
# Laws of overrides

An override changes the first container of its name and no name, so that overrides split by
container: each container gets the overrides of its name in their order, and whatever comes after
the first container of a name gets none of them.

Results:

* `Container.overrideAll_eq`: the overrides of one container in closed form.
* `Container.overrideAll_mergeEnv`: the same after variables were merged into it.
* `overrideContainers_cons`: overrides split by container.
* `overrideContainers_overrideContainers`: to apply overrides twice is to apply them once.
* `effect_applyOverrides`: the effect of applying overrides.
-/

namespace RoleDiscovery

/-! ## One container -/

namespace Container

/-- The arguments after overrides: those of the last override that has any. -/
def argsAfter (changes : List ContainerOverride) (args : Option (List String)) :
    Option (List String) :=
  changes.foldl (fun args change => if change.args.isEmpty then args else some change.args) args

/-- Overrides keep the arguments or replace them whatever they are. -/
theorem argsAfter_eq_or (changes : List ContainerOverride) :
    (∀ args, argsAfter changes args = args) ∨
      ∃ last, ∀ args, argsAfter changes args = some last := by
  induction changes with
  | nil => exact .inl fun _ => rfl
  | cons change changes ih =>
    rcases ih with hkept | ⟨last, hlast⟩
    · by_cases he : change.args.isEmpty
      · refine .inl ?_
        intro args
        rw [argsAfter, List.foldl_cons, if_pos he]
        exact hkept args
      · refine .inr ⟨change.args, ?_⟩
        intro args
        rw [argsAfter, List.foldl_cons, if_neg he]
        exact hkept _
    · exact .inr ⟨last, fun _ => hlast _⟩

theorem argsAfter_argsAfter (changes : List ContainerOverride) (args : Option (List String)) :
    argsAfter changes (argsAfter changes args) = argsAfter changes args := by
  rcases argsAfter_eq_or changes with hkept | ⟨last, hlast⟩
  · rw [hkept]
  · rw [hlast, hlast]

/-- The variables after overrides: those of each override that has any are merged in turn. -/
def envAfter (changes : List ContainerOverride) (env : Option (List EnvVar)) :
    Option (List EnvVar) :=
  changes.foldl
    (fun env change =>
      if change.env.isEmpty then env else some (EnvVar.merge (env.getD []) change.env)) env

/-- Variables that are merged in turn are merged at once. -/
theorem envAfter_eq (changes : List ContainerOverride) (env : Option (List EnvVar)) :
    envAfter changes env =
      if changes.flatMap ContainerOverride.env = [] then env
      else some (EnvVar.merge (env.getD []) (changes.flatMap ContainerOverride.env)) := by
  induction changes generalizing env with
  | nil => rfl
  | cons change changes ih =>
    rw [envAfter, List.foldl_cons, List.flatMap_cons]
    refine (ih _).trans ?_
    by_cases he : change.env = []
    · rw [he]
      rfl
    · rw [if_neg (mt List.isEmpty_iff.1 he), if_neg fun h => he (List.append_eq_nil_iff.1 h).1,
        Option.getD_some, EnvVar.merge_merge]
      split_ifs with hrest
      · rw [hrest, List.append_nil]
      · rfl

theorem envAfter_envAfter (changes : List ContainerOverride) (env : Option (List EnvVar)) :
    envAfter changes (envAfter changes env) = envAfter changes env := by
  rw [envAfter_eq, envAfter_eq]
  split_ifs
  · rfl
  · rw [Option.getD_some, EnvVar.merge_merge_self]

/-- An override replaces the arguments and merges its variables. -/
theorem override_eq (container : Container) (change : ContainerOverride) :
    container.override change =
      { container with
        args := if change.args.isEmpty then container.args else some change.args
        env := if change.env.isEmpty then container.env
          else some (EnvVar.merge (container.env.getD []) change.env) } := by
  unfold Container.override
  dsimp only
  split_ifs <;> rfl

@[simp] theorem name_override (container : Container) (change : ContainerOverride) :
    (container.override change).name = container.name := by
  rw [override_eq]

theorem volumeMounts_override (container : Container) (change : ContainerOverride) :
    (container.override change).volumeMounts = container.volumeMounts := by
  rw [override_eq]

/-- A container with overrides applied one after the other. -/
def overrideAll (container : Container) (changes : List ContainerOverride) : Container :=
  changes.foldl Container.override container

@[simp] theorem name_overrideAll (container : Container) (changes : List ContainerOverride) :
    (container.overrideAll changes).name = container.name := by
  induction changes generalizing container with
  | nil => rfl
  | cons change changes ih => exact (ih _).trans (name_override container change)

/-- The overrides of a container change its arguments and variables only. -/
theorem overrideAll_eq (container : Container) (changes : List ContainerOverride) :
    container.overrideAll changes =
      { container with
        args := argsAfter changes container.args
        env := envAfter changes container.env } := by
  induction changes generalizing container with
  | nil => rfl
  | cons change changes ih =>
    refine (ih _).trans ?_
    rw [override_eq]
    rfl

theorem overrideAll_append (container : Container) (first second : List ContainerOverride) :
    container.overrideAll (first ++ second) = (container.overrideAll first).overrideAll second :=
  List.foldl_append

/-- To apply the same overrides twice is to apply them once. -/
theorem overrideAll_overrideAll (container : Container) (changes : List ContainerOverride) :
    (container.overrideAll changes).overrideAll changes = container.overrideAll changes := by
  rw [overrideAll_eq, overrideAll_eq]
  dsimp only
  rw [argsAfter_argsAfter, envAfter_envAfter]

theorem mergeEnv_mergeEnv_self (container : Container) (env : List EnvVar) :
    (container.mergeEnv env).mergeEnv env = container.mergeEnv env := by
  unfold mergeEnv
  rw [Option.getD_some, EnvVar.merge_merge_self]

/-- Overrides replace the arguments and add their variables to those that were merged before. -/
theorem overrideAll_mergeEnv (container : Container) (env : List EnvVar)
    (changes : List ContainerOverride) :
    (container.mergeEnv env).overrideAll changes =
      Container.mergeEnv { container with args := argsAfter changes container.args }
        (env ++ changes.flatMap ContainerOverride.env) := by
  rw [overrideAll_eq, envAfter_eq]
  unfold mergeEnv
  dsimp only
  split_ifs with hnone
  · rw [hnone, List.append_nil]
  · rw [Option.getD_some, EnvVar.merge_merge]

/-- Nothing is left for overrides to do the second time. -/
theorem overrideAll_mergeEnv_self (container : Container) (env : List EnvVar)
    (changes : List ContainerOverride) :
    (((container.mergeEnv env).overrideAll changes).mergeEnv env).overrideAll changes =
      (container.mergeEnv env).overrideAll changes := by
  rw [overrideAll_mergeEnv container env changes, overrideAll_mergeEnv]
  generalize hmerged : Container.mergeEnv
    { container with args := argsAfter changes container.args }
    (env ++ changes.flatMap ContainerOverride.env) = merged
  have hargs : argsAfter changes merged.args = merged.args := by
    rw [← hmerged]
    exact argsAfter_argsAfter changes container.args
  have henv : merged.mergeEnv (env ++ changes.flatMap ContainerOverride.env) = merged := by
    rw [← hmerged, mergeEnv_mergeEnv_self]
  rw [hargs]
  exact henv

end Container

/-! ## Containers in a row -/

section

variable {container : Container} {containers : List Container} {change : ContainerOverride}

theorem overrideContainer_of_eq (h : container.name = change.name) :
    overrideContainer (container :: containers) change =
      container.override change :: containers := by
  rw [overrideContainer, overrideContainer?, if_pos h]
  rfl

theorem overrideContainer_of_ne (h : container.name ≠ change.name) :
    overrideContainer (container :: containers) change =
      container :: overrideContainer containers change := by
  rw [overrideContainer, overrideContainer?, if_neg h, overrideContainer]
  cases overrideContainer? change containers <;> rfl

theorem map_name_overrideContainer (containers : List Container) (change : ContainerOverride) :
    (overrideContainer containers change).map Container.name = containers.map Container.name := by
  induction containers with
  | nil => rfl
  | cons container containers ih =>
    by_cases h : container.name = change.name
    · rw [overrideContainer_of_eq h, List.map_cons, List.map_cons, Container.name_override]
    · rw [overrideContainer_of_ne h, List.map_cons, List.map_cons, ih]

end

/-- Containers with overrides applied one after the other. -/
def overrideContainers (containers : List Container) (changes : List ContainerOverride) :
    List Container :=
  changes.foldl overrideContainer containers

theorem overrideContainers_nil (changes : List ContainerOverride) :
    overrideContainers [] changes = [] := by
  induction changes with
  | nil => rfl
  | cons change changes ih => exact ih

theorem overrideContainers_append (containers : List Container)
    (first second : List ContainerOverride) :
    overrideContainers containers (first ++ second) =
      overrideContainers (overrideContainers containers first) second :=
  List.foldl_append

/-- The first container gets the overrides of its name, the others get the rest. -/
theorem overrideContainers_cons (container : Container) (containers : List Container)
    (changes : List ContainerOverride) :
    overrideContainers (container :: containers) changes =
      container.overrideAll (changes.filter fun change => container.name = change.name) ::
        overrideContainers containers
          (changes.filter fun change => container.name ≠ change.name) := by
  induction changes generalizing container containers with
  | nil => rfl
  | cons change changes ih =>
    rw [overrideContainers, List.foldl_cons]
    by_cases h : container.name = change.name
    · rw [overrideContainer_of_eq h]
      refine (ih _ _).trans ?_
      simp [h, Container.overrideAll]
    · rw [overrideContainer_of_ne h]
      refine (ih _ _).trans ?_
      simp [h, overrideContainers]

theorem map_name_overrideContainers (containers : List Container)
    (changes : List ContainerOverride) :
    (overrideContainers containers changes).map Container.name =
      containers.map Container.name := by
  induction changes generalizing containers with
  | nil => rfl
  | cons change changes ih => exact (ih _).trans (map_name_overrideContainer containers change)

/-- To apply the same overrides twice is to apply them once. The induction is on the containers:
what the first one is not given is left for the others. -/
theorem overrideContainers_overrideContainers (containers : List Container)
    (changes : List ContainerOverride) :
    overrideContainers (overrideContainers containers changes) changes =
      overrideContainers containers changes := by
  induction containers generalizing changes with
  | nil => rw [overrideContainers_nil, overrideContainers_nil]
  | cons container containers ih =>
    rw [overrideContainers_cons, overrideContainers_cons]
    simp only [Container.name_overrideAll]
    rw [Container.overrideAll_overrideAll, ih]

/-- Overrides of containers with distinct names do to each what is meant for it. -/
theorem overrideContainers_of_nodup {containers : List Container}
    (h : (containers.map Container.name).Nodup) (changes : List ContainerOverride) :
    overrideContainers containers changes =
      containers.map fun container =>
        container.overrideAll (changes.filter fun change => container.name = change.name) := by
  induction containers generalizing changes with
  | nil => exact overrideContainers_nil changes
  | cons container containers ih =>
    obtain ⟨hfirst, hrest⟩ := List.nodup_cons.1 h
    rw [overrideContainers_cons, List.map_cons, ih hrest]
    congr 1
    apply List.map_congr_left
    intro other hm
    rw [List.filter_filter]
    congr 1
    apply List.filter_congr
    intro change _
    by_cases hother : other.name = change.name
    · have hne : container.name ≠ change.name := by
        intro heq
        rw [heq, ← hother] at hfirst
        exact hfirst (List.mem_map_of_mem hm)
      simp [hother, hne]
    · simp [hother]

/-! ## Effects -/

open RoleDiscovery.Action in
/-- Overrides are applied without a call; what is reported about them changes nothing. -/
theorem effect_applyOverrides {σ : Type} {store : Store σ} {s : σ}
    (changes : List ContainerOverride) (containers : List Container) :
    effect store (applyOverrides changes containers) s =
      (overrideContainers containers changes, s, []) := by
  induction changes generalizing containers with
  | nil => rfl
  | cons change changes ih =>
    rw [applyOverrides]
    split_ifs
    · refine (effect_bind_pure (effect_report _)).trans ?_
      exact ih _
    · exact ih _

end RoleDiscovery
