import Mathlib.Data.List.Forall2
import RoleDiscovery.Proofs.Keyed
import RoleDiscovery.Proofs.Sidecar.Overrides
import RoleDiscovery.Proofs.Store.Contents

/-!
# Laws of profiles

A pod has a profile if there is nothing left of the profile to add. Every profile that was merged is
one that the pod has, and stays so, whatever is merged after it. So on a pod that has all profiles
of a role only the overrides are left to do.

Results:

* `Covers`: a list has all that is to be added to it.
* `PodSpec.Has`, `PodSpec.has_addSupplies`: a pod has the profiles that were merged.
* `PodSpec.addSupplies_of_has`: on such a pod only the overrides are applied.
* `effect_injectReferences_cases`: the effect of bringing references into a template, on any store.
* `supplies_of_injectReferences`: what was brought into it, if that succeeds.
* `Contents.supply?`, `effect_injectReferences`, `injectReferences_ok`: what references bring on a
  store that keeps their profiles.
-/

namespace RoleDiscovery

/-! ## Lists -/

section

variable {α : Type} {name : α → String} {existing : Option (List α)} {additions rest : List α}

/-- A list is mapped to another one if each of its elements is mapped to the one at its place. -/
theorem mapM_eq_some {β : Type} {f : α → Option β} {x : List α} {y : List β} :
    x.mapM f = some y ↔ List.Forall₂ (fun a b => f a = some b) x y := by
  induction x generalizing y with
  | nil =>
    rw [List.mapM_nil, List.forall₂_nil_left_iff]
    exact Option.some_inj.trans eq_comm
  | cons a x ih =>
    rw [List.mapM_cons]
    constructor
    · intro h
      obtain ⟨b, hb, h⟩ := Option.bind_eq_some_iff.1 h
      obtain ⟨rest, hrest, h⟩ := Option.bind_eq_some_iff.1 h
      cases h
      exact .cons hb (ih.1 hrest)
    · intro h
      cases h with
      | cons hb hrest =>
        rw [hb, ih.2 hrest]
        rfl

/-- Names cover additions if there are none, or if the names are distinct and all of the additions
are among them. -/
def Covers (name : α → String) (names : List String) (additions : List α) : Prop :=
  additions = [] ∨ names.Nodup ∧ ∀ addition ∈ additions, name addition ∈ names

/-- The names in a list that may be unset. -/
def namesOf (name : α → String) (existing : Option (List α)) : List String :=
  (existing.getD []).map name

theorem mergeOptional_nil (existing : Option (List α)) :
    mergeOptional name existing [] = existing := rfl

theorem mergeOptional_of_ne_nil (h : additions ≠ []) :
    mergeOptional name existing additions =
      some (Keyed.merge name (existing.getD []) additions) := by
  rw [mergeOptional, if_neg (mt List.isEmpty_iff.1 h)]

/-- Nothing is added to a list that has all of it. -/
theorem mergeOptional_of_covers (h : Covers name (namesOf name existing) additions) :
    mergeOptional name existing additions = existing := by
  by_cases hne : additions = []
  · rw [hne, mergeOptional_nil]
  · obtain ⟨hnodup, hmem⟩ := h.resolve_left hne
    rw [mergeOptional_of_ne_nil hne]
    cases existing with
    | none =>
      obtain ⟨addition, _, rfl⟩ := List.exists_cons_of_ne_nil hne
      exact absurd (hmem addition List.mem_cons_self) List.not_mem_nil
    | some items => exact congrArg some (Keyed.merge_eq_self hnodup hmem)

theorem covers_mergeOptional :
    Covers name (namesOf name (mergeOptional name existing additions)) additions := by
  by_cases hne : additions = []
  · exact .inl hne
  · rw [mergeOptional_of_ne_nil hne]
    refine .inr ⟨Keyed.nodup_merge, ?_⟩
    intro addition hm
    exact Keyed.mem_map_merge.2 (.inr (List.mem_map_of_mem hm))

/-- What a list has it keeps. -/
theorem covers_mergeOptional_of_covers (h : Covers name (namesOf name existing) additions) :
    Covers name (namesOf name (mergeOptional name existing rest)) additions := by
  by_cases hne : rest = []
  · rw [hne, mergeOptional_nil]
    exact h
  · rw [mergeOptional_of_ne_nil hne]
    refine h.imp_right fun ⟨_, hmem⟩ => ⟨Keyed.nodup_merge, ?_⟩
    intro addition hm
    exact Keyed.mem_map_merge.2 (.inl (hmem addition hm))

/-- A list that is set is merged like one that may be unset. -/
theorem some_mergeNamed (items additions : List α) :
    some (mergeNamed name items additions) = mergeOptional name (some items) additions := by
  rw [mergeNamed, mergeOptional]
  split_ifs <;> rfl

end

/-! ## Pods -/

/-- What a reference brings into a pod: its profile and the overrides after it. -/
structure Supply where
  profile : ProfileSpec
  overrides : List ContainerOverride

namespace PodSpec

variable {spec : PodSpec} {profile other : ProfileSpec} {supplies : List Supply}

/-- There is nothing left of a profile to add to a pod. -/
structure Has (spec : PodSpec) (profile : ProfileSpec) : Prop where
  initContainers :
    Covers Container.name (namesOf Container.name spec.initContainers) profile.initContainers
  containers :
    Covers Container.name (namesOf Container.name (some spec.containers)) profile.containers
  volumes : Covers Volume.name (namesOf Volume.name spec.volumes) profile.volumes

theorem addProfile_of_has (h : spec.Has profile) : spec.addProfile profile = spec := by
  have hcontainers : some (mergeNamed Container.name spec.containers profile.containers) = _ :=
    some_mergeNamed _ _
  rw [mergeOptional_of_covers h.containers] at hcontainers
  rw [addProfile, mergeOptional_of_covers h.initContainers, mergeOptional_of_covers h.volumes,
    Option.some.inj hcontainers]

theorem has_addProfile : (spec.addProfile profile).Has profile where
  initContainers := covers_mergeOptional
  containers := by
    show Covers _ (namesOf _ (some (mergeNamed _ _ _))) _
    rw [some_mergeNamed]
    exact covers_mergeOptional
  volumes := covers_mergeOptional

theorem has_addProfile_of_has (h : spec.Has profile) : (spec.addProfile other).Has profile where
  initContainers := covers_mergeOptional_of_covers h.initContainers
  containers := by
    show Covers _ (namesOf _ (some (mergeNamed _ _ _))) _
    rw [some_mergeNamed]
    exact covers_mergeOptional_of_covers h.containers
  volumes := covers_mergeOptional_of_covers h.volumes

/-- Of the containers only the names count. -/
theorem has_withContainers {containers : List Container}
    (hnames : containers.map Container.name = spec.containers.map Container.name)
    (h : spec.Has profile) : ({ spec with containers } : PodSpec).Has profile where
  initContainers := h.initContainers
  containers := by
    show Covers _ (containers.map _) _
    rw [hnames]
    exact h.containers
  volumes := h.volumes

/-- A pod with what a reference brings. -/
def addSupply (spec : PodSpec) (supply : Supply) : PodSpec :=
  { spec.addProfile supply.profile with
    containers := overrideContainers (spec.addProfile supply.profile).containers supply.overrides }

theorem has_addSupply {supply : Supply} : (spec.addSupply supply).Has supply.profile :=
  has_withContainers (map_name_overrideContainers _ _) has_addProfile

theorem has_addSupply_of_has {supply : Supply} (h : spec.Has profile) :
    (spec.addSupply supply).Has profile :=
  has_withContainers (map_name_overrideContainers _ _) (has_addProfile_of_has h)

/-- A pod with what some references bring, one after the other. -/
def addSupplies (spec : PodSpec) (supplies : List Supply) : PodSpec :=
  supplies.foldl addSupply spec

theorem has_addSupplies_of_has (h : spec.Has profile) :
    (spec.addSupplies supplies).Has profile := by
  induction supplies generalizing spec with
  | nil => exact h
  | cons supply supplies ih => exact ih (has_addSupply_of_has h)

/-- A pod has every profile that was merged into it. -/
theorem has_addSupplies {supply : Supply} (h : supply ∈ supplies) :
    (spec.addSupplies supplies).Has supply.profile := by
  induction supplies generalizing spec with
  | nil => exact absurd h List.not_mem_nil
  | cons first supplies ih =>
    rcases List.mem_cons.1 h with rfl | hm
    · show ((spec.addSupply supply).addSupplies supplies).Has supply.profile
      exact has_addSupplies_of_has has_addSupply
    · exact ih hm

/-- On a pod that has the profiles only the overrides are applied. -/
theorem addSupplies_of_has (h : ∀ supply ∈ supplies, spec.Has supply.profile) :
    spec.addSupplies supplies =
      { spec with
        containers := overrideContainers spec.containers (supplies.flatMap Supply.overrides) } := by
  induction supplies generalizing spec with
  | nil => rfl
  | cons supply supplies ih =>
    have hfirst : spec.addSupply supply =
        { spec with containers := overrideContainers spec.containers supply.overrides } := by
      rw [addSupply, addProfile_of_has (h supply List.mem_cons_self)]
    have hrest : ∀ other ∈ supplies, (spec.addSupply supply).Has other.profile :=
      fun other hm => has_addSupply_of_has (h other (List.mem_cons_of_mem _ hm))
    rw [List.flatMap_cons, overrideContainers_append]
    refine (ih hrest).trans ?_
    rw [hfirst]

end PodSpec

/-! ## Templates -/

namespace PodTemplate

/-- A template with what a reference brings. -/
def addSupply (template : PodTemplate) (supply : Supply) : PodTemplate :=
  { template with spec := some ((template.spec.getD {}).addSupply supply) }

/-- A template with what some references bring, one after the other. -/
def addSupplies (template : PodTemplate) (supplies : List Supply) : PodTemplate :=
  supplies.foldl addSupply template

theorem addSupplies_of_spec {template : PodTemplate} {spec : PodSpec}
    (h : template.spec = some spec) (supplies : List Supply) :
    template.addSupplies supplies = { template with spec := some (spec.addSupplies supplies) } := by
  induction supplies generalizing template spec with
  | nil =>
    cases template
    cases h
    rfl
  | cons supply supplies ih =>
    rw [addSupplies, List.foldl_cons, addSupply, h]
    exact ih rfl

end PodTemplate

/-! ## References -/

/-- Why a reference cannot be had, by what the read of its profile answered. -/
def refusal? (role name : String) :
    Except ClientError (Option RuntimeProfile) → Option SidecarError
  | .error cause => some (.getProfile name cause)
  | .ok none => some (.profileNotFound name role)
  | .ok (some _) => none

/-- The reads of the profiles of some references. -/
def profileReads (references : List EngineRuntime) : List Call :=
  references.map fun reference => .getProfile reference.profileName

section

open RoleDiscovery.Action

variable {σ : Type} {store : Store σ} {s t : σ} {role : String} {reference : EngineRuntime}
  {references : List EngineRuntime} {template after : PodTemplate} {calls : List Call}

/-- A reference that can be had is brought in after one read. -/
theorem effect_injectReferences_found {profile : RuntimeProfile}
    (h : store.getProfile reference.profileName s = (.ok (some profile), t)) :
    effect store (injectReferences role (reference :: references) template) s =
      afterCall (.getProfile reference.profileName)
        (effect store (injectReferences role references
          (template.addSupply ⟨profile.spec, reference.containers⟩)) t) := by
  have hread : effect store (getProfile reference.profileName) s = _ := effect_getProfile _
  rw [h] at hread
  rw [injectReferences]
  apply effect_bind_of hread
  refine (effect_bind_pure (effect_applyOverrides _ _)).trans ?_
  exact effect_bind_pure (effect_report _)

/-- At a reference that cannot be had nothing more is brought in. -/
theorem effect_injectReferences_refused
    {answer : Except ClientError (Option RuntimeProfile)} {failure : SidecarError}
    (h : store.getProfile reference.profileName s = (answer, t))
    (hr : refusal? role reference.profileName answer = some failure) :
    effect store (injectReferences role (reference :: references) template) s =
      ((template, .error failure), t, [.getProfile reference.profileName]) := by
  have hread : effect store (getProfile reference.profileName) s = _ := effect_getProfile _
  rw [h] at hread
  rw [injectReferences, effect_bind hread]
  rcases answer with cause | _ | profile
  · cases hr
    rfl
  · cases hr
    rfl
  · cases hr

/-- References are brought in up to the first one that cannot be had: then the others before it are
all that was brought in, and it was the last one to be read. -/
theorem effect_injectReferences_cases (store : Store σ) (role : String)
    (references : List EngineRuntime) (template : PodTemplate) (s : σ) :
    (∃ after t, effect store (injectReferences role references template) s =
      ((after, .ok ()), t, profileReads references)) ∨
    ∃ k reference answer failure after t u, references[k]? = some reference ∧
      effect store (injectReferences role (references.take k) template) s =
        ((after, .ok ()), t, profileReads (references.take k)) ∧
      store.getProfile reference.profileName t = (answer, u) ∧
      refusal? role reference.profileName answer = some failure ∧
      effect store (injectReferences role references template) s =
        ((after, .error failure), u, profileReads (references.take (k + 1))) := by
  induction references generalizing template s with
  | nil => exact .inl ⟨template, s, rfl⟩
  | cons reference references ih =>
    rcases hread : store.getProfile reference.profileName s with ⟨answer, u⟩
    cases hr : refusal? role reference.profileName answer with
    | some failure =>
      exact .inr ⟨0, reference, answer, failure, template, s, u, rfl, rfl, hread, hr,
        effect_injectReferences_refused hread hr⟩
    | none =>
      rcases answer with cause | _ | profile
      · cases hr
      · cases hr
      obtain ⟨after, t, hrest⟩ | ⟨k, other, answer, failure, after, t, v, hk, hcut, hother, hr,
        hrest⟩ := ih (template.addSupply ⟨profile.spec, reference.containers⟩) u
      · refine .inl ⟨after, t, ?_⟩
        rw [effect_injectReferences_found hread, hrest]
        rfl
      · refine .inr ⟨k + 1, other, answer, failure, after, t, v, hk, ?_, hother, hr, ?_⟩
        · rw [List.take_succ_cons, effect_injectReferences_found hread, hcut]
          rfl
        · rw [List.take_succ_cons, effect_injectReferences_found hread, hrest]
          rfl

/-- What references bring that could all be had: for each of them what was read, in one of the
states that the reads do not lead out of. -/
theorem supplies_of_injectReferences (during : σ → Prop) (brings : EngineRuntime → Supply → Prop)
    (hread : ∀ {s t reference profile}, during s →
      store.getProfile reference.profileName s = (.ok (some profile), t) →
      during t ∧ brings reference ⟨profile.spec, reference.containers⟩) (hs : during s)
    (h : effect store (injectReferences role references template) s = ((after, .ok ()), t, calls)) :
    ∃ supplies, List.Forall₂ brings references supplies ∧
      after = template.addSupplies supplies := by
  induction references generalizing template s calls with
  | nil =>
    cases h
    exact ⟨[], .nil, rfl⟩
  | cons reference references ih =>
    rcases hanswer : store.getProfile reference.profileName s with ⟨answer, u⟩
    rcases answer with cause | _ | profile
    · rw [effect_injectReferences_refused hanswer rfl] at h
      cases h
    · rw [effect_injectReferences_refused hanswer rfl] at h
      cases h
    · obtain ⟨hu, hbrings⟩ := hread hs hanswer
      rw [effect_injectReferences_found hanswer] at h
      rcases hrest : effect store (injectReferences role references
        (template.addSupply ⟨profile.spec, reference.containers⟩)) u with ⟨result, v, rest⟩
      rw [hrest] at h
      cases h
      obtain ⟨supplies, hsupplies, hafter⟩ := ih hu hrest
      exact ⟨_ :: supplies, .cons hbrings hsupplies, hafter⟩

end

/-! ## What references bring -/

namespace Contents

variable {contents other : Contents} {reference : EngineRuntime} {references : List EngineRuntime}

/-- What a reference brings, if there is a profile of its name. -/
def supply? (contents : Contents) (reference : EngineRuntime) : Option Supply :=
  (contents.profile? reference.profileName).map fun profile =>
    ⟨profile.spec, reference.containers⟩

theorem overrides_of_supply? {supply : Supply} (h : contents.supply? reference = some supply) :
    supply.overrides = reference.containers := by
  obtain ⟨profile, -, rfl⟩ := Option.map_eq_some_iff.1 h
  rfl

theorem map_overrides_of_mapM_supply? {supplies : List Supply}
    (h : references.mapM contents.supply? = some supplies) :
    supplies.map Supply.overrides = references.map EngineRuntime.containers := by
  rw [mapM_eq_some] at h
  induction h with
  | nil => rfl
  | cons hsupply _ ih => rw [List.map_cons, List.map_cons, ih, overrides_of_supply? hsupply]

/-- Contents that agree on the profiles of some references bring the same for them. -/
theorem mapM_supply?_congr (h : ∀ reference ∈ references,
      contents.profile? reference.profileName = other.profile? reference.profileName) :
    references.mapM contents.supply? = references.mapM other.supply? := by
  induction references with
  | nil => rfl
  | cons reference references ih =>
    rw [List.mapM_cons, List.mapM_cons, supply?, supply?, h reference List.mem_cons_self,
      ih fun other hm => h other (List.mem_cons_of_mem _ hm)]

end Contents

section

open RoleDiscovery.Action

variable {σ : Type} {store : Store σ} {contentsOf : σ → Contents} (hk : store.Keeps contentsOf)
  {s t : σ} {role : String} {references : List EngineRuntime} {template : PodTemplate}
  {supplies : List Supply} {calls : List Call}

include hk

/-- To bring in references changes nothing in a store. -/
theorem contents_of_injectReferences {result : PodTemplate × Except SidecarError Unit}
    (h : effect store (injectReferences role references template) s = (result, t, calls)) :
    contentsOf t = contentsOf s := by
  induction references generalizing template s calls with
  | nil =>
    cases h
    rfl
  | cons reference references ih =>
    rcases hread : store.getProfile reference.profileName s with ⟨answer, u⟩
    rcases answer with cause | _ | profile
    · rw [effect_injectReferences_refused hread rfl] at h
      cases h
      exact hk.contents_profile hread
    · rw [effect_injectReferences_refused hread rfl] at h
      cases h
      exact hk.contents_profile hread
    · rw [effect_injectReferences_found hread] at h
      obtain ⟨hresult, hrest⟩ := Prod.mk.inj h
      obtain ⟨hstore, -⟩ := Prod.mk.inj hrest
      exact (ih (Prod.ext hresult (Prod.ext hstore rfl))).trans (hk.contents_profile hread)

/-- References that were brought in all have a profile in the store. -/
theorem injectReferences_ok {after : PodTemplate}
    (h : effect store (injectReferences role references template) s = ((after, .ok ()), t, calls)) :
    ∃ supplies, references.mapM (contentsOf s).supply? = some supplies ∧
      after = template.addSupplies supplies := by
  have hread : ∀ {t u} {reference : EngineRuntime} {profile}, contentsOf t = contentsOf s →
      store.getProfile reference.profileName t = (.ok (some profile), u) →
      contentsOf u = contentsOf s ∧ (contentsOf s).supply? reference =
        some ⟨profile.spec, reference.containers⟩ := by
    intro t u reference profile ht hfound
    refine ⟨(hk.contents_profile hfound).trans ht, ?_⟩
    rw [Contents.supply?, ← ht, ← hk.profile_eq hfound]
    rfl
  obtain ⟨supplies, hsupplies, hafter⟩ :=
    supplies_of_injectReferences (fun t => contentsOf t = contentsOf s)
      (fun reference supply => (contentsOf s).supply? reference = some supply) hread rfl h
  exact ⟨supplies, mapM_eq_some.2 hsupplies, hafter⟩

/-- References that all have a profile in a store that tells of them are brought in. -/
theorem effect_injectReferences {reading : σ → Prop} (hprovides : store.Provides references reading)
    (hs : reading s) (role : String) (template : PodTemplate)
    (h : references.mapM (contentsOf s).supply? = some supplies) :
    ∃ t, effect store (injectReferences role references template) s =
        ((template.addSupplies supplies, .ok ()), t, profileReads references) ∧
      contentsOf t = contentsOf s ∧ reading t := by
  rw [mapM_eq_some] at h
  generalize hbefore : contentsOf s = contents at h
  induction h generalizing template s with
  | nil => exact ⟨s, rfl, hbefore, hs⟩
  | @cons reference supply references supplies hsupply _ ih =>
    obtain ⟨found, t, hread, ht⟩ := hprovides s hs reference List.mem_cons_self
    obtain ⟨profile, hprofile, rfl⟩ := Option.map_eq_some_iff.1 hsupply
    have hfound : found = some profile := by
      rw [hk.profile_eq hread, hbefore, hprofile]
    subst hfound
    have hrest : store.Provides references reading :=
      fun s hs other hm => hprovides s hs other (List.mem_cons_of_mem _ hm)
    obtain ⟨u, heffect, hu, hreading⟩ := ih hrest ht
      (template.addSupply ⟨profile.spec, reference.containers⟩)
      ((hk.contents_profile hread).trans hbefore)
    refine ⟨u, ?_, hu, hreading⟩
    rw [effect_injectReferences_found hread, heffect]
    rfl

end

end RoleDiscovery
