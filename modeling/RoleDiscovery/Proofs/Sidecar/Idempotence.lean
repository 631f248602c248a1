import RoleDiscovery.Proofs.Sidecar.Profiles

/-!
# Profiles brought in twice

A template that the profiles of a role were brought into has them all, so that the second time
nothing is merged. The overrides are applied again, though, and find all containers. An override
that comes before the profile with its container finds none the first time, and one the second time:
then the template changes once more. After that it stays.

Results:

* `InTime`: no override comes before the container of its name.
* `PodTemplate.addSupplies_of_hasAll`: the second time only the overrides are applied.
* `PodTemplate.addSupplies_addSupplies`: if they come in time they do nothing the second time.
* `injectProfiles_again`: the second and the third run of bringing in the profiles of a role.
* `injectProfiles_not_idempotent`: a template that the second run changes.
-/

namespace RoleDiscovery

/-! ## Overrides in time -/

/-- No override comes before the container of its name: whenever a profile brings a container, other
than those of `names`, no override before it, nor one of `done`, is meant for it. -/
def InTime (names : List String) (done : List ContainerOverride) : List Supply → Prop
  | [] => True
  | supply :: rest =>
    (∀ container ∈ supply.profile.containers, container.name ∉ names →
      ∀ change ∈ done, change.name ≠ container.name) ∧
    InTime (names ++ supply.profile.containers.map Container.name) (done ++ supply.overrides) rest

/-- A container is what some overrides have made of it, as far as they are meant for it. -/
def Settled (done : List ContainerOverride) (container : Container) : Prop :=
  ∃ base : Container, container =
    base.overrideAll (done.filter fun change => container.name = change.name)

section

variable {containers : List Container} {done changes : List ContainerOverride}

theorem settled_nil (container : Container) : Settled [] container :=
  ⟨container, rfl⟩

/-- A container that no override is meant for. -/
theorem settled_of_forall_ne {container : Container}
    (h : ∀ change ∈ done, change.name ≠ container.name) : Settled done container := by
  have hnone : (done.filter fun change => container.name = change.name) = [] := by
    rw [List.filter_eq_nil_iff]
    intro change hm hname
    exact h change hm (of_decide_eq_true hname).symm
  refine ⟨container, ?_⟩
  rw [hnone]
  rfl

/-- Containers that are settled are so after further overrides. -/
theorem settled_overrideContainers (hn : (containers.map Container.name).Nodup)
    (h : ∀ container ∈ containers, Settled done container) :
    ∀ container ∈ overrideContainers containers changes, Settled (done ++ changes) container := by
  intro container hm
  rw [overrideContainers_of_nodup hn] at hm
  obtain ⟨before, hbefore, rfl⟩ := List.mem_map.1 hm
  obtain ⟨base, hbase⟩ := h before hbefore
  refine ⟨base, ?_⟩
  rw [Container.name_overrideAll, List.filter_append, Container.overrideAll_append, ← hbase]

/-- Overrides do nothing to containers that they have settled. -/
theorem overrideContainers_of_settled (hn : (containers.map Container.name).Nodup)
    (h : ∀ container ∈ containers, Settled done container) :
    overrideContainers containers done = containers := by
  rw [overrideContainers_of_nodup hn]
  refine (List.map_congr_left ?_).trans (List.map_id containers)
  intro container hm
  obtain ⟨base, hbase⟩ := h container hm
  generalize done.filter (fun change => container.name = change.name) = meant at hbase
  show container.overrideAll meant = container
  rw [hbase, Container.overrideAll_overrideAll]

end

/-! ## Pods -/

namespace PodSpec

variable {spec : PodSpec} {supply : Supply} {supplies : List Supply}
  {names : List String} {done : List ContainerOverride}

/-- The containers of a pod bear the names, each once, and were settled by overrides. -/
structure SettledBy (spec : PodSpec) (names : List String) (done : List ContainerOverride) :
    Prop where
  mem_names : ∀ name, name ∈ spec.containers.map Container.name ↔ name ∈ names
  nodup : (spec.containers.map Container.name).Nodup
  settled : ∀ container ∈ spec.containers, Settled done container

/-- What a profile brings is settled if no override came before it. -/
theorem settledBy_addProfile {profile : ProfileSpec} (h : spec.SettledBy names done)
    (hfresh : ∀ container ∈ profile.containers, container.name ∉ names →
      ∀ change ∈ done, change.name ≠ container.name) :
    (spec.addProfile profile).SettledBy (names ++ profile.containers.map Container.name) done := by
  by_cases hnil : profile.containers = []
  · have hsame : (spec.addProfile profile).containers = spec.containers := by
      show mergeNamed _ _ profile.containers = _
      rw [hnil]
      rfl
    refine ⟨?_, ?_, ?_⟩
    · rw [hsame, hnil, List.map_nil, List.append_nil]
      exact h.mem_names
    · rw [hsame]
      exact h.nodup
    · rw [hsame]
      exact h.settled
  · have hmerge : (spec.addProfile profile).containers =
        Keyed.merge Container.name spec.containers profile.containers :=
      if_neg (mt List.isEmpty_iff.1 hnil)
    refine ⟨?_, ?_, ?_⟩
    · intro name
      rw [hmerge, Keyed.mem_map_merge, h.mem_names, List.mem_append]
    · rw [hmerge]
      exact Keyed.nodup_merge
    · rw [hmerge]
      intro container hm
      by_cases hname : container.name ∈ spec.containers.map Container.name
      · exact h.settled container (Keyed.mem_of_mem_merge hm hname)
      · have hadded : container.name ∈ profile.containers.map Container.name :=
          (Keyed.mem_map_merge.1 (List.mem_map_of_mem hm)).resolve_left hname
        obtain ⟨added, hadded, heq⟩ := List.mem_map.1 hadded
        rw [h.mem_names, ← heq] at hname
        exact settled_of_forall_ne fun change hchange =>
          heq ▸ hfresh added hadded hname change hchange

theorem settledBy_addSupply (h : spec.SettledBy names done)
    (hfresh : ∀ container ∈ supply.profile.containers, container.name ∉ names →
      ∀ change ∈ done, change.name ≠ container.name) :
    (spec.addSupply supply).SettledBy (names ++ supply.profile.containers.map Container.name)
      (done ++ supply.overrides) := by
  have hprofile := settledBy_addProfile h hfresh
  refine ⟨?_, ?_, settled_overrideContainers hprofile.nodup hprofile.settled⟩
  · show ∀ name, name ∈ (overrideContainers _ _).map Container.name ↔ _
    rw [map_name_overrideContainers]
    exact hprofile.mem_names
  · show ((overrideContainers _ _).map Container.name).Nodup
    rw [map_name_overrideContainers]
    exact hprofile.nodup

/-- Supplies in time leave containers that their overrides have settled. -/
theorem settledBy_addSupplies (h : spec.SettledBy names done) (ht : InTime names done supplies) :
    ∃ names, (spec.addSupplies supplies).SettledBy names
      (done ++ supplies.flatMap Supply.overrides) := by
  induction supplies generalizing spec names done with
  | nil =>
    rw [List.flatMap_nil, List.append_nil]
    exact ⟨names, h⟩
  | cons supply supplies ih =>
    rw [List.flatMap_cons, ← List.append_assoc]
    exact ih (settledBy_addSupply h ht.1) ht.2

end PodSpec

/-! ## Templates -/

namespace PodTemplate

variable {template : PodTemplate} {supplies : List Supply}

/-- A template with overrides applied to its containers. -/
def overridden (template : PodTemplate) (changes : List ContainerOverride) : PodTemplate :=
  { template with
    spec := template.spec.map fun spec =>
      { spec with containers := overrideContainers spec.containers changes } }

/-- A template has all profiles of some supplies. -/
def HasAll (template : PodTemplate) (supplies : List Supply) : Prop :=
  ∀ supply ∈ supplies, ∃ spec, template.spec = some spec ∧ spec.Has supply.profile

theorem addSupplies_cons (template : PodTemplate) (supply : Supply) (supplies : List Supply) :
    template.addSupplies (supply :: supplies) =
      { template with
        spec := some ((template.spec.getD {}).addSupplies (supply :: supplies)) } :=
  addSupplies_of_spec rfl supplies

theorem hasAll_addSupplies (template : PodTemplate) (supplies : List Supply) :
    (template.addSupplies supplies).HasAll supplies := by
  intro supply hm
  obtain ⟨first, rest, rfl⟩ := List.exists_cons_of_ne_nil (List.ne_nil_of_mem hm)
  rw [addSupplies_cons]
  exact ⟨_, rfl, PodSpec.has_addSupplies hm⟩

theorem hasAll_overridden (h : template.HasAll supplies) (changes : List ContainerOverride) :
    (template.overridden changes).HasAll supplies := by
  intro supply hm
  obtain ⟨spec, hspec, hhas⟩ := h supply hm
  refine ⟨{ spec with containers := overrideContainers spec.containers changes }, ?_,
    PodSpec.has_withContainers (map_name_overrideContainers _ _) hhas⟩
  rw [overridden, hspec]
  rfl

/-- On a template that has the profiles only the overrides are applied. -/
theorem addSupplies_of_hasAll (h : template.HasAll supplies) :
    template.addSupplies supplies = template.overridden (supplies.flatMap Supply.overrides) := by
  cases supplies with
  | nil =>
    cases template with
    | mk metadata spec => cases spec <;> rfl
  | cons supply supplies =>
    obtain ⟨spec, hspec, -⟩ := h supply List.mem_cons_self
    have hhas : ∀ other ∈ supply :: supplies, spec.Has other.profile := by
      intro other hm
      obtain ⟨same, hsame, hother⟩ := h other hm
      rw [hspec] at hsame
      cases hsame
      exact hother
    rw [addSupplies_of_spec hspec, PodSpec.addSupplies_of_has hhas, overridden, hspec]
    rfl

theorem overridden_overridden (template : PodTemplate) (changes : List ContainerOverride) :
    (template.overridden changes).overridden changes = template.overridden changes := by
  cases hspec : template.spec with
  | none =>
    rw [overridden, overridden, hspec]
    rfl
  | some spec =>
    simp only [overridden, hspec, Option.map_some, overrideContainers_overrideContainers]

/-- Supplies in time do nothing the second time. -/
theorem addSupplies_addSupplies
    (hn : ((template.spec.getD {}).containers.map Container.name).Nodup)
    (ht : InTime ((template.spec.getD {}).containers.map Container.name) [] supplies) :
    (template.addSupplies supplies).addSupplies supplies = template.addSupplies supplies := by
  rw [addSupplies_of_hasAll (hasAll_addSupplies template supplies)]
  cases supplies with
  | nil =>
    cases template with
    | mk metadata spec => cases spec <;> rfl
  | cons supply supplies =>
    have hsettled : (template.spec.getD {}).SettledBy
        ((template.spec.getD {}).containers.map Container.name) [] :=
      ⟨fun _ => Iff.rfl, hn, fun container _ => settled_nil container⟩
    obtain ⟨names, hafter⟩ := PodSpec.settledBy_addSupplies hsettled ht
    have hsame := overrideContainers_of_settled hafter.nodup hafter.settled
    rw [List.nil_append] at hsame
    rw [addSupplies_cons, overridden, Option.map_some, hsame]

end PodTemplate

/-! ## Runs -/

section

open RoleDiscovery.Action

variable {σ : Type} {store : Store σ} {contents : σ → Contents} {reading : σ → Prop} {s : σ}
  {role : RoleSpec} {supplies : List Supply}

/-- A role whose references all have a profile brings in what they bring. -/
theorem run_injectProfiles (hk : store.Keeps contents)
    (hprovides : store.Provides role.engineRuntimes reading) (hs : reading s)
    (h : role.engineRuntimes.mapM (contents s).supply? = some supplies) (template : PodTemplate) :
    ((injectProfiles role template).run store s).result = (template.addSupplies supplies, .ok ()) ∧
      contents ((injectProfiles role template).run store s).store = contents s ∧
      reading ((injectProfiles role template).run store s).store := by
  obtain ⟨t, heffect, hsame, ht⟩ :=
    effect_injectReferences hk hprovides hs role.name template h
  obtain ⟨hresult, hstore, -⟩ := run_of_effect ((effect_inSpan _ _ _).trans heffect)
  exact ⟨hresult, hstore ▸ hsame, hstore ▸ ht⟩

end

/-- If the profiles of a role are brought into a template, and into what comes out again, then all
that the second run does is to apply the overrides once more, and the third run does nothing. Nor
does the second one if no override comes before the container of its name. This takes a store that
tells of the profiles, and nobody who changes it in between. -/
theorem injectProfiles_again {σ : Type} (store : Store σ) (contents : σ → Contents)
    (reading : σ → Prop) (hk : store.Keeps contents) (role : RoleSpec)
    (hprovides : store.Provides role.engineRuntimes reading) (template : PodTemplate) (s : σ)
    (hs : reading s) (h : ((injectProfiles role template).run store s).result.2 = .ok ()) :
    let once := (injectProfiles role template).run store s
    let twice := (injectProfiles role once.result.1).run store once.store
    let thrice := (injectProfiles role twice.result.1).run store twice.store
    let names := (template.spec.getD {}).containers.map Container.name
    (contents once.store = contents s ∧ reading once.store) ∧
      (contents twice.store = contents s ∧ reading twice.store) ∧
      twice.result =
        (once.result.1.overridden (role.engineRuntimes.flatMap EngineRuntime.containers), .ok ()) ∧
      thrice.result = twice.result ∧
      ∃ supplies, role.engineRuntimes.mapM (contents s).supply? = some supplies ∧
        (names.Nodup → InTime names [] supplies → twice.result = once.result) := by
  intro once twice thrice names
  have heffect : Action.effect store (injectReferences role.name role.engineRuntimes template) s =
      (((once.result.1, .ok ()), once.store, once.calls) : _ × _ × _) := by
    rw [← Action.effect_inSpan (sidecarSpan role), ← h]
    rfl
  obtain ⟨supplies, hsupplies, -⟩ := injectReferences_ok hk heffect
  have hoverrides : supplies.flatMap Supply.overrides =
      role.engineRuntimes.flatMap EngineRuntime.containers := by
    rw [List.flatMap_def, List.flatMap_def, Contents.map_overrides_of_mapM_supply? hsupplies]
  obtain ⟨hone, hsame, hreading⟩ : once.result = (template.addSupplies supplies, .ok ()) ∧
      contents once.store = contents s ∧ reading once.store :=
    run_injectProfiles hk hprovides hs hsupplies template
  obtain ⟨htwo, hsame', hreading'⟩ : twice.result = (once.result.1.addSupplies supplies, .ok ()) ∧
      contents twice.store = contents once.store ∧ reading twice.store :=
    run_injectProfiles hk hprovides hreading (hsame ▸ hsupplies) once.result.1
  obtain ⟨hthree, -⟩ : thrice.result = (twice.result.1.addSupplies supplies, .ok ()) ∧ _ :=
    run_injectProfiles hk hprovides hreading' (hsame'.trans hsame ▸ hsupplies) twice.result.1
  have hall : once.result.1.HasAll supplies := by
    rw [hone]
    exact PodTemplate.hasAll_addSupplies template supplies
  have hagain := PodTemplate.addSupplies_of_hasAll hall
  rw [hoverrides] at hagain
  refine ⟨⟨hsame, hreading⟩, ⟨hsame'.trans hsame, hreading'⟩, ?_, ?_, supplies, hsupplies, ?_⟩
  · rw [htwo, hagain]
  · rw [hthree, htwo, hagain,
      PodTemplate.addSupplies_of_hasAll (PodTemplate.hasAll_overridden hall _),
      hoverrides, PodTemplate.overridden_overridden]
  · intro hn ht
    rw [htwo, hone, PodTemplate.addSupplies_addSupplies hn ht]

/-- A role whose first reference overrides a container that its second one brings. -/
def hastyRole : RoleSpec where
  name := "worker"
  engineRuntimes :=
    [ { profileName := "first", containers := [{ name := "helper", args := ["--late"] }] },
      { profileName := "second" } ]

/-- The profiles of that role. -/
def hastyMemory : Memory where
  profiles :=
    [ { metadata := { name := some "first" }, spec := {} },
      { metadata := { name := some "second" }
        spec := { containers := [{ name := "helper" }] } } ]

/-- A template with one container. -/
def plainTemplate : PodTemplate where
  spec := some { containers := [{ name := "main" }] }

/-- A template that has the container already. -/
def helpedTemplate : PodTemplate where
  spec := some { containers := [{ name := "main" }, { name := "helper" }] }

/-- The first template needs a second run, after which it stays; the other one needs none. -/
theorem injectProfiles_again_of_hasty :
    let once := (injectProfiles hastyRole plainTemplate).run Memory.store hastyMemory
    let twice := (injectProfiles hastyRole once.result.1).run Memory.store once.store
    let thrice := (injectProfiles hastyRole twice.result.1).run Memory.store twice.store
    let helped := (injectProfiles hastyRole helpedTemplate).run Memory.store hastyMemory
    Memory.store.Keeps Memory.contents ∧
      Memory.store.Provides hastyRole.engineRuntimes (· = hastyMemory) ∧
      once.result.2 = .ok () ∧ twice.store = hastyMemory ∧ thrice.result = twice.result ∧
      ((injectProfiles hastyRole helped.result.1).run Memory.store helped.store).result =
        helped.result := by
  have hprovides : Memory.store.Provides hastyRole.engineRuntimes (· = hastyMemory) :=
    Memory.provides rfl _
  obtain ⟨-, ⟨-, hstore⟩, -, hthrice, -⟩ := injectProfiles_again Memory.store Memory.contents _
    Memory.keeps hastyRole hprovides plainTemplate hastyMemory rfl rfl
  obtain ⟨-, -, -, -, supplies, hsupplies, hsame⟩ := injectProfiles_again Memory.store
    Memory.contents _ Memory.keeps hastyRole hprovides helpedTemplate hastyMemory rfl rfl
  refine ⟨Memory.keeps, hprovides, rfl, hstore, hthrice, ?_⟩
  have hbrought : hastyRole.engineRuntimes.mapM hastyMemory.contents.supply? =
      some [⟨{}, [{ name := "helper", args := ["--late"] }]⟩,
        ⟨{ containers := [{ name := "helper" }] }, []⟩] := rfl
  rw [hbrought] at hsupplies
  cases hsupplies
  have htime : InTime ["main", "helper"] [] [⟨{}, [{ name := "helper", args := ["--late"] }]⟩,
      ⟨{ containers := [{ name := "helper" }] }, []⟩] := by
    refine ⟨fun _ hm => absurd hm List.not_mem_nil, ?_, trivial⟩
    intro container hm hnew
    rw [List.mem_singleton.1 hm] at hnew
    exact absurd hnew (by decide)
  exact hsame (by decide) htime

/-- To bring in the same profiles twice is not always to bring them in once, not even into a
template with distinct names. -/
theorem injectProfiles_not_idempotent :
    let spec := plainTemplate.spec.getD {}
    let once := (injectProfiles hastyRole plainTemplate).run Memory.store hastyMemory
    let twice := (injectProfiles hastyRole once.result.1).run Memory.store once.store
    (spec.containers.map Container.name).Nodup ∧
      (namesOf Container.name spec.initContainers).Nodup ∧
      (namesOf Volume.name spec.volumes).Nodup ∧
      once.result.2 = .ok () ∧ twice.result.2 = .ok () ∧ once.store = hastyMemory ∧
      twice.result.1 ≠ once.result.1 := by
  refine ⟨by decide, by decide, by decide, rfl, rfl, rfl, by decide⟩

end RoleDiscovery
