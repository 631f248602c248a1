import RoleDiscovery.Proofs.Store.Memory

/-!
# What a store keeps

A store is known by what it keeps: a ConfigMap under each key and a profile of each name. A call may
fail, and then it changes nothing. A read that does not fail answers what is kept, and a write
replaces the ConfigMap under its key. Which calls fail is left open.

Results:

* `Contents`, `Contents.put`: what is kept, and what a write makes of it.
* `Contents.configMap?_after`: of the ConfigMaps written under a key the last one is kept, whole.
* `Store.Keeps`: how a store answers that keeps some contents.
* `Store.Works`: a store none of whose calls on ConfigMaps fails.
* `Store.Finds`, `Store.Provides`: a store that answers some reads.
* `Memory.keeps`, `Memory.works_store`, `Memory.finds`, `Memory.provides`: the store in memory is
  such a store.
* `Faulty.keeps`: so it is if single calls of it fail.
-/

namespace RoleDiscovery

/-- What a store keeps. -/
structure Contents where
  configMap? : String → String → Option ConfigMap
  profile? : String → Option RuntimeProfile

/-- The contents after a ConfigMap was written. -/
def Contents.put (contents : Contents) (configMap : ConfigMap) : Contents :=
  { contents with
    configMap? := fun ns name =>
      if configMap.key = (ns, name) then some configMap else contents.configMap? ns name }

namespace Contents

/-- What is kept after ConfigMaps were written, one after the other. -/
def after (contents : Contents) (configMaps : List ConfigMap) : Contents :=
  configMaps.foldl put contents

theorem after_append (contents : Contents) (first second : List ConfigMap) :
    contents.after (first ++ second) = (contents.after first).after second :=
  List.foldl_append

/-- Of the ConfigMaps written under a key the last one is kept, as it was written. -/
theorem configMap?_after (contents : Contents) (configMaps : List ConfigMap) (ns name : String) :
    (contents.after configMaps).configMap? ns name =
      ((configMaps.filter fun configMap => configMap.key = (ns, name)).getLast?).or
        (contents.configMap? ns name) := by
  induction configMaps using List.reverseRecOn with
  | nil => rfl
  | append_singleton configMaps configMap ih =>
    rw [after_append, List.filter_append, List.getLast?_append]
    show (if configMap.key = (ns, name) then some configMap else
      (contents.after configMaps).configMap? ns name) = _
    by_cases hk : configMap.key = (ns, name)
    · simp [hk]
    · rw [if_neg hk, ih]
      simp [hk]

end Contents

/-- A store that keeps `contents`: a call that fails changes nothing, and any other does what it
says. -/
structure Store.Keeps {σ : Type} (store : Store σ) (contents : σ → Contents) : Prop where
  found_eq : ∀ {ns name s found t}, store.getConfigMap ns name s = (.ok found, t) →
    found = (contents s).configMap? ns name
  contents_read : ∀ {ns name s answer t}, store.getConfigMap ns name s = (answer, t) →
    contents t = contents s
  contents_applied : ∀ {configMap s t}, store.applyConfigMap configMap s = (.ok (), t) →
    contents t = (contents s).put configMap
  contents_refused : ∀ {configMap s cause t},
    store.applyConfigMap configMap s = (.error cause, t) → contents t = contents s
  profile_eq : ∀ {name s found t}, store.getProfile name s = (.ok found, t) →
    found = (contents s).profile? name
  contents_profile : ∀ {name s answer t}, store.getProfile name s = (answer, t) →
    contents t = contents s

/-- A store works in some of its states: no call on ConfigMaps fails there, and none leads out of
them. -/
structure Store.Works {σ : Type} (store : Store σ) (working : σ → Prop) : Prop where
  found : ∀ {s}, working s → ∀ ns name,
    ∃ found t, store.getConfigMap ns name s = (.ok found, t) ∧ working t
  applied : ∀ {s}, working s → ∀ configMap,
    ∃ t, store.applyConfigMap configMap s = (.ok (), t) ∧ working t

/-- In some of its states a store finds what is kept under a key: no read of it fails there, and
none leads out of them. -/
def Store.Finds {σ : Type} (store : Store σ) (ns name : String) (reading : σ → Prop) : Prop :=
  ∀ s, reading s → ∃ found t, store.getConfigMap ns name s = (.ok found, t) ∧ reading t

/-- In some of its states a store tells of the profiles of some references: no read of them fails
there, and none leads out of them. -/
def Store.Provides {σ : Type} (store : Store σ) (references : List EngineRuntime)
    (reading : σ → Prop) : Prop :=
  ∀ s, reading s → ∀ reference ∈ references,
    ∃ found t, store.getProfile reference.profileName s = (.ok found, t) ∧ reading t

theorem Store.Works.finds {σ : Type} {store : Store σ} {working : σ → Prop}
    (h : store.Works working) (ns name : String) : store.Finds ns name working :=
  fun _ hs => h.found hs ns name

/-! ## The store in memory -/

namespace Memory

/-- What the store in memory keeps. -/
def contents (memory : Memory) : Contents where
  configMap? := memory.configMap?
  profile? := memory.profile?

theorem contents_putConfigMap (memory : Memory) (configMap : ConfigMap) :
    (memory.putConfigMap configMap).contents = memory.contents.put configMap := by
  have hfound : (memory.putConfigMap configMap).configMap? = fun ns name =>
      if configMap.key = (ns, name) then some configMap else memory.configMap? ns name := by
    funext ns name
    exact configMap?_putConfigMap memory configMap ns name
  rw [contents, hfound]
  rfl

theorem keeps : store.Keeps contents where
  found_eq {ns name s found t} h := by
    cases hg : s.getFailure with
    | none =>
      rw [getConfigMap_of_reads hg] at h
      cases h
      rfl
    | some failure =>
      rw [getConfigMap_of_failure hg] at h
      cases h
  contents_read h := by
    cases h
    rfl
  contents_applied {configMap s t} h := by
    cases ha : s.applyFailure with
    | none =>
      rw [applyConfigMap_of_writes ha] at h
      cases h
      exact contents_putConfigMap s configMap
    | some failure =>
      rw [applyConfigMap_of_failure ha] at h
      cases h
  contents_refused {configMap s cause t} h := by
    cases ha : s.applyFailure with
    | none =>
      rw [applyConfigMap_of_writes ha] at h
      cases h
    | some failure =>
      rw [applyConfigMap_of_failure ha] at h
      cases h
      rfl
  profile_eq {name s found t} h := by
    cases hp : s.profileFailure with
    | none =>
      simp only [store, hp] at h
      cases h
      rfl
    | some failure =>
      simp only [store, hp] at h
      cases h
  contents_profile h := by
    cases h
    rfl

/-- As long as no failure is set, the store in memory works. -/
theorem works_store : store.Works Works where
  found h ns name := ⟨_, _, getConfigMap_of_reads h.getFailure_eq ns name, h⟩
  applied h configMap :=
    ⟨_, applyConfigMap_of_writes h.applyFailure_eq configMap, works_putConfigMap h configMap⟩

/-- Reads do not change the store in memory. -/
theorem finds {memory : Memory} (h : memory.getFailure = none) (ns name : String) :
    store.Finds ns name (· = memory) := by
  rintro s rfl
  exact ⟨_, _, getConfigMap_of_reads h ns name, rfl⟩

theorem provides {memory : Memory} (h : memory.profileFailure = none)
    (references : List EngineRuntime) : store.Provides references (· = memory) := by
  rintro s rfl reference -
  refine ⟨s.profile? reference.profileName, s, ?_, rfl⟩
  simp only [store, h]

end Memory

/-! ## Single failures -/

/-- A store in memory whose calls fail by a plan: each call takes the next entry and fails with it
if it is a failure. After the plan no more calls are made to fail. -/
structure Faulty where
  memory : Memory
  plan : List (Option ClientError) := []

namespace Faulty

/-- A call by plan. -/
def call {α : Type} (answer : Memory → Except ClientError α × Memory) (faulty : Faulty) :
    Except ClientError α × Faulty :=
  match faulty.plan with
  | some failure :: plan => (.error failure, { faulty with plan })
  | plan => ((answer faulty.memory).1, ⟨(answer faulty.memory).2, plan.tail⟩)

/-- How the store answers. -/
def store : Store Faulty where
  getConfigMap ns name := call (Memory.store.getConfigMap ns name)
  applyConfigMap configMap := call (Memory.store.applyConfigMap configMap)
  getProfile name := call (Memory.store.getProfile name)

/-- What the store keeps. -/
def contents (faulty : Faulty) : Contents :=
  faulty.memory.contents

/-- A call fails by plan and does nothing, or it is a call of the store in memory. -/
theorem call_cases {α : Type} {answer : Memory → Except ClientError α × Memory}
    {faulty after : Faulty} {result : Except ClientError α}
    (h : call answer faulty = (result, after)) :
    (∃ failure, result = .error failure ∧ after.memory = faulty.memory) ∨
      answer faulty.memory = (result, after.memory) := by
  unfold call at h
  split at h
  · next failure plan _ =>
    cases h
    exact .inl ⟨failure, rfl, rfl⟩
  · cases h
    exact .inr rfl

theorem keeps : store.Keeps contents where
  found_eq h := by
    obtain ⟨_, hfailed, -⟩ | hcall := call_cases h
    · cases hfailed
    · exact Memory.keeps.found_eq hcall
  contents_read h := by
    obtain ⟨_, -, hsame⟩ | hcall := call_cases h
    · exact congrArg Memory.contents hsame
    · exact Memory.keeps.contents_read hcall
  contents_applied h := by
    obtain ⟨_, hfailed, -⟩ | hcall := call_cases h
    · cases hfailed
    · exact Memory.keeps.contents_applied hcall
  contents_refused h := by
    obtain ⟨_, -, hsame⟩ | hcall := call_cases h
    · exact congrArg Memory.contents hsame
    · exact Memory.keeps.contents_refused hcall
  profile_eq h := by
    obtain ⟨_, hfailed, -⟩ | hcall := call_cases h
    · cases hfailed
    · exact Memory.keeps.profile_eq hcall
  contents_profile h := by
    obtain ⟨_, -, hsame⟩ | hcall := call_cases h
    · exact congrArg Memory.contents hsame
    · exact Memory.keeps.contents_profile hcall

end Faulty

end RoleDiscovery
