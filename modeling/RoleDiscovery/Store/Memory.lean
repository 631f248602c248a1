import RoleDiscovery.Action
import RoleDiscovery.Keyed

/-!
# A store in memory

Keeps ConfigMaps by namespace and name, and profiles by name. Each kind of step can be made to fail.

Results:

* `Memory`: the store's contents and the steps that fail.
* `Memory.store`: how it answers.
-/

namespace RoleDiscovery

/-- A store in memory. A step for which an error is set fails with it and has no effect. -/
structure Memory where
  configMaps : List ConfigMap := []
  profiles : List RuntimeProfile := []
  getFailure : Option ClientError := none
  applyFailure : Option ClientError := none
  profileFailure : Option ClientError := none

namespace Memory

/-- The ConfigMap under a key. -/
def configMap? (memory : Memory) (ns name : String) : Option ConfigMap :=
  memory.configMaps.find? fun configMap => configMap.key = (ns, name)

/-- The profile of that name. -/
def profile? (memory : Memory) (name : String) : Option RuntimeProfile :=
  memory.profiles.find? fun profile => profile.name = name

/-- Keeps a ConfigMap, in place of the one under its key. -/
def putConfigMap (memory : Memory) (configMap : ConfigMap) : Memory :=
  { memory with configMaps := Keyed.put ConfigMap.key memory.configMaps configMap }

/-- Removes the ConfigMap under a key. -/
def eraseConfigMap (memory : Memory) (ns name : String) : Memory :=
  { memory with
    configMaps := memory.configMaps.filter fun configMap => configMap.key ≠ (ns, name) }

/-- Keeps a profile, in place of the one of its name. -/
def putProfile (memory : Memory) (profile : RuntimeProfile) : Memory :=
  { memory with profiles := Keyed.put RuntimeProfile.name memory.profiles profile }

/-- Removes the profile of that name. -/
def eraseProfile (memory : Memory) (name : String) : Memory :=
  { memory with profiles := memory.profiles.filter fun profile => profile.name ≠ name }

/-- A store filled with ConfigMaps and profiles in order. -/
def ofLists (configMaps : List ConfigMap) (profiles : List RuntimeProfile) : Memory :=
  profiles.foldl putProfile (configMaps.foldl putConfigMap {})

/-- How the store answers. -/
def store : Store Memory where
  getConfigMap ns name memory :=
    (match memory.getFailure with
      | some failure => .error failure
      | none => .ok (memory.configMap? ns name), memory)
  applyConfigMap configMap memory :=
    match memory.applyFailure with
    | some failure => (.error failure, memory)
    | none => (.ok (), memory.putConfigMap configMap)
  getProfile name memory :=
    (match memory.profileFailure with
      | some failure => .error failure
      | none => .ok (memory.profile? name), memory)

end Memory

end RoleDiscovery
