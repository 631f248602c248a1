import RoleDiscovery.Proofs.Action
import RoleDiscovery.Proofs.Keyed
import RoleDiscovery.Store.Memory

/-!
# The store in memory

Results:

* `Memory.Works`: no step on ConfigMaps fails.
* `Memory.configMap?_putConfigMap`: what is kept under a key after a ConfigMap was written.
-/

namespace RoleDiscovery.Memory

variable {memory : Memory}

/-- Reading and writing ConfigMaps does not fail. -/
structure Works (memory : Memory) : Prop where
  getFailure_eq : memory.getFailure = none
  applyFailure_eq : memory.applyFailure = none

theorem getConfigMap_of_reads (h : memory.getFailure = none) (ns name : String) :
    store.getConfigMap ns name memory = (.ok (memory.configMap? ns name), memory) := by
  unfold store
  dsimp only
  rw [h]

theorem getConfigMap_of_failure {failure : ClientError} (h : memory.getFailure = some failure)
    (ns name : String) : store.getConfigMap ns name memory = (.error failure, memory) := by
  unfold store
  dsimp only
  rw [h]

theorem applyConfigMap_of_writes (h : memory.applyFailure = none) (configMap : ConfigMap) :
    store.applyConfigMap configMap memory = (.ok (), memory.putConfigMap configMap) := by
  unfold store
  dsimp only
  rw [h]

theorem applyConfigMap_of_failure {failure : ClientError} (h : memory.applyFailure = some failure)
    (configMap : ConfigMap) : store.applyConfigMap configMap memory = (.error failure, memory) := by
  unfold store
  dsimp only
  rw [h]

theorem works_putConfigMap (h : memory.Works) (configMap : ConfigMap) :
    (memory.putConfigMap configMap).Works :=
  ⟨h.getFailure_eq, h.applyFailure_eq⟩

/-- A ConfigMap is kept under its key and leaves the other keys alone. -/
theorem configMap?_putConfigMap (memory : Memory) (configMap : ConfigMap) (ns name : String) :
    (memory.putConfigMap configMap).configMap? ns name =
      if configMap.key = (ns, name) then some configMap else memory.configMap? ns name :=
  Keyed.find?_put memory.configMaps configMap (ns, name)

end RoleDiscovery.Memory
