import RoleDiscovery.Proofs.Topology.Codec
import RoleDiscovery.Topology.Payload

/-!
# The payload keeps the topology

The document of a topology is read back as the topology, whatever its texts hold.

Results:

* `ClusterConfig.ofYaml?_toYaml`: the topology of a document that was written for it.
* `ClusterConfig.payload_lossless`: writing is undone by reading, and no two topologies share a
  document.
-/

namespace RoleDiscovery

namespace ClusterConfig

/-- A topology is read back from its document. -/
theorem ofYaml?_toYaml (config : ClusterConfig) : ofYaml? config.toYaml = some config :=
  Codec.ofYaml?_toYaml lawful_codec documented_codec (List.cons_ne_nil _ _)

/-- Different topologies have different documents. -/
theorem toYaml_inj {a b : ClusterConfig} : a.toYaml = b.toYaml ↔ a = b := by
  constructor
  · intro h
    have ha := ofYaml?_toYaml a
    rw [h, ofYaml?_toYaml] at ha
    exact (Option.some.inj ha).symm
  · rintro rfl
    rfl

/-- The empty text spells no topology. -/
theorem toYaml_ne_empty (config : ClusterConfig) : config.toYaml ≠ "" := by
  intro h
  have hread := ofYaml?_toYaml config
  rw [h] at hread
  exact absurd hread (by simp [show ofYaml? "" = none from rfl])

/-- Every topology is read back from its document, and no two topologies share one. In particular
two that differ in the service of one role, be it absent, empty or a text that could stand for null,
have different documents. -/
theorem payload_lossless :
    (∀ config : ClusterConfig, ofYaml? config.toYaml = some config) ∧
      (∀ a b : ClusterConfig, a.toYaml = b.toYaml ↔ a = b) ∧
      ∀ (group : GroupInfo) (before after : List RoleInfo) (role : RoleInfo)
        (service other : Option String),
        toYaml ⟨group, before ++ { role with service := service } :: after⟩ =
          toYaml ⟨group, before ++ { role with service := other } :: after⟩ ↔ service = other := by
  refine ⟨ofYaml?_toYaml, fun a b => toYaml_inj, ?_⟩
  intro group before after role service other
  constructor
  · intro h
    have hroles := List.append_cancel_left (ClusterConfig.mk.inj (toYaml_inj.1 h)).2
    exact congrArg RoleInfo.service (List.cons.inj hroles).1
  · rintro rfl
    rfl

end ClusterConfig

end RoleDiscovery
