import RoleDiscovery.Proofs.Comparison.Report
import RoleDiscovery.Proofs.Topology.Codec

/-!
# What a report tells of a topology

The comparison of two topologies finds a difference if there is one, and what it reports of a new
topology is enough to know that topology, given the old one: the roles that are gone or new, the
fields that are unset now and were not, and the values of all others that have changed.

Results:

* `GroupInfo.plain_codec`, `RoleInfo.plain_codec`, `ClusterConfig.plain_codec`: all names of fields
  consist of letters.
* `ClusterConfig.compared_without_loss`: comparison and report are exact.
-/

namespace RoleDiscovery

open Codec Codec.Entry

instance GroupInfo.plain_codec : GroupInfo.codec.Plain :=
  plain_strict inferInstance (by decide)

instance RoleInfo.plain_codec : RoleInfo.codec.Plain :=
  plain_strict inferInstance (by decide)

namespace ClusterConfig

instance plain_codec : codec.Plain :=
  plain_strict inferInstance (by decide)

/-- Two topologies that may be absent compare as equal just if they are, and two topologies are
reported in the same way, next to the same old one, just if they are the same. -/
theorem compared_without_loss :
    (∀ old new : Option ClusterConfig, (compare old new).isEqual = true ↔ old = new) ∧
    ∀ old a b : ClusterConfig,
      (compare (some old) (some a)).report = (compare (some old) (some b)).report ↔ a = b := by
  refine ⟨fun _ _ => isEqual_compare_iff, fun old a b => ⟨fun h => ?_, ?_⟩⟩
  · exact exact_codec.eq_of_report h
  · rintro rfl
    rfl

end ClusterConfig

end RoleDiscovery
