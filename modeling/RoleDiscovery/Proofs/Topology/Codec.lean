import RoleDiscovery.Comparison.Resource
import RoleDiscovery.Proofs.Comparison.Codec
import RoleDiscovery.Proofs.Json.Codec
import RoleDiscovery.Proofs.Yaml.Codec

/-!
# The codecs of topologies

Topologies are read back from what they are written as, be it a value or a document, and are
compared exactly.

Results:

* `GroupInfo.exact_codec`, `RoleInfo.exact_codec`, `ClusterConfig.exact_codec`: comparison is exact.
* `ClusterConfig.documented_codec`: topologies can be written as documents.
* `ClusterConfig.isEqual_compare_iff`: two topologies compare as equal only if they are.
-/

namespace RoleDiscovery

open Codec Codec.Entry Yaml

/-! ## Kinds -/

namespace WorkloadKind

instance lawful_codec : codec.Lawful where
  decode_encode kind := by cases kind <;> rfl
  encode_ne_null kind := by simp [codec]

instance legible_codec : codec.Legible where
  kept _ _ _ := by simp [Codec.Kept, codec, Json.Kept]

instance atomic_codec : codec.Atomic where
  isAtom_encode _ := rfl

instance exact_codec : codec.Exact :=
  exact_of_injective lawful_codec.encode_inj

theorem documented_codec : codec.Documented where
  writable _ := rfl
  isSet kind := isSet_text kind.tag
  reads kind := reads_choice kind.tag

end WorkloadKind

/-! ## Groups -/

namespace GroupInfo

instance lawful_codec : codec.Lawful :=
  lawful_strict inferInstance (by decide)

instance legible_codec : codec.Legible :=
  legible_strict inferInstance (by decide)

instance exact_codec : codec.Exact :=
  exact_strict inferInstance (by decide)

theorem documented_codec : codec.Documented :=
  documented_strict
    (documented_seq (documented_seq (documented_map GroupInfo.mk
      (documented_required (by decide) documented_text GroupInfo.name))
      (documented_required (by decide) documented_text GroupInfo.ns))
      (documented_defaulted (by decide) (documented_list documented_text) [] GroupInfo.roleNames))
    (by decide)

end GroupInfo

/-! ## Roles -/

namespace RoleInfo

instance lawful_codec : codec.Lawful :=
  lawful_strict inferInstance (by decide)

instance legible_codec : codec.Legible :=
  legible_strict inferInstance (by decide)

instance exact_codec : codec.Exact :=
  exact_strict inferInstance (by decide)

theorem documented_codec : codec.Documented :=
  documented_strict
    (documented_seq (documented_seq (documented_seq (documented_seq (documented_seq (documented_seq
      (documented_map RoleInfo.mk
      (documented_required (by decide) documented_text RoleInfo.name))
      (documented_required (by decide) WorkloadKind.documented_codec RoleInfo.kind))
      (documented_optional (by decide) documented_text RoleInfo.service))
      (documented_optional (by decide) documented_text RoleInfo.serviceTemplate))
      (documented_required (by decide) documented_int32 RoleInfo.replicas))
      (documented_optional (by decide) documented_int32 RoleInfo.lwsWorkers))
      (documented_required (by decide) documented_int32 RoleInfo.startIndex))
    (by decide)

end RoleInfo

/-! ## Topologies -/

namespace ClusterConfig

instance lawful_codec : codec.Lawful :=
  lawful_strict inferInstance (by decide)

instance legible_codec : codec.Legible :=
  legible_strict inferInstance (by decide)

instance exact_codec : codec.Exact :=
  exact_strict inferInstance (by decide)

theorem documented_codec : codec.Documented :=
  documented_strict
    (documented_seq (documented_map ClusterConfig.mk
      (documented_required (by decide) GroupInfo.documented_codec group))
      (documented_defaulted (by decide) (documented_list RoleInfo.documented_codec) [] roles))
    (by decide)

/-- Two topologies that may be absent compare as equal only if they are. -/
theorem isEqual_compare_iff {old new : Option ClusterConfig} :
    (compare old new).isEqual = true ↔ old = new := by
  have hform : ∀ a b : ClusterConfig,
      (codec.encode a).differences (codec.encode b) = [] ↔ id a = id b :=
    fun _ _ => exact_codec.differencesAt_eq_nil
  rw [compare, Comparison.isEqual_ofOptions hform, Option.map_id]
  rfl

end ClusterConfig

end RoleDiscovery
