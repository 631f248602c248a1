import RoleDiscovery.Comparison.Resource
import RoleDiscovery.Proofs.Comparison.Record
import RoleDiscovery.Proofs.Resource.Codec
import RoleDiscovery.Proofs.Sorting
import RoleDiscovery.Proofs.Text.Split

/-!
# What counts in a ConfigMap

A ConfigMap has a normal form: without what the server and the platform keep in its metadata, with
its owner references sorted, and with an empty collection for each one that is not set. Two
ConfigMaps are compared by their normal forms. Values in general are not compared by any: null is
the same as an object without fields, and that is the same as one whose only field is null, but
null is not the same as the latter.

Results:

* `isPlatformKey_iff`: the annotations of the platform, by the texts of their keys.
* `ConfigMap.normalForm`, `ConfigMap.isEqual_compare_iff`: the normal form, and that it decides.
* `ConfigMap.compared_by_normal_form`: what agrees in normal form, and that this is an equivalence.
-/

namespace RoleDiscovery

open Codec Codec.Entry

/-! ## Annotations -/

/-- Whether a domain is another one or lies below it. -/
theorem isUnder_iff {owner domain : String} :
    (owner.toList = domain.toList || ('.' :: domain.toList).isSuffixOf owner.toList) = true ↔
      owner = domain ∨ ∃ sub, owner = sub ++ "." ++ domain := by
  rw [Bool.or_eq_true, decide_eq_true_eq, String.toList_inj, List.isSuffixOf_iff_suffix]
  apply or_congr_right
  constructor
  · rintro ⟨sub, hsub⟩
    refine ⟨String.ofList sub, ?_⟩
    rw [← String.toList_inj, ← hsub]
    simp
  · rintro ⟨sub, rfl⟩
    exact ⟨sub.toList, by simp⟩

/-- How a key splits at its first slash. -/
theorem span_slash_eq_iff {key : String} (owner rest : String) :
    key.toList.span (· ≠ '/') = (owner.toList, '/' :: rest.toList) ↔
      key = owner ++ "/" ++ rest ∧ '/' ∉ owner.toList := by
  rw [Text.span_eq_iff, ← String.toList_inj]
  simp only [decide_not, Bool.not_eq_true', decide_eq_false_iff_not, decide_true, Bool.not_true,
    and_true, String.toList_append, List.append_assoc]
  exact and_congr_right fun _ => ⟨fun h hm => h _ hm rfl, fun h c hc heq => h (heq ▸ hc)⟩

/-- An annotation belongs to the platform if what stands before the first slash of its key is one of
the domains or lies below one of them. -/
theorem isPlatformKey_iff {key : String} :
    isPlatformKey key = true ↔ ∃ owner rest, key = owner ++ "/" ++ rest ∧ '/' ∉ owner.toList ∧
      ∃ domain ∈ platformDomains, owner = domain ∨ ∃ sub, owner = sub ++ "." ++ domain := by
  rw [isPlatformKey]
  split
  · next hspan =>
    refine iff_of_false Bool.false_ne_true ?_
    rintro ⟨owner, rest, heq, hslash, -⟩
    rw [(span_slash_eq_iff owner rest).2 ⟨heq, hslash⟩] at hspan
    cases hspan
  · next owner c rest hspan =>
    obtain rfl : c = '/' := by simpa using (Text.span_eq_iff.1 hspan).2.2
    rw [List.any_eq_true]
    constructor
    · rintro ⟨domain, hdomain, hunder⟩
      obtain ⟨heq, hslash⟩ := (span_slash_eq_iff (.ofList owner) (.ofList rest)).1
        (by simpa using hspan)
      refine ⟨_, _, heq, hslash, domain, hdomain, isUnder_iff.1 ?_⟩
      simpa using hunder
    · rintro ⟨owner', rest', heq, hslash, domain, hdomain, hunder⟩
      have hother := (span_slash_eq_iff owner' rest').2 ⟨heq, hslash⟩
      obtain rfl : owner = owner'.toList := (Prod.mk.inj (hspan.symm.trans hother)).1
      exact ⟨domain, hdomain, isUnder_iff.2 hunder⟩

/-! ## ConfigMaps -/

instance exact_timestamp : timestamp.Exact :=
  exact_spelled Timestamp.print_inj

instance atomic_timestamp : timestamp.Atomic :=
  atomic_spelled _ _

instance OwnerReference.exact_codec : OwnerReference.codec.Exact :=
  exact_lenient inferInstance (by decide)

namespace ObjectMeta

/-- Metadata with an empty collection for each one that is not set, and without the notes on managed
fields. -/
def filledIn (metadata : ObjectMeta) : ObjectMeta :=
  { metadata with
    annotations := some (metadata.annotations.getD .empty)
    finalizers := some (metadata.finalizers.getD [])
    labels := some (metadata.labels.getD .empty)
    managedFields := none
    ownerReferences := some (metadata.ownerReferences.getD []) }

/-- The notes on managed fields as a value. -/
def notesValue (metadata : ObjectMeta) : Json :=
  (metadata.managedFields.map (list ManagedFields.codec).encode).getD .null

instance compares_codec : codec.Compares fun a b =>
    a.filledIn = b.filledIn ∧ a.notesValue.differences b.notesValue = [] where
  eq_nil_iff := by
    intro path a b
    refine (compares_lenient inferInstance (by decide)).eq_nil_iff.trans ?_
    simp only [filledIn, notesValue, mk.injEq, Option.some.injEq, and_assoc]
    tauto

end ObjectMeta

namespace ConfigMap

/-- The normal form of a ConfigMap. -/
def normalForm (configMap : ConfigMap) : ConfigMap where
  metadata := ObjectMeta.filledIn
    { configMap.metadata with
      annotations := configMap.metadata.annotations.map withoutPlatformAnnotations
      creationTimestamp := none
      generation := none
      ownerReferences := some ((configMap.metadata.ownerReferences.getD []).mergeSort
        fun a b => a.uid ≤ b.uid)
      resourceVersion := none
      selfLink := none
      uid := none }
  data := some (configMap.data.getD .empty)
  binaryData := some (configMap.binaryData.getD .empty)
  immutable := configMap.immutable

/-- What the server notes on managed fields does not count. -/
theorem notes_withoutServerFields (a b : ConfigMap) :
    a.withoutServerFields.withoutOwners.metadata.notesValue.differences
      b.withoutServerFields.withoutOwners.metadata.notesValue = [] :=
  Json.differencesAt_self [] .null

/-- Two ConfigMaps have the same normal form if they have the same owners, in whatever order those
of different uids stand, and the same of everything else that the server does not keep. -/
theorem normalForm_eq_iff {a b : ConfigMap} : a.normalForm = b.normalForm ↔
    a.sortedOwners = b.sortedOwners ∧
      a.withoutServerFields.withoutOwners.metadata.filledIn =
        b.withoutServerFields.withoutOwners.metadata.filledIn ∧
      a.data.getD .empty = b.data.getD .empty ∧
      a.binaryData.getD .empty = b.binaryData.getD .empty ∧ a.immutable = b.immutable := by
  simp only [normalForm, ObjectMeta.filledIn, withoutServerFields, withoutOwners, sortedOwners,
    mk.injEq, ObjectMeta.mk.injEq, Option.some.injEq, Option.getD_some]
  tauto

instance compares_entry : entry.Compares fun a b =>
    (((a.metadata.filledIn = b.metadata.filledIn ∧
      a.metadata.notesValue.differences b.metadata.notesValue = []) ∧
        a.data.getD .empty = b.data.getD .empty) ∧
      a.binaryData.getD .empty = b.binaryData.getD .empty) ∧ a.immutable = b.immutable := by
  unfold entry
  infer_instance

/-- Version and kind are the same for all ConfigMaps. -/
theorem differencesAt_codec {path : Path} {a b : ConfigMap} :
    Json.differencesAt path (codec.encode a) (codec.encode b) = [] ↔
      a.metadata.filledIn = b.metadata.filledIn ∧
        a.metadata.notesValue.differences b.metadata.notesValue = [] ∧
        a.data.getD .empty = b.data.getD .empty ∧
        a.binaryData.getD .empty = b.binaryData.getD .empty ∧ a.immutable = b.immutable := by
  rw [← and_assoc, ← and_assoc, ← and_assoc]
  exact compares_entry.differencesAt_record
    [("apiVersion", .text "v1"), ("kind", .text "ConfigMap")] (by decide)

theorem ownersValue_eq_nil_iff {path : Path} {a b : ConfigMap} :
    Json.differencesAt path a.ownersValue b.ownersValue = [] ↔ a.sortedOwners = b.sortedOwners :=
  exact_list.differencesAt_eq_nil

/-- Two ConfigMaps that may be absent compare as equal if they have the same normal form. -/
theorem isEqual_compare_iff {a b : Option ConfigMap} :
    (compare a b).isEqual = true ↔ a.map normalForm = b.map normalForm := by
  apply Comparison.isEqual_ofOptions
  intro a b
  rw [List.append_eq_nil_iff, ownersValue_eq_nil_iff, Json.differences, differencesAt_codec,
    normalForm_eq_iff]
  simp only [notes_withoutServerFields, true_and]
  rfl

/-- Two ConfigMaps have the same owners in normal form if they have the same ones, those of one uid
in the same order. -/
theorem owners_normalForm_eq_iff {a b : ConfigMap} :
    a.normalForm.metadata.ownerReferences = b.normalForm.metadata.ownerReferences ↔
      (a.metadata.ownerReferences.getD []).Perm (b.metadata.ownerReferences.getD []) ∧
        ∀ uid, (a.metadata.ownerReferences.getD []).filter (fun owner => owner.uid = uid) =
          (b.metadata.ownerReferences.getD []).filter fun owner => owner.uid = uid := by
  show some a.sortedOwners = some b.sortedOwners ↔ _
  rw [Option.some.injEq]
  exact ⟨fun h => ⟨perm_of_mergeSort_eq h, mergeSort_eq_iff.1 h⟩, fun h => mergeSort_eq_iff.2 h.2⟩

/-- Two ConfigMaps that may be absent compare as equal if both are absent, or if both are present
and have the same normal form. In a normal form just the annotations of the platform are missing,
and of the order of the owners only that of owners with the same uid is left. So the comparison is
an equivalence. -/
theorem compared_by_normal_form :
    (∀ a b : Option ConfigMap, (compare a b).isEqual = true ↔ (a = none ∧ b = none) ∨
      ∃ x y, a = some x ∧ b = some y ∧ x.normalForm = y.normalForm) ∧
    (∀ (annotations : SortedMap String) (key value : String),
      (key, value) ∈ (withoutPlatformAnnotations annotations).entries ↔
        (key, value) ∈ annotations.entries ∧
          ¬∃ owner rest, key = owner ++ "/" ++ rest ∧ '/' ∉ owner.toList ∧
            ∃ domain ∈ ["kubernetes.io", "k8s.io"],
              owner = domain ∨ ∃ sub, owner = sub ++ "." ++ domain) ∧
    (∀ a b : ConfigMap,
      a.normalForm.metadata.ownerReferences = b.normalForm.metadata.ownerReferences ↔
        (a.metadata.ownerReferences.getD []).Perm (b.metadata.ownerReferences.getD []) ∧
          ∀ uid, (a.metadata.ownerReferences.getD []).filter (fun owner => owner.uid = uid) =
            (b.metadata.ownerReferences.getD []).filter fun owner => owner.uid = uid) ∧
    Equivalence fun a b : Option ConfigMap => (compare a b).isEqual = true := by
  refine ⟨?_, ?_, fun _ _ => owners_normalForm_eq_iff, ?_⟩
  · intro a b
    rw [isEqual_compare_iff]
    cases a <;> cases b <;> simp
  · intro annotations key value
    rw [withoutPlatformAnnotations, SortedMap.filter, List.mem_filter, Bool.not_eq_true',
      ← Bool.not_eq_true, isPlatformKey_iff]
    rfl
  · simp only [isEqual_compare_iff]
    exact ⟨fun _ => rfl, Eq.symm, Eq.trans⟩

end ConfigMap

end RoleDiscovery
