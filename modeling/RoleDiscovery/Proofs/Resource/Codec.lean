import RoleDiscovery.Proofs.Codec
import RoleDiscovery.Proofs.Timestamp
import RoleDiscovery.Resource.Pod

/-!
# The codecs of Kubernetes types

Environment variables are read back from what they are written as, with all their parts. So is
metadata, if it names no point in time before year zero, and if what the notes of the server tell
of fields is set and in canonical form.

Results:

* `EnvVar.lawful_codec`: the codec of variables is lawful.
* `ObjectMeta.Restorable`, `ObjectMeta.readsBack_codec`: when metadata is read back.
-/

namespace RoleDiscovery

open Codec Codec.Entry

/-! ## Environment variables -/

instance Quantity.lawful_codec : Quantity.codec.Lawful where
  decode_encode _ := rfl
  encode_ne_null _ := by simp [Quantity.codec]

instance FieldReference.lawful_codec : FieldReference.codec.Lawful :=
  lawful_lenient inferInstance (by decide)

instance KeyReference.lawful_codec : KeyReference.codec.Lawful :=
  lawful_lenient inferInstance (by decide)

instance ResourceReference.lawful_codec : ResourceReference.codec.Lawful :=
  lawful_lenient inferInstance (by decide)

instance FileKeyReference.lawful_codec : FileKeyReference.codec.Lawful :=
  lawful_lenient inferInstance (by decide)

instance EnvSource.lawful_codec : EnvSource.codec.Lawful :=
  lawful_lenient inferInstance (by decide)

instance EnvVar.lawful_codec : EnvVar.codec.Lawful :=
  lawful_lenient inferInstance (by decide)

/-! ## Metadata -/

instance OwnerReference.lawful_codec : OwnerReference.codec.Lawful :=
  lawful_lenient inferInstance (by decide)

/-- A note on managed fields that is read back: its time does not lie before year zero, and what it
tells of fields is not null and in canonical form. -/
structure ManagedFields.Restorable (note : ManagedFields) : Prop where
  time : ∀ t, note.time = some t → 0 ≤ t.date.year
  fields : ∀ value, note.fields = some value → value.canonical = value ∧ value ≠ .null

theorem ManagedFields.readsBack_codec {note : ManagedFields} (h : note.Restorable) :
    ManagedFields.codec.ReadsBack note := by
  have hfields : ∀ value, note.fields = some value → any.ReadsBack value := fun value hv =>
    ⟨congrArg some (h.fields value hv).1, (h.fields value hv).2⟩
  have htime : ∀ t, note.time = some t → timestamp.ReadsBack t := fun t ht =>
    readsBack_spelled (Timestamp.parse?_print (h.time t ht))
  have hother {α : Type} {entry : Entry ManagedFields α} {get : ManagedFields → α}
      [entry.Lawful get] : entry.ReadsBack note (get note) :=
    Lawful.readsBack note
  refine readsBack_lenient ?_ (by decide)
  exact readsBack_map ManagedFields.mk hother |>.seq hother |>.seq (readsBack_optional _ hfields)
    |>.seq hother |>.seq hother |>.seq hother |>.seq (readsBack_optional _ htime)

namespace ObjectMeta

/-- Metadata that is read back: it names no point in time before year zero, and the notes on managed
fields are read back. -/
structure Restorable (metadata : ObjectMeta) : Prop where
  creation : ∀ t, metadata.creationTimestamp = some t → 0 ≤ t.date.year
  deletion : ∀ t, metadata.deletionTimestamp = some t → 0 ≤ t.date.year
  notes : ∀ notes, metadata.managedFields = some notes → ∀ note ∈ notes, note.Restorable

theorem readsBack_codec {metadata : ObjectMeta} (h : metadata.Restorable) :
    codec.ReadsBack metadata := by
  have hcreation : ∀ t, metadata.creationTimestamp = some t → timestamp.ReadsBack t := fun t ht =>
    readsBack_spelled (Timestamp.parse?_print (h.creation t ht))
  have hdeletion : ∀ t, metadata.deletionTimestamp = some t → timestamp.ReadsBack t := fun t ht =>
    readsBack_spelled (Timestamp.parse?_print (h.deletion t ht))
  have hnotes : ∀ notes, metadata.managedFields = some notes →
      (list ManagedFields.codec).ReadsBack notes := fun notes hn =>
    readsBack_list fun note hm =>
      (ManagedFields.readsBack_codec (h.notes notes hn note hm)).decode_encode
  have hother {α : Type} {entry : Entry ObjectMeta α} {get : ObjectMeta → α}
      [entry.Lawful get] : entry.ReadsBack metadata (get metadata) :=
    Lawful.readsBack metadata
  refine readsBack_lenient ?_ (by decide)
  exact readsBack_map ObjectMeta.mk hother |>.seq (readsBack_optional _ hcreation)
    |>.seq hother |>.seq (readsBack_optional _ hdeletion)
    |>.seq hother |>.seq hother |>.seq hother |>.seq hother
    |>.seq (readsBack_optional _ hnotes)
    |>.seq hother |>.seq hother |>.seq hother |>.seq hother |>.seq hother |>.seq hother

end ObjectMeta

end RoleDiscovery
