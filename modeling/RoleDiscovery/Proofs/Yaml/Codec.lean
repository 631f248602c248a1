import RoleDiscovery.Proofs.Codec
import RoleDiscovery.Proofs.Yaml.Document

/-!
# Types whose documents read back

A codec is documented if what it writes can be written as a part of a document and is read from it
by the shape of the codec. Together with the laws of codecs this makes documents lossless.

Results:

* `Codec.Documented`, `Codec.Entry.Documented`: the property, of codecs and of entries.
* `Codec.documented_list`, `Codec.documented_strict`: documented collections.
* `Codec.ofYaml?_toYaml`: a record is read back from its document.
-/

namespace RoleDiscovery.Codec

open Yaml

variable {α β σ : Type}

/-- What is written for a value can be written in a document and is read from it by the shape. -/
structure Documented (codec : Codec α) : Prop where
  writable : ∀ a, Writable (codec.encode a)
  isSet : ∀ a, IsSet (codec.encode a)
  reads : ∀ a, Reads codec.shape (codec.encode a)

/-! ## Values -/

theorem documented_text : text.Documented where
  writable _ := rfl
  isSet := isSet_text
  reads := reads_text

theorem documented_int32 : int32.Documented where
  writable _ := rfl
  isSet n := isSet_int n.toInt
  reads n := reads_int n.toInt

theorem writableItems_of_forall {values : List Json} (h : ∀ value ∈ values, Writable value) :
    WritableItems values := by
  induction values with
  | nil => trivial
  | cons value values ih =>
    exact ⟨h value List.mem_cons_self, ih fun v hv => h v (List.mem_cons_of_mem _ hv)⟩

theorem documented_list {item : Codec α} (h : item.Documented) : (list item).Documented where
  writable values := by
    apply writableItems_of_forall
    intro value hm
    obtain ⟨a, -, rfl⟩ := List.mem_map.1 hm
    exact h.writable a
  isSet values := isSet_array _
  reads values := by
    apply reads_list
    intro value hm
    obtain ⟨a, -, rfl⟩ := List.mem_map.1 hm
    exact h.reads a

/-! ## Entries -/

namespace Entry

/-- What is written for a field can be written in a document and is read from it by the shape of the
field. -/
def Documented (entry : Entry σ α) : Prop :=
  ∀ s, ∀ field ∈ entry.write s, IsFieldName field.1 ∧ Writable field.2 ∧
    ∃ shape, (field.1, shape) ∈ entry.fields ∧ Reads shape field.2

theorem documented_pure (a : α) : (pure a : Entry σ α).Documented := by
  intro s field hm
  cases hm

theorem documented_seq {f : Entry σ (α → β)} {x : Entry σ α} (hf : f.Documented)
    (hx : x.Documented) : (f <*> x).Documented := by
  intro s field hm
  rcases List.mem_append.1 hm with hm | hm
  · obtain ⟨hname, hw, shape, hs, hr⟩ := hf s field hm
    exact ⟨hname, hw, shape, List.mem_append_left _ hs, hr⟩
  · obtain ⟨hname, hw, shape, hs, hr⟩ := hx s field hm
    exact ⟨hname, hw, shape, List.mem_append_right _ hs, hr⟩

theorem documented_map {x : Entry σ α} (f : α → β) (hx : x.Documented) :
    (f <$> x).Documented :=
  documented_seq (documented_pure f) hx

variable {name : String} {item : Codec α}

theorem documented_required (hn : IsFieldName name) (h : item.Documented) (get : σ → α) :
    (required name item get).Documented := by
  intro s field hm
  obtain rfl := List.mem_singleton.1 hm
  exact ⟨hn, h.writable _, item.shape, List.mem_singleton_self _, h.reads _⟩

theorem documented_defaulted (hn : IsFieldName name) (h : item.Documented) (default : α)
    (get : σ → α) : (defaulted name item default get).Documented := by
  intro s field hm
  obtain rfl := List.mem_singleton.1 hm
  exact ⟨hn, h.writable _, item.shape, List.mem_singleton_self _, h.reads _⟩

theorem documented_optional (hn : IsFieldName name) (h : item.Documented) (get : σ → Option α) :
    (optional name item get).Documented := by
  intro s field hm
  obtain ⟨a, -, rfl⟩ := List.mem_map.1 hm
  exact ⟨hn, h.writable _, .nullable item.shape, List.mem_singleton_self _,
    reads_nullable (h.isSet a) (h.reads a)⟩

end Entry

/-! ## Records -/

theorem writableFields_of_forall {entries : List (String × Json)}
    (h : ∀ entry ∈ entries, IsFieldName entry.1 ∧ Writable entry.2) : WritableFields entries := by
  induction entries with
  | nil => trivial
  | cons entry entries ih =>
    obtain ⟨hn, hw⟩ := h entry List.mem_cons_self
    exact ⟨hn, hw, ih fun e he => h e (List.mem_cons_of_mem _ he)⟩

variable {entry : Entry α α}

theorem documented_strict (h : entry.Documented) (hn : entry.names.Nodup) :
    (strict entry).Documented where
  writable a := writableFields_of_forall fun field hm => ⟨(h a field hm).1, (h a field hm).2.1⟩
  isSet _ := isSet_object _
  reads a := reads_record hn fun field hm => (h a field hm).2.2

/-- A record that has a field is read back from its document. -/
theorem ofYaml?_toYaml {a : α} (hl : (strict entry).Lawful) (hd : (strict entry).Documented)
    (hne : entry.write a ≠ []) : (strict entry).ofYaml? ((strict entry).toYaml a) = some a := by
  rw [ofYaml?, toYaml]
  show (parse? _ (print (.object (entry.write a)))).bind _ = _
  rw [parse?_print hne (hd.writable a) (hd.reads a), Option.bind_some]
  exact hl.decode_encode a

end RoleDiscovery.Codec
