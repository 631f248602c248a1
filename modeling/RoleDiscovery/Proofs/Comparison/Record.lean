import RoleDiscovery.Proofs.Comparison.Codec

/-!
# Records with optional collections

A collection that is not set counts as an empty one when values are compared, so a record with such
a field is not compared exactly. It is compared by a relation of records that is put together from
those of its fields.

Results:

* `Codec.Compares`, `Codec.Entry.Compares`: a codec, or an entry, is compared by a relation.
* `Codec.Entry.compares_optional`: an atom may be left out, which then counts.
* `Codec.Entry.compares_collection`: a collection may be left out, which is to be empty.
* `Codec.Entry.compares_other`: what else may be left out is to be no different from null.
* `Codec.Entry.Compares.differencesAt_record`: records are compared by their fields.
-/

namespace RoleDiscovery.Codec

open Json

variable {α β σ : Type}

/-- Two values do not differ if they are alike. -/
class Compares (codec : Codec α) (alike : outParam (α → α → Prop)) : Prop where
  eq_nil_iff : ∀ {path a b}, differencesAt path (codec.encode a) (codec.encode b) = [] ↔ alike a b

/-- A collection is written as an empty value if it is empty. -/
class Collection (codec : Codec α) (empty : outParam α) : Prop where
  isEmpty_encode : ∀ a, (codec.encode a).isEmpty = true ↔ a = empty

instance collection_list (item : Codec α) : (list item).Collection [] where
  isEmpty_encode values := by
    show (values.map item.encode).isEmpty = true ↔ _
    rw [List.isEmpty_iff, List.map_eq_nil_iff]

instance collection_map (item : Codec α) : (map item).Collection .empty where
  isEmpty_encode entries := by
    show (entries.entries.map fun (key, value) => (key, item.encode value)).isEmpty = true ↔ _
    rw [List.isEmpty_iff, List.map_eq_nil_iff]
    exact ⟨fun h => SortedMap.ext h, fun h => by rw [h]; rfl⟩

/-! ## Entries -/

namespace Entry

/-- Two records do not differ in the fields of the entry if they are alike, provided that the fields
differ in their names. -/
class Compares (entry : Entry σ α) (alike : outParam (σ → σ → Prop)) : Prop
    extends Named entry where
  eq_nil_iff : entry.names.Nodup → ∀ (path : Path) {s t},
    (∀ name ∈ entry.names, differencesAt (path ++ [.field name])
      (fieldOrNull (entry.write s) name) (fieldOrNull (entry.write t) name) = []) ↔ alike s t

instance compares_pure (a : α) : (pure a : Entry σ α).Compares fun _ _ => True where
  eq_nil_iff _ _ _ _ := iff_of_true (fun _ hm => absurd hm List.not_mem_nil) trivial

instance compares_seq {f : Entry σ (α → β)} {x : Entry σ α} {alike alike' : σ → σ → Prop}
    [hf : f.Compares alike] [hx : x.Compares alike'] :
    (f <*> x).Compares fun s t => alike s t ∧ alike' s t where
  eq_nil_iff hn path s t := by
    obtain ⟨hnf, hnx, -⟩ := List.nodup_append.1 (names_seq f x ▸ hn)
    rw [← hf.eq_nil_iff hnf path, ← hx.eq_nil_iff hnx path, names_seq, List.forall_mem_append]
    refine and_congr (forall₂_congr fun name hm => ?_) (forall₂_congr fun name hm => ?_)
    · rw [fieldOrNull_seq_left hn hm, fieldOrNull_seq_left hn hm]
    · rw [fieldOrNull_seq_right hn hm, fieldOrNull_seq_right hn hm]

instance compares_map {x : Entry σ α} {alike : σ → σ → Prop} (f : α → β) [x.Compares alike] :
    (f <$> x).Compares alike where
  toNamed := named_map f
  eq_nil_iff hn path _ _ :=
    ((compares_seq (f := pure f)).eq_nil_iff hn path).trans (iff_of_eq (true_and _))

variable {item : Codec α}

/-- A field that is always written. -/
instance compares_filled (name : String) {alike : α → α → Prop} [h : item.Compares alike]
    (default : α) (get : σ → α) :
    (filled name item default get).Compares fun s t => alike (get s) (get t) where
  eq_nil_iff _ path s t := by
    show (∀ other ∈ [name], _) ↔ _
    rw [List.forall_mem_singleton, filled, fieldOrNull_singleton, fieldOrNull_singleton,
      h.eq_nil_iff]

/-- An atom that is left out differs from all atoms. -/
instance compares_optional (name : String) [item.Exact] [item.Atomic]
    (get : σ → Option α) : (optional name item get).Compares fun s t => get s = get t where
  eq_nil_iff hn path s t := by
    constructor
    · intro h
      exact (exact_optional name get).eq_of_rel hn discerning_differences s t
        fun other hm => differencesAt_eq_nil_iff.1 (h other hm)
    · intro h other _
      have hwrite : (optional name item get).write s = (optional name item get).write t := by
        show (get s).toList.map _ = (get t).toList.map _
        rw [h]
      rw [hwrite]
      exact differencesAt_self _ _

/-- A collection that is left out is the same as an empty one. -/
instance compares_collection (name : String) {empty : α} [h : item.Exact]
    [hempty : item.Collection empty] (get : σ → Option α) :
    (optional name item get).Compares fun s t => (get s).getD empty = (get t).getD empty where
  eq_nil_iff _ path s t := by
    show (∀ other ∈ [name], _) ↔ _
    rw [List.forall_mem_singleton, fieldOrNull_optional, fieldOrNull_optional]
    cases get s with
    | none =>
      cases get t with
      | none => exact iff_of_true (differencesAt_self _ _) rfl
      | some b =>
        show differencesAt _ .null (item.encode b) = [] ↔ empty = b
        rw [differencesAt_null_left, hempty.isEmpty_encode, eq_comm]
    | some a =>
      cases get t with
      | none =>
        show differencesAt _ (item.encode a) .null = [] ↔ a = empty
        rw [differencesAt_null_right, hempty.isEmpty_encode]
      | some b => exact h.differencesAt_eq_nil

/-- Whatever may be left out of a field, null stands for it. -/
instance (priority := low) compares_other (name : String) (get : σ → Option α) :
    (optional name item get).Compares fun s t =>
      (((get s).map item.encode).getD .null).differences (((get t).map item.encode).getD .null) =
        [] where
  eq_nil_iff _ path s t := by
    show (∀ other ∈ [name], _) ↔ _
    rw [List.forall_mem_singleton, fieldOrNull_optional, fieldOrNull_optional]
    exact differencesAt_eq_nil_iff

/-- Two records do not differ if they are alike in the fields of their entry. Fields that are the
same in all records may stand in front of them. -/
theorem Compares.differencesAt_record {entry : Entry σ α} {alike : σ → σ → Prop}
    (h : entry.Compares alike) (before : List (String × Json))
    (hn : (before.map Prod.fst ++ entry.names).Nodup) {path : Path} {s t : σ} :
    differencesAt path (.object (before ++ entry.write s)) (.object (before ++ entry.write t)) =
      [] ↔ alike s t := by
  obtain ⟨-, hnames, hdisjoint⟩ := List.nodup_append.1 hn
  have hkeys : ∀ u : σ, ∀ name ∉ entry.names, name ∉ (entry.write u).map Prod.fst := by
    intro u name hname hm
    obtain ⟨field, hfield, rfl⟩ := List.mem_map.1 hm
    exact hname (h.toNamed.mem_names hfield)
  rw [differencesAt_object, ← h.eq_nil_iff hnames path]
  constructor
  · intro hd name hm
    have hbefore : name ∉ before.map Prod.fst := fun hb => hdisjoint name hb name hm rfl
    have hfield := hd name
    rwa [fieldOrNull_append_right hbefore, fieldOrNull_append_right hbefore] at hfield
  · intro hd name
    by_cases hm : name ∈ entry.names
    · have hbefore : name ∉ before.map Prod.fst := fun hb => hdisjoint name hb name hm rfl
      rw [fieldOrNull_append_right hbefore, fieldOrNull_append_right hbefore]
      exact hd name hm
    · rw [fieldOrNull_append_left (hkeys s name hm), fieldOrNull_append_left (hkeys t name hm)]
      exact differencesAt_self _ _

end Entry

/-! ## Records -/

theorem compares_lenient {entry : Entry α α} {alike : α → α → Prop} (h : entry.Compares alike)
    (hn : entry.names.Nodup) : (lenient entry).Compares alike where
  eq_nil_iff := h.differencesAt_record [] hn

end RoleDiscovery.Codec
