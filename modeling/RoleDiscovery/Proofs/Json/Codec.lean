import RoleDiscovery.Json.Document
import RoleDiscovery.Proofs.Codec
import RoleDiscovery.Proofs.Json.Canonical

/-!
# Texts of a type read back

What a codec writes has the shape that it states, so nothing of it gets lost when its text is read,
unless it nests too deep. Like being read back, this is said of single values, and of all values of
codecs that are put together from such codecs.

Results:

* `Shape.height`: the number of levels that a value of a shape may have.
* `Codec.Kept`, `Codec.Entry.Kept`: what is written for a value has the shape of the codec.
* `Codec.kept_list`, `Codec.Entry.kept_required`, `Codec.kept_strict` and their companions: what is
  kept of the parts is kept of the whole.
* `Codec.Legible`, `Codec.Entry.Legible`: this holds of all values, if as many levels may open as
  the shape has.
-/

namespace RoleDiscovery

/-! ## Shapes -/

namespace Shape

mutual

/-- The number of levels that a value of a shape may have, not counting those of parts that may be
of any shape. -/
def height : Shape → Nat
  | nullable shape => height shape
  | list item => height item + 1
  | map item => height item + 1
  | record fields => heightFields fields + 1
  | text | int | bool | amount | choice | any => 0

/-- The number of levels that the value of any of the fields may have. -/
def heightFields : List (String × Shape) → Nat
  | [] => 0
  | (_, shape) :: rest => max (height shape) (heightFields rest)

end

theorem heightFields_append (x y : List Field) :
    heightFields (x ++ y) = max (heightFields x) (heightFields y) := by
  induction x with
  | nil => exact (Nat.zero_max _).symm
  | cons field x ih => rw [List.cons_append, heightFields, heightFields, ih, Nat.max_assoc]

theorem heightFields_singleton (name : String) (shape : Shape) :
    heightFields [(name, shape)] = shape.height :=
  Nat.max_zero _

/-- A field is found by its name, if no two have the same. -/
theorem use_of_mem {name : String} {shape : Shape} {fields : List Field}
    (h : (name, shape) ∈ fields) (hn : (fields.map Prod.fst).Nodup) :
    (record fields).use name = .read shape := by
  have hlookup : fields.lookup name = some shape := by
    induction fields with
    | nil => cases h
    | cons field fields ih =>
      rw [List.map_cons, List.nodup_cons] at hn
      rcases List.mem_cons.1 h with rfl | h
      · exact List.lookup_cons_self
      · have hne : name ≠ field.1 := by
          rintro rfl
          exact hn.1 (List.mem_map.2 ⟨_, h, rfl⟩)
        rw [List.lookup_cons, beq_false_of_ne hne]
        exact ih h hn.2
  rw [use, hlookup]

/-- A field of another name does not count. -/
theorem use_of_not_mem {name : String} {fields : List Field} (h : name ∉ fields.map Prod.fst) :
    (record fields).use name = .skipped := by
  have hlookup : fields.lookup name = none := by
    rw [List.lookup_eq_none_iff]
    intro field hm
    rw [bne_iff_ne]
    rintro rfl
    exact h (List.mem_map_of_mem hm)
  rw [use, hlookup]

end Shape

/-! ## What is kept -/

namespace Json

variable {shape : Shape} {depth : Nat}

theorem keptItems_nullable {items : List Json} {place : Nat} :
    KeptItems (some (.nullable shape)) depth place items ↔
      KeptItems (some shape) depth place items := by
  induction items generalizing place with
  | nil => simp [KeptItems]
  | cons item items ih =>
    rw [KeptItems, KeptItems, ih]
    rfl

theorem keptFields_nullable {fields : List (String × Json)} :
    KeptFields (some (.nullable shape)) depth fields ↔ KeptFields (some shape) depth fields := by
  induction fields with
  | nil => simp [KeptFields]
  | cons field fields ih =>
    rw [KeptFields, KeptFields, ih]
    rfl

theorem kept_nullable {value : Json} :
    Kept (some (.nullable shape)) depth value ↔ Kept (some shape) depth value := by
  cases value <;> simp [Kept, keptItems_nullable, keptFields_nullable]

theorem keptItems_of_forall {items : List Json} {place : Nat}
    (h : ∀ item ∈ items, Kept (some shape) depth item) :
    KeptItems (some (.list shape)) depth place items := by
  induction items generalizing place with
  | nil => simp [KeptItems]
  | cons item items ih =>
    rw [KeptItems]
    exact ⟨h item List.mem_cons_self, ih fun other hm => h other (List.mem_cons_of_mem _ hm)⟩

theorem keptFields_of_forall {fields : List (String × Json)}
    (h : ∀ field ∈ fields, ∃ read, shape.use field.1 = .read read ∧ Kept read depth field.2) :
    KeptFields (some shape) depth fields := by
  induction fields with
  | nil => simp [KeptFields]
  | cons field fields ih =>
    rw [KeptFields]
    exact ⟨h field List.mem_cons_self, ih fun other hm => h other (List.mem_cons_of_mem _ hm)⟩

end Json

namespace Codec

variable {α β σ : Type}

/-- Nothing of what is written for a value gets lost when its text is read, if fewer than `depth`
levels may open in it. -/
def Kept (codec : Codec α) (depth : Nat) (a : α) : Prop :=
  Json.Kept (some codec.shape) depth (codec.encode a)

instance (codec : Codec α) (depth : Nat) (a : α) : Decidable (codec.Kept depth a) :=
  inferInstanceAs (Decidable (Json.Kept (some codec.shape) depth (codec.encode a)))

/-- Nothing that is written gets lost when its text is read, if as many levels may open in it as the
shape has. -/
class Legible (codec : Codec α) : Prop where
  kept : ∀ a depth, codec.shape.height < depth → codec.Kept depth a

/-! ## Values -/

theorem kept_text (s : String) (depth : Nat) : text.Kept depth s := by
  simp [Kept, text, Json.Kept]

instance legible_text : text.Legible where
  kept s depth _ := kept_text s depth

instance legible_bool : bool.Legible where
  kept _ _ _ := by simp [Kept, bool, Json.Kept]

instance legible_int32 : int32.Legible where
  kept n _ _ := by
    have hmin : Int64.minValue.toInt ≤ Int32.minValue.toInt := by decide
    have hmax : Int32.maxValue.toInt < UInt64.size := by decide
    exact ⟨Int.le_trans hmin (Int32.minValue_le_toInt n),
      Int.lt_of_le_of_lt (Int32.toInt_le n) hmax⟩

/-! ## Collections -/

variable {item : Codec α} {depth : Nat}

theorem kept_list {values : List α} (h : ∀ a ∈ values, item.Kept (depth + 1) a) :
    (list item).Kept (depth + 2) values := by
  rw [Kept, list, Json.Kept]
  refine ⟨by omega, Json.keptItems_of_forall fun value hm => ?_⟩
  obtain ⟨a, ha, rfl⟩ := List.mem_map.1 hm
  exact h a ha

instance legible_list [h : item.Legible] : (list item).Legible where
  kept values depth hdepth := by
    rw [list, Shape.height] at hdepth
    obtain ⟨depth, rfl⟩ : ∃ n, depth = n + 2 := ⟨depth - 2, by omega⟩
    exact kept_list fun a _ => h.kept a (depth + 1) (by omega)

/-! ## Entries -/

namespace Entry

/-- Nothing of the fields that an entry writes for a record gets lost: they are among those that it
states, and have their shapes. -/
def Kept (entry : Entry σ α) (depth : Nat) (s : σ) : Prop :=
  ∀ field ∈ entry.write s, ∃ shape, (field.1, shape) ∈ entry.fields ∧
    Json.Kept (some shape) depth field.2

/-- Nothing of the fields gets lost, if as many levels may open in them as they have. -/
class Legible (entry : Entry σ α) : Prop where
  kept : ∀ s depth, Shape.heightFields entry.fields < depth → entry.Kept depth s

variable {s : σ}

theorem kept_pure (a : α) : (pure a : Entry σ α).Kept depth s :=
  fun _ hm => absurd hm List.not_mem_nil

instance legible_pure (a : α) : (pure a : Entry σ α).Legible where
  kept _ _ _ := kept_pure a

theorem Kept.seq {f : Entry σ (α → β)} {x : Entry σ α} (hf : f.Kept depth s)
    (hx : x.Kept depth s) : (f <*> x).Kept depth s := by
  intro field hm
  rcases List.mem_append.1 hm with hm | hm
  · obtain ⟨shape, hshape, hkept⟩ := hf field hm
    exact ⟨shape, List.mem_append_left _ hshape, hkept⟩
  · obtain ⟨shape, hshape, hkept⟩ := hx field hm
    exact ⟨shape, List.mem_append_right _ hshape, hkept⟩

instance legible_seq {f : Entry σ (α → β)} {x : Entry σ α} [hf : f.Legible] [hx : x.Legible] :
    (f <*> x).Legible where
  kept s depth hdepth := by
    change Shape.heightFields (f.fields ++ x.fields) < depth at hdepth
    rw [Shape.heightFields_append, Nat.max_lt] at hdepth
    exact (hf.kept s depth hdepth.1).seq (hx.kept s depth hdepth.2)

theorem kept_map {x : Entry σ α} (f : α → β) (hx : x.Kept depth s) : (f <$> x).Kept depth s :=
  (kept_pure f).seq hx

instance legible_map {x : Entry σ α} (f : α → β) [x.Legible] : (f <$> x).Legible :=
  legible_seq (f := pure f)

/-! ## Fields -/

/-- The only field of an entry is kept if its value is. -/
theorem kept_field {entry : Entry σ β} {name : String} {shape : Shape}
    (hfields : entry.fields = [(name, shape)])
    (h : ∀ field ∈ entry.write s, field.1 = name ∧ Json.Kept (some shape) depth field.2) :
    entry.Kept depth s := by
  intro field hm
  obtain ⟨rfl, hkept⟩ := h field hm
  exact ⟨shape, hfields ▸ List.mem_singleton_self _, hkept⟩

theorem kept_required (name : String) {get : σ → α} (h : item.Kept depth (get s)) :
    (required name item get).Kept depth s :=
  kept_field rfl fun field hm => by
    obtain rfl := List.mem_singleton.1 hm
    exact ⟨rfl, h⟩

instance legible_required (name : String) [h : item.Legible] (get : σ → α) :
    (required name item get).Legible where
  kept s depth hdepth := by
    rw [required, Shape.heightFields_singleton] at hdepth
    exact kept_required name (h.kept (get s) depth hdepth)

theorem kept_optional (name : String) {get : σ → Option α}
    (h : ∀ a, get s = some a → item.Kept depth a) : (optional name item get).Kept depth s :=
  kept_field rfl fun field hm => by
    obtain ⟨a, ha, rfl⟩ := List.mem_map.1 hm
    exact ⟨rfl, Json.kept_nullable.2 (h a (Option.mem_toList.1 ha))⟩

instance legible_optional (name : String) [h : item.Legible] (get : σ → Option α) :
    (optional name item get).Legible where
  kept s depth hdepth := by
    rw [optional, Shape.heightFields_singleton, Shape.height] at hdepth
    exact kept_optional name fun a _ => h.kept a depth hdepth

theorem kept_defaulted (name : String) (default : α) {get : σ → α}
    (h : item.Kept depth (get s)) : (defaulted name item default get).Kept depth s :=
  kept_field rfl fun field hm => by
    obtain rfl := List.mem_singleton.1 hm
    exact ⟨rfl, h⟩

instance legible_defaulted (name : String) [h : item.Legible] (default : α) (get : σ → α) :
    (defaulted name item default get).Legible where
  kept s depth hdepth := by
    rw [defaulted, Shape.heightFields_singleton] at hdepth
    exact kept_defaulted name default (h.kept (get s) depth hdepth)

theorem kept_nonempty (name : String) {get : σ → List α}
    (h : ∀ a ∈ get s, item.Kept (depth + 1) a) : (nonempty name item get).Kept (depth + 2) s :=
  kept_field rfl fun field hm => by
    change field ∈ (if (get s).isEmpty then [] else [(name, (list item).encode (get s))]) at hm
    split_ifs at hm
    · cases hm
    · obtain rfl := List.mem_singleton.1 hm
      exact ⟨rfl, kept_list h⟩

/-- The fields that an entry writes are kept in a record, if they differ in their names. -/
theorem Kept.record {entry : Entry σ α} (h : entry.Kept (depth + 1) s)
    (hn : entry.names.Nodup) :
    Json.Kept (some (.record entry.fields)) (depth + 2) (.object (entry.write s)) := by
  rw [Json.Kept]
  refine ⟨by omega, Json.keptFields_of_forall fun field hm => ?_⟩
  obtain ⟨shape, hshape, hkept⟩ := h field hm
  exact ⟨some shape, Shape.use_of_mem hshape hn, hkept⟩

end Entry

/-! ## Records -/

variable {entry : Entry α α}

theorem kept_strict {a : α} (h : entry.Kept (depth + 1) a) (hn : entry.names.Nodup) :
    (strict entry).Kept (depth + 2) a :=
  h.record hn

theorem legible_strict (h : entry.Legible) (hn : entry.names.Nodup) : (strict entry).Legible where
  kept a depth hdepth := by
    rw [strict, Shape.height] at hdepth
    obtain ⟨depth, rfl⟩ : ∃ n, depth = n + 2 := ⟨depth - 2, by omega⟩
    exact kept_strict (h.kept a (depth + 1) (by omega)) hn

end Codec

end RoleDiscovery
