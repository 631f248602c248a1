import Mathlib.Tactic.Common
import RoleDiscovery.Codec
import RoleDiscovery.Proofs.SortedMap

/-!
# Laws of codecs

A codec is lawful if every value is read back from what it is written as. A record is lawful if its
entries are and no two fields share a name; an entry reads its own fields wherever they stand among
others. The laws are classes, so that what is put together from lawful parts is known to be lawful.
Where not every value is read back, the same is said of single values.

Results:

* `Codec.ReadsBack`, `Codec.Entry.ReadsBack`: a value is read back from what it is written as.
* `Codec.Lawful`, `Codec.Entry.Lawful`: all values are.
* `Codec.Entry.Named`: what an entry writes are fields of its own.
* `Codec.lawful_text` and its companions, `Codec.lawful_list`, `Codec.lawful_map`: lawful codecs of
  values.
* `Codec.Entry.readsBack_required`, `Codec.Entry.lawful_required` and their companions: fields.
* `Codec.readsBack_strict`, `Codec.readsBack_lenient`: records whose fields have names of their own.
-/

namespace RoleDiscovery

namespace Codec

variable {α β σ : Type}

/-- A value is read back from what it is written as, which is not null. -/
structure ReadsBack (codec : Codec α) (a : α) : Prop where
  decode_encode : codec.decode (codec.encode a) = some a
  encode_ne_null : codec.encode a ≠ .null

/-- Every value is read back from what it is written as, which is not null. -/
class Lawful (codec : Codec α) : Prop where
  decode_encode : ∀ a, codec.decode (codec.encode a) = some a
  encode_ne_null : ∀ a, codec.encode a ≠ .null

theorem Lawful.readsBack {codec : Codec α} (h : codec.Lawful) (a : α) : codec.ReadsBack a :=
  ⟨h.decode_encode a, h.encode_ne_null a⟩

theorem Lawful.of_readsBack {codec : Codec α} (h : ∀ a, codec.ReadsBack a) : codec.Lawful :=
  ⟨fun a => (h a).decode_encode, fun a => (h a).encode_ne_null⟩

/-! ## Values -/

instance lawful_text : text.Lawful where
  decode_encode _ := rfl
  encode_ne_null _ := by simp [text]

instance lawful_bool : bool.Lawful where
  decode_encode _ := rfl
  encode_ne_null _ := by simp [bool]

instance lawful_int32 : int32.Lawful where
  decode_encode n := by
    have hn : Int32.minValue.toInt ≤ n.toInt ∧ n.toInt ≤ Int32.maxValue.toInt :=
      ⟨Int32.minValue_le_toInt n, Int32.toInt_le n⟩
    show (if _ then some (Int32.ofInt n.toInt) else none) = some n
    rw [if_pos hn, Int32.ofInt_toInt]
  encode_ne_null _ := by simp [int32]

instance lawful_int64 : int64.Lawful where
  decode_encode n := by
    have hn : Int64.minValue.toInt ≤ n.toInt ∧ n.toInt ≤ Int64.maxValue.toInt :=
      ⟨Int64.minValue_le_toInt n, Int64.toInt_le n⟩
    show (if _ then some (Int64.ofInt n.toInt) else none) = some n
    rw [if_pos hn, Int64.ofInt_toInt]
  encode_ne_null _ := by simp [int64]

instance lawful_base64 : base64.Lawful where
  decode_encode := Base64.ofString?_text
  encode_ne_null _ := by simp [base64]

theorem readsBack_spelled {print : α → String} {parse? : String → Option α} {a : α}
    (h : parse? (print a) = some a) : (spelled print parse?).ReadsBack a where
  decode_encode := h
  encode_ne_null := by simp [spelled]

/-! ## Collections -/

variable {item : Codec α}

theorem readsBack_list {values : List α}
    (h : ∀ a ∈ values, item.decode (item.encode a) = some a) :
    (list item).ReadsBack values where
  decode_encode := by
    show (values.map item.encode).mapM item.decode = some values
    induction values with
    | nil => rfl
    | cons a values ih =>
      rw [List.map_cons, List.mapM_cons, h a List.mem_cons_self,
        ih fun b hb => h b (List.mem_cons_of_mem _ hb)]
      rfl
  encode_ne_null := by simp [list]

instance lawful_list [h : item.Lawful] : (list item).Lawful :=
  .of_readsBack fun _ => readsBack_list fun a _ => h.decode_encode a

instance lawful_map [h : item.Lawful] : (map item).Lawful where
  decode_encode entries := by
    have hfields : (entries.entries.map fun (key, value) => (key, item.encode value)).mapM
        (fun (key, value) => (item.decode value).map (key, ·)) = some entries.entries := by
      generalize entries.entries = rows
      induction rows with
      | nil => rfl
      | cons row rows ih =>
        rw [List.map_cons, List.mapM_cons, ih]
        show ((item.decode (item.encode row.2)).map (row.1, ·)).bind _ = _
        rw [h.decode_encode]
        rfl
    show (do
      let rows ← (entries.entries.map fun (key, value) => (key, item.encode value)).mapM
        fun (key, value) => (item.decode value).map (key, ·)
      return SortedMap.ofList rows : Option (SortedMap α)) = some entries
    rw [hfields]
    exact congrArg some (SortedMap.ofList_entries entries)
  encode_ne_null _ := by simp [map]

theorem nullable_encode {a : α} (h : item.ReadsBack a) :
    item.nullable (item.encode a) = some (some a) := by
  unfold nullable
  split
  · next heq => exact absurd heq h.encode_ne_null
  · rw [h.decode_encode, Option.map_some]

/-! ## Entries -/

namespace Entry

/-- The names of the fields of an entry. -/
def names (entry : Entry σ α) : List String :=
  entry.fields.map Prod.fst

/-- What an entry writes for a record are fields of its own, in order. -/
class Named (entry : Entry σ α) : Prop where
  names_write : ∀ s, ((entry.write s).map Prod.fst).Sublist entry.names

/-- From the fields that an entry writes for a record it reads a value, whatever other fields there
are, if its own fields differ in their names. -/
def ReadsBack (entry : Entry σ α) (s : σ) (a : α) : Prop :=
  entry.names.Nodup → ∀ before after, (∀ field ∈ before ++ after, field.1 ∉ entry.names) →
    entry.read (before ++ entry.write s ++ after) = some a

/-- From the fields that an entry writes for any record, it reads what the record holds. -/
class Lawful (entry : Entry σ α) (get : outParam (σ → α)) : Prop extends Named entry where
  readsBack : ∀ s, entry.ReadsBack s (get s)

variable {s : σ}

/-- What is written for an entry has the names of its fields. -/
theorem Named.mem_names {entry : Entry σ α} (h : entry.Named) {field : String × Json}
    (hf : field ∈ entry.write s) : field.1 ∈ entry.names :=
  (h.names_write s).subset (List.mem_map_of_mem hf)

instance named_pure (a : α) : (pure a : Entry σ α).Named where
  names_write _ := .slnil

theorem readsBack_pure (a : α) : (pure a : Entry σ α).ReadsBack s a :=
  fun _ _ _ _ => rfl

instance lawful_pure (a : α) : (pure a : Entry σ α).Lawful fun _ => a where
  readsBack _ := readsBack_pure a

theorem names_seq (f : Entry σ (α → β)) (x : Entry σ α) : (f <*> x).names = f.names ++ x.names :=
  List.map_append

instance named_seq {f : Entry σ (α → β)} {x : Entry σ α} [hf : f.Named] [hx : x.Named] :
    (f <*> x).Named where
  names_write s := by
    show ((f.write s ++ x.write s).map Prod.fst).Sublist _
    rw [List.map_append, names_seq]
    exact (hf.names_write s).append (hx.names_write s)

theorem ReadsBack.seq {f : Entry σ (α → β)} {x : Entry σ α} [nf : f.Named] [nx : x.Named]
    {g : α → β} {a : α} (hf : f.ReadsBack s g) (hx : x.ReadsBack s a) :
    (f <*> x).ReadsBack s (g a) := by
  intro hn before after hother
  rw [names_seq] at hn
  obtain ⟨hnf, hnx, hd⟩ := List.nodup_append.1 hn
  have hnames : ∀ field ∈ before ++ after, field.1 ∉ f.names ∧ field.1 ∉ x.names := by
    intro field hm
    have := hother field hm
    rw [names_seq, List.mem_append, not_or] at this
    exact this
  have hreadf := hf hnf before (x.write s ++ after) (by
    intro field hm
    rw [List.mem_append, List.mem_append] at hm
    rcases hm with hm | hm | hm
    · exact (hnames field (List.mem_append_left _ hm)).1
    · exact fun hfield => hd _ hfield _ (nx.mem_names hm) rfl
    · exact (hnames field (List.mem_append_right _ hm)).1)
  have hreadx := hx hnx (before ++ f.write s) after (by
    intro field hm
    rw [List.mem_append, List.mem_append] at hm
    rcases hm with (hm | hm) | hm
    · exact (hnames field (List.mem_append_left _ hm)).2
    · exact fun hfield => hd _ (nf.mem_names hm) _ hfield rfl
    · exact (hnames field (List.mem_append_right _ hm)).2)
  have hassoc : before ++ (f.write s ++ x.write s) ++ after =
      before ++ f.write s ++ (x.write s ++ after) := by simp
  show (do
    let g ← f.read (before ++ (f.write s ++ x.write s) ++ after)
    let a ← x.read (before ++ (f.write s ++ x.write s) ++ after)
    return g a : Option β) = _
  rw [hassoc, hreadf, ← List.append_assoc, hreadx]
  rfl

instance lawful_seq {f : Entry σ (α → β)} {x : Entry σ α} {g : σ → α → β} {get : σ → α}
    [hf : f.Lawful g] [hx : x.Lawful get] : (f <*> x).Lawful fun s => g s (get s) where
  readsBack s := (hf.readsBack s).seq (hx.readsBack s)

instance named_map {x : Entry σ α} (f : α → β) [x.Named] : (f <$> x).Named :=
  named_seq (f := pure f)

theorem readsBack_map {x : Entry σ α} [x.Named] {a : α} (f : α → β) (hx : x.ReadsBack s a) :
    (f <$> x).ReadsBack s (f a) :=
  (readsBack_pure f).seq hx

instance lawful_map {x : Entry σ α} {get : σ → α} (f : α → β) [hx : x.Lawful get] :
    (f <$> x).Lawful fun s => f (get s) where
  readsBack s := readsBack_map f (hx.readsBack s)

/-! ## Fields -/

variable {name : String} {read : Json → Option β}
  {before after : List (String × Json)}

/-- Fields of other names do not count. -/
theorem occurrences_other {fields : List (String × Json)} (h : ∀ field ∈ fields, field.1 ≠ name) :
    Json.occurrences name fields = [] := by
  rw [Json.occurrences, List.filterMap_eq_nil_iff]
  intro field hm
  exact if_neg (h field hm)

theorem occurrences_between (middle : List (String × Json))
    (h : ∀ field ∈ before ++ after, field.1 ∉ [name]) :
    Json.occurrences name (before ++ middle ++ after) = Json.occurrences name middle := by
  have hb : Json.occurrences name before = [] :=
    occurrences_other fun field hm => by simpa using h field (List.mem_append_left _ hm)
  have ha : Json.occurrences name after = [] :=
    occurrences_other fun field hm => by simpa using h field (List.mem_append_right _ hm)
  show List.filterMap _ (before ++ middle ++ after) = _
  rw [List.filterMap_append, List.filterMap_append]
  show Json.occurrences name before ++ _ ++ Json.occurrences name after = _
  rw [hb, ha, List.append_nil]
  rfl

theorem last?_none (h : ∀ field ∈ before ++ after, field.1 ∉ [name]) :
    last? name read (before ++ [] ++ after) = some none := by
  rw [last?, occurrences_between [] h]
  rfl

theorem last?_some {value : Json} {b : β} (hr : read value = some b)
    (h : ∀ field ∈ before ++ after, field.1 ∉ [name]) :
    last? name read (before ++ [(name, value)] ++ after) = some (some b) := by
  rw [last?, occurrences_between [(name, value)] h]
  simp [Json.occurrences, hr]

/-- An entry with one field, which it may leave out. -/
theorem named_field {entry : Entry σ α} (hnames : entry.names = [name])
    (h : ∀ s, entry.write s = [] ∨ ∃ value, entry.write s = [(name, value)]) : entry.Named where
  names_write s := by
    rw [hnames]
    rcases h s with hs | ⟨value, hs⟩
    · rw [hs]
      exact List.nil_sublist _
    · rw [hs]
      exact .refl _

instance named_required (name : String) (get : σ → α) : (required name item get).Named :=
  named_field rfl fun _ => .inr ⟨_, rfl⟩

theorem readsBack_required (name : String) {get : σ → α}
    (h : item.decode (item.encode (get s)) = some (get s)) :
    (required name item get).ReadsBack s (get s) := by
  intro _ before after hother
  show (last? name item.decode (before ++ [(name, item.encode (get s))] ++ after)).join = _
  rw [last?_some h hother]
  rfl

instance lawful_required (name : String) [h : item.Lawful] (get : σ → α) :
    (required name item get).Lawful get where
  readsBack s := readsBack_required name (h.decode_encode (get s))

instance named_optional (name : String) (get : σ → Option α) :
    (optional name item get).Named :=
  named_field rfl fun s => by
    show ((get s).toList.map fun a => (name, item.encode a)) = [] ∨ _
    cases hs : get s with
    | none => exact .inl rfl
    | some a => exact .inr ⟨item.encode a, by simp [optional, hs]⟩

theorem readsBack_optional (name : String) {get : σ → Option α}
    (h : ∀ a, get s = some a → item.ReadsBack a) :
    (optional name item get).ReadsBack s (get s) := by
  intro _ before after hother
  show (last? name item.nullable
    (before ++ ((get s).toList.map fun a => (name, item.encode a)) ++ after)).map _ = _
  cases hs : get s with
  | none =>
    show (last? name item.nullable (before ++ [] ++ after)).map _ = _
    rw [last?_none hother]
    rfl
  | some a =>
    show (last? name item.nullable (before ++ [(name, item.encode a)] ++ after)).map _ = _
    rw [last?_some (nullable_encode (h a hs)) hother]
    rfl

instance lawful_optional (name : String) [h : item.Lawful] (get : σ → Option α) :
    (optional name item get).Lawful get where
  readsBack _ := readsBack_optional name fun a _ => h.readsBack a

instance named_defaulted (name : String) (default : α) (get : σ → α) :
    (defaulted name item default get).Named :=
  named_field rfl fun _ => .inr ⟨_, rfl⟩

theorem readsBack_defaulted (name : String) (default : α) {get : σ → α}
    (h : item.decode (item.encode (get s)) = some (get s)) :
    (defaulted name item default get).ReadsBack s (get s) := by
  intro _ before after hother
  show (last? name item.decode (before ++ [(name, item.encode (get s))] ++ after)).map _ = _
  rw [last?_some h hother]
  rfl

instance lawful_defaulted (name : String) [h : item.Lawful] (default : α) (get : σ → α) :
    (defaulted name item default get).Lawful get where
  readsBack s := readsBack_defaulted name default (h.decode_encode (get s))

instance named_nonempty (name : String) (get : σ → List α) : (nonempty name item get).Named :=
  named_field rfl fun s => by
    show (if (get s).isEmpty then [] else [(name, (list item).encode (get s))]) = [] ∨ _
    cases hs : get s with
    | nil => exact .inl rfl
    | cons a values => exact .inr ⟨(list item).encode (a :: values), by simp [nonempty, hs]⟩

/-- A list that is left out is read back as the empty one. -/
theorem readsBack_nonempty (name : String) {get : σ → List α}
    (h : ∀ a ∈ get s, item.decode (item.encode a) = some a) :
    (nonempty name item get).ReadsBack s (get s) := by
  intro _ before after hother
  show (last? name (list item).decode (before ++ (if (get s).isEmpty then [] else
    [(name, (list item).encode (get s))]) ++ after)).map _ = _
  split_ifs with hempty
  · rw [last?_none hother, List.isEmpty_iff.1 hempty]
    rfl
  · rw [last?_some (readsBack_list h).decode_encode hother]
    rfl

instance named_filled (name : String) (default : α) (get : σ → α) :
    (filled name item default get).Named :=
  named_field rfl fun _ => .inr ⟨_, rfl⟩

instance lawful_filled (name : String) [h : item.Lawful] (default : α) (get : σ → α) :
    (filled name item default get).Lawful get where
  readsBack s := by
    intro _ before after hother
    show (last? name item.nullable (before ++ [(name, item.encode (get s))] ++ after)).map _ = _
    rw [last?_some (nullable_encode (h.readsBack _)) hother]
    rfl

end Entry

/-! ## Records -/

variable {entry : Entry α α}

theorem occurrences_cons (name key : String) (value : Json) (fields : List (String × Json)) :
    Json.occurrences name ((key, value) :: fields) =
      if key = name then value :: Json.occurrences name fields
      else Json.occurrences name fields := by
  by_cases hk : key = name <;> simp [Json.occurrences, hk]

theorem length_occurrences_le (name : String) {fields : List (String × Json)}
    (h : (fields.map Prod.fst).Nodup) : (Json.occurrences name fields).length ≤ 1 := by
  induction fields with
  | nil => exact Nat.zero_le 1
  | cons field fields ih =>
    obtain ⟨key, value⟩ := field
    rw [List.map_cons, List.nodup_cons] at h
    rw [occurrences_cons]
    by_cases hk : key = name
    · have hrest : Json.occurrences name fields = [] := by
        refine Entry.occurrences_other fun field hm hf => h.1 ?_
        rw [show key = field.1 from hk.trans hf.symm]
        exact List.mem_map.2 ⟨field, hm, rfl⟩
      rw [if_pos hk, hrest]
      exact Nat.le_refl 1
    · rw [if_neg hk]
      exact ih h.2

/-- Fields that differ in their names are none of them there twice. -/
theorem strictFields?_of_nodup {names : List String} {fields : List (String × Json)}
    (h : (fields.map Prod.fst).Nodup) : strictFields? names (.object fields) = some fields := by
  have hall : (names.all fun name => (Json.occurrences name fields).length ≤ 1) = true := by
    rw [List.all_eq_true]
    intro name _
    rw [decide_eq_true_eq]
    exact length_occurrences_le name h
  rw [strictFields?, if_pos hall]

theorem readsBack_strict [hnamed : entry.Named] {a : α} (h : entry.ReadsBack a a)
    (hn : entry.names.Nodup) : (strict entry).ReadsBack a where
  decode_encode := by
    have hread := h hn [] [] (by simp)
    rw [List.nil_append, List.append_nil] at hread
    show (strictFields? entry.names (.object (entry.write a))).bind entry.read = some a
    rw [strictFields?_of_nodup (hn.sublist (hnamed.names_write a))]
    exact hread
  encode_ne_null := by simp [strict]

theorem lawful_strict (h : entry.Lawful id) (hn : entry.names.Nodup) : (strict entry).Lawful :=
  .of_readsBack fun a => readsBack_strict (h.readsBack a) hn

theorem readsBack_lenient {a : α} (h : entry.ReadsBack a a) (hn : entry.names.Nodup) :
    (lenient entry).ReadsBack a where
  decode_encode := by
    have hread := h hn [] [] (by simp)
    rw [List.nil_append, List.append_nil] at hread
    exact hread
  encode_ne_null := by simp [lenient]

theorem lawful_lenient (h : entry.Lawful id) (hn : entry.names.Nodup) : (lenient entry).Lawful :=
  .of_readsBack fun a => readsBack_lenient (h.readsBack a) hn

end Codec

end RoleDiscovery
