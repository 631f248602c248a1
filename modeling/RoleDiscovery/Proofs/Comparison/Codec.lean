import RoleDiscovery.Proofs.Comparison.Basic
import RoleDiscovery.Proofs.Codec

/-!
# Types that are compared exactly

A comparison looks at what values are written as, and null counts as an empty collection. A relation
between such values is discerning if it goes down to their parts and holds of an atom and nothing
else but the atom itself; that two values do not differ is such a relation. A codec is exact if what
it writes for two values is so related only if they are equal.

Results:

* `Json.Discerning`, `Json.discerning_differences`: the relations, and the one that is compared by.
* `Codec.Exact`, `Codec.Entry.Exact`: exactness of codecs and of entries.
* `Codec.exact_list`, `Codec.exact_strict`, `Codec.exact_lenient`: exact collections.
* `Codec.Exact.differencesAt_eq_nil`: values of an exact codec do not differ if they are equal.
-/

namespace RoleDiscovery

/-! ## Relations of values -/

namespace Json

/-- A relation of values that holds of their parts, too, and of an atom and nothing but itself. -/
structure Discerning (rel : Json → Json → Prop) : Prop where
  atom_left : ∀ {u v}, u.isAtom = true → rel u v → u = v
  atom_right : ∀ {u v}, v.isAtom = true → rel u v → u = v
  field : ∀ {x y}, rel (.object x) (.object y) →
    ∀ name, rel (fieldOrNull x name) (fieldOrNull y name)
  length : ∀ {x y}, rel (.array x) (.array y) → x.length = y.length
  item : ∀ {x y}, rel (.array x) (.array y) →
    ∀ index < x.length, rel (itemOrNull x index) (itemOrNull y index)

/-- Values are discerned by their differences. -/
theorem discerning_differences : Discerning fun u v => u.differences v = [] where
  atom_left hu h := by
    rw [differences, differencesAt_atom_left hu] at h
    by_contra hne
    rw [if_neg hne] at h
    cases h
  atom_right hv h := by
    rw [differences, differencesAt_atom_right hv] at h
    by_contra hne
    rw [if_neg hne] at h
    cases h
  field h name := differencesAt_eq_nil_iff.1 (differencesAt_object.1 h name)
  length h := (differencesAt_array.1 h).1
  item h index hindex := differencesAt_eq_nil_iff.1 ((differencesAt_array.1 h).2 index hindex)

end Json

namespace Codec

open Json

variable {α β σ : Type}

/-- Only equal values are written as values that a discerning relation holds of. -/
class Exact (codec : Codec α) : Prop where
  eq_of_rel : ∀ {rel}, Discerning rel → ∀ {a b}, rel (codec.encode a) (codec.encode b) → a = b

/-- Everything is written as an atom. -/
class Atomic (codec : Codec α) : Prop where
  isAtom_encode : ∀ a, (codec.encode a).isAtom = true

theorem Exact.differencesAt_eq_nil {codec : Codec α} (h : codec.Exact) {path : Path} {a b : α} :
    differencesAt path (codec.encode a) (codec.encode b) = [] ↔ a = b := by
  constructor
  · exact fun hd => h.eq_of_rel discerning_differences (differencesAt_eq_nil_iff.1 hd)
  · rintro rfl
    exact differencesAt_self path _

/-! ## Values -/

theorem Lawful.encode_inj {codec : Codec α} (h : codec.Lawful) {a b : α}
    (hab : codec.encode a = codec.encode b) : a = b := by
  have ha := h.decode_encode a
  rw [hab, h.decode_encode] at ha
  exact (Option.some.inj ha).symm

/-- Atoms are compared exactly if different values are written as different atoms. -/
theorem exact_of_injective {codec : Codec α} [hatom : codec.Atomic]
    (h : ∀ {a b}, codec.encode a = codec.encode b → a = b) : codec.Exact where
  eq_of_rel hrel _ _ hab := h (hrel.atom_left (hatom.isAtom_encode _) hab)

/-- What is not set counts as null, which no atom is mistaken for. -/
theorem Exact.eq_of_rel_optional {codec : Codec α} (h : codec.Exact) [hatom : codec.Atomic]
    {rel : Json → Json → Prop} (hrel : Discerning rel) {a b : Option α}
    (hab : rel ((a.map codec.encode).getD .null) ((b.map codec.encode).getD .null)) : a = b := by
  cases a with
  | none =>
    cases b with
    | none => rfl
    | some b =>
      have hb := hatom.isAtom_encode b
      rw [← hrel.atom_right hb hab] at hb
      cases hb
  | some a =>
    cases b with
    | none =>
      have ha := hatom.isAtom_encode a
      rw [hrel.atom_left ha hab] at ha
      cases ha
    | some b => rw [h.eq_of_rel hrel hab]

instance atomic_text : text.Atomic where
  isAtom_encode _ := rfl

instance atomic_bool : bool.Atomic where
  isAtom_encode _ := rfl

instance atomic_int32 : int32.Atomic where
  isAtom_encode _ := rfl

instance atomic_int64 : int64.Atomic where
  isAtom_encode _ := rfl

instance atomic_base64 : base64.Atomic where
  isAtom_encode _ := rfl

instance atomic_spelled (print : α → String) (parse? : String → Option α) :
    (spelled print parse?).Atomic where
  isAtom_encode _ := rfl

instance exact_text : text.Exact :=
  exact_of_injective lawful_text.encode_inj

instance exact_bool : bool.Exact :=
  exact_of_injective lawful_bool.encode_inj

instance exact_int32 : int32.Exact :=
  exact_of_injective lawful_int32.encode_inj

instance exact_int64 : int64.Exact :=
  exact_of_injective lawful_int64.encode_inj

instance exact_base64 : base64.Exact :=
  exact_of_injective lawful_base64.encode_inj

theorem exact_spelled {print : α → String} {parse? : String → Option α}
    (h : ∀ {a b}, print a = print b → a = b) : (spelled print parse?).Exact :=
  exact_of_injective fun hab => h (Json.text.inj hab)

/-! ## Collections -/

theorem itemOrNull_map {item : Codec α} {values : List α} {index : Nat}
    (h : index < values.length) :
    itemOrNull (values.map item.encode) index = item.encode values[index] := by
  simp [itemOrNull, h]

instance exact_list {item : Codec α} [h : item.Exact] : (list item).Exact where
  eq_of_rel hrel a b hab := by
    have hlen := hrel.length hab
    rw [List.length_map, List.length_map] at hlen
    apply List.ext_getElem hlen
    intro index ha hb
    have hitem := hrel.item hab index (by simpa using ha)
    rw [itemOrNull_map ha, itemOrNull_map hb] at hitem
    exact h.eq_of_rel hrel hitem

theorem lookup_map {item : Codec α} (entries : SortedMap α) (name : String) :
    lookup name (entries.entries.map fun (key, value) => (key, item.encode value)) =
      (entries.find? name).map item.encode := by
  rw [← SortedMap.last?_entries]
  induction entries.entries with
  | nil => rfl
  | cons row rows ih =>
    rw [List.map_cons, lookup, ih, ← List.singleton_append, SortedMap.last?_append]
    by_cases hkey : row.1 = name
    · cases SortedMap.last? name rows <;> simp [SortedMap.last?, hkey]
    · cases SortedMap.last? name rows <;> simp [SortedMap.last?, hkey]

instance exact_map {item : Codec α} [h : item.Exact] [item.Atomic] :
    (map item).Exact where
  eq_of_rel hrel a b hab := by
    apply SortedMap.ext_find?
    intro name
    have hfield := hrel.field hab name
    rw [fieldOrNull, fieldOrNull, lookup_map, lookup_map] at hfield
    exact h.eq_of_rel_optional hrel hfield

/-! ## Entries -/

namespace Entry

section

variable {f : Entry σ (α → β)} {x : Entry σ α} {name : String}

/-- Of two entries in a row the first one writes the fields that are its own. -/
theorem fieldOrNull_seq_left [hx : x.Named] (hn : (f <*> x).names.Nodup) (hm : name ∈ f.names)
    (s : σ) : fieldOrNull ((f <*> x).write s) name = fieldOrNull (f.write s) name := by
  rw [names_seq] at hn
  apply fieldOrNull_append_left
  rintro hwritten
  obtain ⟨field, hfield, rfl⟩ := List.mem_map.1 hwritten
  exact (List.nodup_append.1 hn).2.2 _ hm _ (hx.mem_names hfield) rfl

/-- The second one writes the others. -/
theorem fieldOrNull_seq_right [hf : f.Named] (hn : (f <*> x).names.Nodup) (hm : name ∈ x.names)
    (s : σ) : fieldOrNull ((f <*> x).write s) name = fieldOrNull (x.write s) name := by
  rw [names_seq] at hn
  apply fieldOrNull_append_right
  rintro hwritten
  obtain ⟨field, hfield, rfl⟩ := List.mem_map.1 hwritten
  exact (List.nodup_append.1 hn).2.2 _ (hf.mem_names hfield) _ hm rfl

end

/-- Records that are related in the fields of the entry agree on what it reads from them, if the
fields differ in their names. -/
class Exact (entry : Entry σ α) (get : outParam (σ → α)) : Prop extends Named entry where
  eq_of_rel : entry.names.Nodup → ∀ {rel}, Discerning rel → ∀ s t,
    (∀ name ∈ entry.names,
      rel (fieldOrNull (entry.write s) name) (fieldOrNull (entry.write t) name)) → get s = get t

instance exact_pure (a : α) : (pure a : Entry σ α).Exact fun _ => a where
  eq_of_rel _ _ _ _ _ _ := rfl

instance exact_seq {f : Entry σ (α → β)} {x : Entry σ α} {g : σ → α → β} {get : σ → α}
    [hf : f.Exact g] [hx : x.Exact get] : (f <*> x).Exact fun s => g s (get s) where
  eq_of_rel hn rel hrel s t h := by
    obtain ⟨hnf, hnx, -⟩ := List.nodup_append.1 (names_seq f x ▸ hn)
    have hg : g s = g t := by
      apply hf.eq_of_rel hnf hrel s t
      intro name hm
      have hname := h name (names_seq f x ▸ List.mem_append_left _ hm)
      rwa [fieldOrNull_seq_left hn hm, fieldOrNull_seq_left hn hm] at hname
    have hget : get s = get t := by
      apply hx.eq_of_rel hnx hrel s t
      intro name hm
      have hname := h name (names_seq f x ▸ List.mem_append_right _ hm)
      rwa [fieldOrNull_seq_right hn hm, fieldOrNull_seq_right hn hm] at hname
    rw [hg, hget]

instance exact_map {x : Entry σ α} {get : σ → α} (f : α → β) [hx : x.Exact get] :
    (f <$> x).Exact fun s => f (get s) :=
  exact_seq (f := pure f)

variable {item : Codec α}

/-- An entry with one field, which is always written. -/
theorem exact_field {entry : Entry σ α} {name : String} {get : σ → α} [entry.Named]
    [h : item.Exact] (hnames : entry.names = [name])
    (hwrite : ∀ s, entry.write s = [(name, item.encode (get s))]) : entry.Exact get where
  eq_of_rel _ _ hrel s t hd := by
    have hfield := hd name (hnames ▸ List.mem_singleton_self name)
    rw [hwrite, hwrite, fieldOrNull_singleton, fieldOrNull_singleton] at hfield
    exact h.eq_of_rel hrel hfield

instance exact_required (name : String) [item.Exact] (get : σ → α) :
    (required name item get).Exact get :=
  exact_field rfl fun _ => rfl

instance exact_defaulted (name : String) [item.Exact] (default : α)
    (get : σ → α) : (defaulted name item default get).Exact get :=
  exact_field rfl fun _ => rfl

instance exact_filled (name : String) [item.Exact] (default : α)
    (get : σ → α) : (filled name item default get).Exact get :=
  exact_field rfl fun _ => rfl

theorem fieldOrNull_optional (name : String) (get : σ → Option α) (s : σ) :
    fieldOrNull ((optional name item get).write s) name =
      ((get s).map item.encode).getD .null := by
  show fieldOrNull ((get s).toList.map fun a => (name, item.encode a)) name = _
  cases get s with
  | none => rfl
  | some a => exact fieldOrNull_singleton name (item.encode a)

instance exact_optional (name : String) [h : item.Exact] [item.Atomic]
    (get : σ → Option α) : (optional name item get).Exact get where
  eq_of_rel _ _ hrel s t hd := by
    have hfield := hd name (List.mem_singleton_self name)
    rw [fieldOrNull_optional, fieldOrNull_optional] at hfield
    exact h.eq_of_rel_optional hrel hfield

end Entry

/-! ## Records -/

variable {entry : Entry α α}

theorem exact_strict (h : entry.Exact id) (hn : entry.names.Nodup) : (strict entry).Exact where
  eq_of_rel hrel a b hab := h.eq_of_rel hn hrel a b fun name _ => hrel.field hab name

theorem exact_lenient (h : entry.Exact id) (hn : entry.names.Nodup) : (lenient entry).Exact where
  eq_of_rel hrel a b hab := h.eq_of_rel hn hrel a b fun name _ => hrel.field hab name

end Codec

end RoleDiscovery
