import RoleDiscovery.Comparison.Basic
import RoleDiscovery.Proofs.SortedMap

/-!
# When values do not differ

Two values are compared by their parts if both are objects, or if each is a list or null; else they
are compared as a whole. What is shown of all pairs of values is shown along these cases.

Results:

* `Json.differencesAt_fields`, `Json.differencesAt_items`: how objects and lists are compared.
* `Json.Apart`, `Json.differencesAt_whole`: which values are compared as a whole.
* `Json.layout`, `Json.layout_induction`: the cases, and the induction along them.
* `Json.differencesAt_eq_nil_iff`: whether values differ does not depend on their place.
* `Json.differencesAt_self`: no value differs from itself.
* `Json.differencesAt_atom_left`, `Json.differencesAt_atom_right`: an atom differs from all but
  itself.
* `Json.differencesAt_object`, `Json.differencesAt_array`: two collections do not differ if their
  parts do not.
* `Json.differencesAt_null_left`, `Json.differencesAt_null_right`: null differs from all but null
  and the empty collections.
* `Comparison.isEqual_ofOptions`: the comparison of things that may be absent.
-/

namespace RoleDiscovery

namespace Json

variable {path : Path} {value : Json} {a b : List (String × Json)} {x y : List Json}
  {name : String}

/-! ## Fields -/

theorem mem_fieldNames : name ∈ fieldNames a b ↔ name ∈ a.map Prod.fst ∨ name ∈ b.map Prod.fst := by
  have hmap : ((a ++ b).map fun field => (field.1, ())).map Prod.fst = (a ++ b).map Prod.fst := by
    rw [List.map_map]
    rfl
  rw [← List.mem_append, ← List.map_append, ← hmap]
  exact SortedMap.mem_keys_ofList

theorem lookup_eq_none (h : name ∉ a.map Prod.fst) : lookup name a = none := by
  induction a with
  | nil => rfl
  | cons field a ih =>
    obtain ⟨key, value⟩ := field
    rw [List.map_cons, List.mem_cons, not_or] at h
    rw [lookup, ih h.2, if_neg (Ne.symm h.1)]
    rfl

theorem fieldOrNull_eq_null (h : name ∉ a.map Prod.fst) : fieldOrNull a name = .null := by
  rw [fieldOrNull, lookup_eq_none h]
  rfl

theorem fieldOrNull_singleton (name : String) (value : Json) :
    fieldOrNull [(name, value)] name = value := by
  simp [fieldOrNull, lookup]

theorem lookup_append : lookup name (a ++ b) = (lookup name b <|> lookup name a) := by
  induction a with
  | nil => cases h : lookup name b <;> simp [lookup, h]
  | cons field a ih =>
    obtain ⟨key, value⟩ := field
    rw [List.cons_append, lookup, lookup, ih]
    cases lookup name b <;> rfl

theorem fieldOrNull_append_left (h : name ∉ b.map Prod.fst) :
    fieldOrNull (a ++ b) name = fieldOrNull a name := by
  rw [fieldOrNull, lookup_append, lookup_eq_none h]
  rfl

theorem fieldOrNull_append_right (h : name ∉ a.map Prod.fst) :
    fieldOrNull (a ++ b) name = fieldOrNull b name := by
  rw [fieldOrNull, lookup_append, lookup_eq_none h, fieldOrNull]
  cases lookup name b <;> rfl

/-! ## Equality -/

theorem equals_self (value : Json) : value.equals value = true := by
  cases value with
  | decimal x => exact x.equals_self
  | _ => simp [equals]

/-- Only two decimals count as the same without being so. -/
theorem equals_eq_decide {old new : Json} (h : ∀ x y, old = .decimal x → new ≠ .decimal y) :
    old.equals new = decide (old = new) := by
  cases old with
  | decimal x =>
    cases new with
    | decimal y => exact absurd rfl (h x y rfl)
    | _ => rfl
  | _ => rfl

theorem eq_of_equals {old new : Json} (hnew : ∀ x, new ≠ .decimal x)
    (h : old.equals new = true) : old = new := by
  rw [equals_eq_decide fun _ x _ => hnew x] at h
  exact of_decide_eq_true h

theorem equals_comm (old new : Json) : old.equals new = new.equals old := by
  by_cases h : ∃ x y, old = .decimal x ∧ new = .decimal y
  · obtain ⟨x, y, rfl, rfl⟩ := h
    exact x.equals_comm y
  · have hold : ∀ x y, old = .decimal x → new ≠ .decimal y := fun x y hx hy => h ⟨x, y, hx, hy⟩
    have hnew : ∀ x y, new = .decimal x → old ≠ .decimal y := fun x y hx hy => h ⟨y, x, hy, hx⟩
    rw [equals_eq_decide hold, equals_eq_decide hnew, decide_eq_decide]
    exact eq_comm

/-! ## Empty values -/

theorem differencesAt_of_isEmpty {value : Json} (h : value.isEmpty) {other : Json}
    (h' : other.isEmpty) : differencesAt path value other = [] := by
  rw [differencesAt.eq_def, h, h']
  rfl

/-- Null differs from the values that are not empty. -/
theorem differencesAt_null_left : differencesAt path .null value = [] ↔ value.isEmpty = true := by
  refine ⟨fun h => ?_, differencesAt_of_isEmpty rfl⟩
  by_contra hempty
  rw [Bool.not_eq_true] at hempty
  rw [differencesAt.eq_def, hempty, Bool.and_false, if_neg Bool.false_ne_true] at h
  cases value with
  | null => cases hempty
  | array items =>
    cases items with
    | nil => cases hempty
    | cons item items => simp [lengthDifference] at h
  | _ => simp [equals] at h

/-- The values that are not empty differ from null. -/
theorem differencesAt_null_right : differencesAt path value .null = [] ↔ value.isEmpty = true := by
  refine ⟨fun h => ?_, fun h => differencesAt_of_isEmpty h rfl⟩
  by_contra hempty
  rw [Bool.not_eq_true] at hempty
  rw [differencesAt.eq_def, hempty, Bool.false_and, if_neg Bool.false_ne_true] at h
  cases value with
  | null => cases hempty
  | array items =>
    cases items with
    | nil => cases hempty
    | cons item items => simp [lengthDifference] at h
  | _ => simp [equals] at h

/-! ## Atoms -/

/-- Truth values, whole numbers and texts. -/
def isAtom : Json → Bool
  | .bool _ | .int _ | .text _ => true
  | _ => false

theorem isEmpty_of_isAtom (h : value.isAtom = true) : value.isEmpty = false := by
  cases value <;> first | rfl | exact absurd h Bool.false_ne_true

/-! ## Collections -/

/-- The items of a list. Null stands for a list without any. -/
def asList? : Json → Option (List Json)
  | .null => some []
  | .array items => some items
  | _ => none

theorem isEmpty_of_asList? {old : Json} (h : old.asList? = some x) : old.isEmpty = x.isEmpty := by
  cases old with
  | null | array =>
    obtain rfl := Option.some.inj h
    rfl
  | _ => cases h

/-- Two objects are compared field by field. -/
theorem differencesAt_fields : differencesAt path (.object a) (.object b) =
    (fieldNames a b).flatMap fun name =>
      differencesAt (path ++ [.field name]) (fieldOrNull a name) (fieldOrNull b name) := by
  rw [differencesAt.eq_def]
  split_ifs with hempty
  · obtain ⟨ha, hb⟩ := Bool.and_eq_true_iff.1 hempty
    obtain rfl : a = [] := List.isEmpty_iff.1 ha
    obtain rfl : b = [] := List.isEmpty_iff.1 hb
    rfl
  · rfl

/-- Two lists are compared by their lengths and item by item. -/
theorem differencesAt_items {old new : Json} (hold : old.asList? = some x)
    (hnew : new.asList? = some y) : differencesAt path old new = lengthDifference path x y ++
      (List.range (max x.length y.length)).flatMap fun index =>
        differencesAt (path ++ [.item index]) (itemOrNull x index) (itemOrNull y index) := by
  rw [differencesAt.eq_def, isEmpty_of_asList? hold, isEmpty_of_asList? hnew]
  split_ifs with hempty
  · obtain ⟨hx, hy⟩ := Bool.and_eq_true_iff.1 hempty
    obtain rfl : x = [] := List.isEmpty_iff.1 hx
    obtain rfl : y = [] := List.isEmpty_iff.1 hy
    rfl
  · cases old with
    | null =>
      obtain rfl := Option.some.inj hold
      cases new with
      | null =>
        obtain rfl := Option.some.inj hnew
        exact absurd rfl hempty
      | array items =>
        obtain rfl := Option.some.inj hnew
        rw [List.length_nil, Nat.max_eq_right (Nat.zero_le _)]
        rfl
      | _ => cases hnew
    | array items =>
      obtain rfl := Option.some.inj hold
      cases new with
      | null =>
        obtain rfl := Option.some.inj hnew
        rw [List.length_nil, Nat.max_eq_left (Nat.zero_le _)]
        rfl
      | array others =>
        obtain rfl := Option.some.inj hnew
        rfl
      | _ => cases hnew
    | _ => cases hold

/-- Two values are of different kinds, or without parts. -/
structure Apart (old new : Json) : Prop where
  object : ∀ a b, old = .object a → new ≠ .object b
  list : old.asList? = none ∨ new.asList? = none

theorem Apart.symm {old new : Json} (h : Apart old new) : Apart new old where
  object a b hnew hold := h.object b a hold hnew
  list := h.list.symm

/-- Values without parts in common are compared as a whole. -/
theorem differencesAt_whole {old new : Json} (h : Apart old new) : differencesAt path old new =
    if old.isEmpty && new.isEmpty then [] else
      if old.equals new then [] else [.value path old new] := by
  obtain ⟨hobject, hlist⟩ := h
  rw [differencesAt.eq_def]
  cases old <;> cases new <;>
    first
      | rfl
      | exact absurd rfl (hobject _ _ rfl)
      | exact absurd hlist (by simp [asList?])

/-- How two values are compared. -/
inductive Layout : Json → Json → Prop
  | fields (a b : List (String × Json)) : Layout (.object a) (.object b)
  | items {old new : Json} {x y : List Json} (hold : old.asList? = some x)
    (hnew : new.asList? = some y) : Layout old new
  | whole {old new : Json} (h : Apart old new) : Layout old new

/-- Two values are compared by their parts if they have parts of the same kind, else as a whole. -/
theorem layout (old new : Json) : Layout old new := by
  cases old <;> cases new <;>
    first
      | exact .fields _ _
      | exact .items rfl rfl
      | exact .whole ⟨nofun, .inl rfl⟩
      | exact .whole ⟨nofun, .inr rfl⟩

theorem sizeOf_items {old new : Json} (hold : old.asList? = some x) (hnew : new.asList? = some y)
    {index : Nat} (hindex : index < max x.length y.length) :
    sizeOf (itemOrNull x index) + sizeOf (itemOrNull y index) < sizeOf old + sizeOf new := by
  have hx := sizeOf_itemOrNull x index
  have hy := sizeOf_itemOrNull y index
  cases old with
  | null =>
    obtain rfl := Option.some.inj hold
    cases new with
    | null =>
      obtain rfl := Option.some.inj hnew
      cases hindex
    | array items =>
      obtain rfl := Option.some.inj hnew
      exact Nat.add_lt_add_left hy _
    | _ => cases hnew
  | array items =>
    obtain rfl := Option.some.inj hold
    cases new with
    | null =>
      obtain rfl := Option.some.inj hnew
      exact Nat.add_lt_add_right hx _
    | array others =>
      obtain rfl := Option.some.inj hnew
      exact Nat.add_lt_add hx hy
    | _ => cases hnew
  | _ => cases hold

/-- What is shown of two values is shown by showing it of their parts, or of the two as a whole if
they are so compared. -/
theorem layout_induction {motive : Json → Json → Prop}
    (fields : ∀ a b, (∀ name, motive (fieldOrNull a name) (fieldOrNull b name)) →
      motive (.object a) (.object b))
    (items : ∀ old new x y, old.asList? = some x → new.asList? = some y →
      (∀ index < max x.length y.length, motive (itemOrNull x index) (itemOrNull y index)) →
      motive old new)
    (whole : ∀ old new, Apart old new → motive old new) (old new : Json) : motive old new := by
  cases layout old new with
  | fields a b =>
    refine fields a b fun name => ?_
    have hlt := Nat.add_lt_add (sizeOf_fieldOrNull a name) (sizeOf_fieldOrNull b name)
    exact layout_induction fields items whole _ _
  | items hold hnew =>
    refine items _ _ _ _ hold hnew fun index hindex => ?_
    have hlt := sizeOf_items hold hnew hindex
    exact layout_induction fields items whole _ _
  | whole h => exact whole old new h
termination_by sizeOf old + sizeOf new
decreasing_by
  all_goals
    subst_vars
    exact hlt

/-! ## No difference -/

/-- Two objects do not differ if none of their fields does. -/
theorem differencesAt_object :
    differencesAt path (.object a) (.object b) = [] ↔
      ∀ name, differencesAt (path ++ [.field name]) (fieldOrNull a name) (fieldOrNull b name) =
        [] := by
  rw [differencesAt_fields, List.flatMap_eq_nil_iff]
  constructor
  · intro h name
    by_cases hname : name ∈ fieldNames a b
    · exact h name hname
    · rw [mem_fieldNames, not_or] at hname
      rw [fieldOrNull_eq_null hname.1, fieldOrNull_eq_null hname.2]
      exact differencesAt_of_isEmpty rfl rfl
  · intro h name _
    exact h name

theorem lengthDifference_eq_nil : lengthDifference path x y = [] ↔ x.length = y.length := by
  rw [lengthDifference]
  split_ifs with h <;> simp [h]

/-- Two lists do not differ if they have the same length and none of their items differs. -/
theorem differencesAt_array :
    differencesAt path (.array x) (.array y) = [] ↔ x.length = y.length ∧
      ∀ index < x.length,
        differencesAt (path ++ [.item index]) (itemOrNull x index) (itemOrNull y index) = [] := by
  rw [differencesAt_items rfl rfl]
  simp only [List.append_eq_nil_iff, lengthDifference_eq_nil, List.flatMap_eq_nil_iff,
    List.mem_range]
  apply and_congr_right
  intro hlen
  rw [hlen, Nat.max_self]

/-- Whether values differ does not depend on where they stand. -/
theorem differencesAt_eq_nil_iff {old new : Json} :
    differencesAt path old new = [] ↔ old.differences new = [] := by
  suffices h : ∀ p q : Path, differencesAt p old new = [] → differencesAt q old new = [] from
    ⟨h path [], h [] path⟩
  induction old, new using layout_induction with
  | fields a b ih =>
    intro p q hp
    rw [differencesAt_object] at hp ⊢
    exact fun name => ih name _ _ (hp name)
  | items old new x y hold hnew ih =>
    intro p q hp
    rw [differencesAt_items hold hnew, List.append_eq_nil_iff, lengthDifference_eq_nil,
      List.flatMap_eq_nil_iff] at hp ⊢
    exact ⟨hp.1, fun index hm => ih index (List.mem_range.1 hm) _ _ (hp.2 index hm)⟩
  | whole old new h =>
    intro p q hp
    rw [differencesAt_whole h] at hp ⊢
    split_ifs at hp ⊢ <;> rfl

/-- No value differs from itself. -/
theorem differencesAt_self (path : Path) (value : Json) : differencesAt path value value = [] := by
  suffices h : ∀ old new : Json, old = new → ∀ path, differencesAt path old new = [] from
    h value value rfl path
  intro old new
  induction old, new using layout_induction with
  | fields a b ih =>
    intro heq path
    obtain rfl := Json.object.inj heq
    rw [differencesAt_object]
    exact fun name => ih name rfl _
  | items old new x y hold hnew ih =>
    rintro rfl path
    obtain rfl : x = y := Option.some.inj (hold.symm.trans hnew)
    rw [differencesAt_items hold hnew, lengthDifference, if_pos rfl, List.nil_append,
      List.flatMap_eq_nil_iff]
    intro index hindex
    exact ih index (List.mem_range.1 hindex) rfl _
  | whole old new h =>
    rintro rfl path
    rw [differencesAt_whole h, if_pos (equals_self old), ite_self]

/-! ## Atoms -/

theorem apart_of_isAtom {other : Json} (h : value.isAtom = true) : Apart value other := by
  cases value <;> first | exact absurd h Bool.false_ne_true | exact ⟨nofun, .inl rfl⟩

theorem equals_of_isAtom {other : Json} (h : value.isAtom = true) :
    value.equals other = decide (value = other) := by
  refine equals_eq_decide fun x y hx => ?_
  subst hx
  cases h

/-- An atom is compared as a whole with whatever comes in its place. -/
theorem differencesAt_atom_left {other : Json} (h : value.isAtom = true) :
    differencesAt path value other = if value = other then [] else [.value path value other] := by
  rw [differencesAt_whole (apart_of_isAtom h), isEmpty_of_isAtom h, Bool.false_and,
    if_neg Bool.false_ne_true, equals_of_isAtom h]
  exact if_congr decide_eq_true_iff rfl rfl

/-- So it is with whatever was there. -/
theorem differencesAt_atom_right {other : Json} (h : value.isAtom = true) :
    differencesAt path other value = if other = value then [] else [.value path other value] := by
  rw [differencesAt_whole (apart_of_isAtom h).symm, isEmpty_of_isAtom h, Bool.and_false,
    if_neg Bool.false_ne_true, equals_comm, equals_of_isAtom h]
  exact if_congr (decide_eq_true_iff.trans eq_comm) rfl rfl

end Json

/-! ## Outcomes -/

/-- Things that may be absent are compared by a form that those which are present are compared
by. -/
theorem Comparison.isEqual_ofOptions {α β : Type} {compare : α → α → List Difference}
    {form : α → β} (h : ∀ a b, compare a b = [] ↔ form a = form b) (old new : Option α) :
    (ofOptions compare old new).isEqual = true ↔ old.map form = new.map form := by
  cases old with
  | none => cases new <;> simp [ofOptions, isEqual]
  | some old =>
    cases new with
    | none => simp [ofOptions, isEqual]
    | some new =>
      show (compare old new).isEmpty = true ↔ some (form old) = some (form new)
      rw [List.isEmpty_iff, h, Option.some.injEq]

end RoleDiscovery
