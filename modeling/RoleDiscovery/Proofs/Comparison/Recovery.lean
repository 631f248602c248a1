import RoleDiscovery.Proofs.Comparison.Codec
import RoleDiscovery.Proofs.Comparison.Place
import RoleDiscovery.Proofs.Json.Canonical

/-!
# What the differences from a value tell

Two values that differ in the same way from one and the same value can hardly be told apart: the
differences show what they do in canonical form, and null for an empty collection is not shown at
all. What can still be told apart is enough for the types that are compared exactly.

Results:

* `Difference.canonical`: a difference as it is shown.
* `Json.Indistinct`: values that differ in the same way from some value.
* `Json.discerning_indistinct`: this is a discerning relation.
* `Codec.Exact.eq_of_shownAt`: a value of an exact codec is known by its differences from another.
-/

namespace RoleDiscovery

/-- A difference as it is shown: with both values in canonical form. -/
def Difference.canonical : Difference → Difference
  | .value path old new => .value path old.canonical new.canonical
  | .oldAbsent => .oldAbsent
  | .newAbsent => .newAbsent
  | .length path old new => .length path old new

@[simp] theorem Difference.place_canonical (d : Difference) : d.canonical.place = d.place := by
  cases d <;> rfl

namespace Json

variable {path : Path} {old u v : Json} {x y : List Json} {a b : List (String × Json)}

/-! ## Canonical forms -/

theorem canonical_fieldOrNull (fields : List (String × Json)) (name : String) :
    fieldOrNull (canonicalFields fields) name = (fieldOrNull fields name).canonical := by
  rw [fieldOrNull, lookup_canonicalFields, fieldOrNull]
  cases lookup name fields <;> rfl

theorem canonical_itemOrNull (items : List Json) (index : Nat) :
    itemOrNull (canonicalItems items) index = (itemOrNull items index).canonical := by
  rw [itemOrNull, canonicalItems_eq, List.getElem?_map, itemOrNull]
  cases items[index]? <;> rfl

theorem isAtom_canonical : u.canonical.isAtom = u.isAtom := by
  cases u <;> rfl

theorem canonical_of_isAtom (h : u.isAtom = true) : u.canonical = u := by
  cases u <;> first | rfl | exact absurd h Bool.false_ne_true

/-- Values are discerned by their canonical forms. -/
theorem discerning_canonical : Discerning fun u v => u.canonical = v.canonical where
  atom_left {u v} hu h := by
    have hv : v.isAtom = true := by rwa [← isAtom_canonical, ← h, isAtom_canonical]
    rwa [canonical_of_isAtom hu, canonical_of_isAtom hv] at h
  atom_right {u v} hv h := by
    have hu : u.isAtom = true := by rwa [← isAtom_canonical, h, isAtom_canonical]
    rwa [canonical_of_isAtom hu, canonical_of_isAtom hv] at h
  field {x y} h name := by
    have hfields : canonicalFields x = canonicalFields y := Json.object.inj h
    rw [← canonical_fieldOrNull, ← canonical_fieldOrNull, hfields]
  length {x y} h := by
    have hitems : canonicalItems x = canonicalItems y := Json.array.inj h
    rw [canonicalItems_eq, canonicalItems_eq] at hitems
    simpa using congrArg List.length hitems
  item {x y} h index _ := by
    have hitems : canonicalItems x = canonicalItems y := Json.array.inj h
    rw [← canonical_itemOrNull, ← canonical_itemOrNull, hitems]

/-! ## Differences that are shown -/

/-- The differences of two values as they are shown. -/
def shownAt (path : Path) (old new : Json) : List Difference :=
  (differencesAt path old new).map Difference.canonical

/-- How a difference is shown does not matter to a test for its place. -/
theorem filter_shownAt {test : Difference → Bool} (h : ∀ d, test d.canonical = test d) :
    (shownAt path old u).filter test =
      ((differencesAt path old u).filter test).map Difference.canonical := by
  rw [shownAt, List.filter_map]
  congr 1
  exact List.filter_congr fun d _ => h d

theorem within_canonical (path : Path) (d : Difference) :
    within path d.canonical = within path d := by
  rw [within, Difference.place_canonical, within]

theorem shown_within_field (name : String) :
    (shownAt path (.object a) (.object b)).filter (within (path ++ [.field name])) =
      shownAt (path ++ [.field name]) (fieldOrNull a name) (fieldOrNull b name) := by
  rw [filter_shownAt (within_canonical _), differences_within_field]
  rfl

theorem shown_within_item (hold : old.asList? = some x) (hu : u.asList? = some y) (index : Nat) :
    (shownAt path old u).filter (within (path ++ [.item index])) =
      shownAt (path ++ [.item index]) (itemOrNull x index) (itemOrNull y index) := by
  rw [filter_shownAt (within_canonical _), differences_within_item hold hu]
  rfl

theorem shown_at_list (hold : old.asList? = some x) (hu : u.asList? = some y) :
    (shownAt path old u).filter (fun d => d.place = path) =
      (lengthDifference path x y).map Difference.canonical := by
  rw [filter_shownAt fun d => by rw [Difference.place_canonical], differences_at_list hold hu]

/-- Two values of a kind are shown in full next to one of another kind, unless all are empty. -/
theorem canonical_eq_of_whole (hu : Apart old u) (hv : Apart old v) (hnu : ¬ old.equals u)
    (hnv : ¬ old.equals v) (h : shownAt path old u = shownAt path old v) :
    (u.isEmpty = true ∧ v.isEmpty = true) ∨ u.canonical = v.canonical := by
  rw [shownAt, shownAt, differencesAt_whole hu, differencesAt_whole hv, if_neg hnu, if_neg hnv] at h
  split_ifs at h with hempty hempty' hempty'
  · rw [Bool.and_eq_true] at hempty hempty'
    exact .inl ⟨hempty.2, hempty'.2⟩
  · cases h
  · cases h
  · simp only [List.map_cons, Difference.canonical, List.cons.injEq, Difference.value.injEq] at h
    exact .inr h.1.2.2

/-! ## Values that cannot be told apart -/

/-- Two values that are the same in canonical form, or that are shown to differ in the same way from
some value. -/
def Indistinct (u v : Json) : Prop :=
  u.canonical = v.canonical ∨ ∃ path old, shownAt path old u = shownAt path old v

theorem Indistinct.symm (h : Indistinct u v) : Indistinct v u := by
  rcases h with h | ⟨path, old, h⟩
  · exact .inl h.symm
  · exact .inr ⟨path, old, h.symm⟩

/-- An atom is shown in full, if it is shown at all. -/
theorem Indistinct.eq_of_isAtom (hu : u.isAtom = true) (h : Indistinct u v) : u = v := by
  rcases h with h | ⟨path, old, h⟩
  · exact discerning_canonical.atom_left hu h
  · by_cases heq : old = u
    · subst heq
      rw [shownAt, differencesAt_self] at h
      have hsame : differencesAt path old v = [] := List.map_eq_nil_iff.1 h.symm
      exact discerning_differences.atom_left hu (differencesAt_eq_nil_iff.1 hsame)
    -- the atom is shown as the new value, and no other value is shown at its place
    · have hshown : .value path old.canonical u.canonical ∈ shownAt path old v := by
        rw [← h, shownAt, differencesAt_atom_right hu, if_neg heq]
        exact List.mem_singleton_self _
      obtain ⟨d, hd, hcanonical⟩ := List.mem_map.1 hshown
      have hplace := congrArg Difference.place hcanonical
      rw [Difference.place_canonical] at hplace
      cases tells_of_place hd hplace with
      | value _ _ =>
        refine discerning_canonical.atom_left hu ?_
        injection hcanonical with _ _ hnew
        exact hnew.symm
      | length _ _ _ => cases hcanonical

theorem Indistinct.objects (h : Indistinct (.object a) (.object b)) :
    (object a).canonical = (object b).canonical ∨
      ∃ path o, shownAt path (.object o) (.object a) = shownAt path (.object o) (.object b) := by
  rcases h with h | ⟨path, old, h⟩
  · exact .inl h
  by_cases hold : ∃ o, old = .object o
  · obtain ⟨o, rfl⟩ := hold
    exact .inr ⟨path, o, h⟩
  · rw [not_exists] at hold
    have hapart : ∀ c, Apart old (.object c) := fun _ =>
      ⟨fun o _ ho => absurd ho (hold o), .inr rfl⟩
    have hne : ∀ c, ¬ old.equals (.object c) := fun c hc =>
      hold c (eq_of_equals (fun _ => nofun) hc)
    rcases canonical_eq_of_whole (hapart a) (hapart b) (hne a) (hne b) h with ⟨ha, hb⟩ | heq
    · obtain rfl : a = [] := List.isEmpty_iff.1 ha
      obtain rfl : b = [] := List.isEmpty_iff.1 hb
      exact .inl rfl
    · exact .inl heq

theorem Indistinct.arrays (h : Indistinct (.array x) (.array y)) :
    (array x).canonical = (array y).canonical ∨ ∃ path old o, old.asList? = some o ∧
      shownAt path old (.array x) = shownAt path old (.array y) := by
  rcases h with h | ⟨path, old, h⟩
  · exact .inl h
  cases hold : old.asList? with
  | some o => exact .inr ⟨path, old, o, hold, h⟩
  | none =>
    have hapart : ∀ items, Apart old (.array items) := fun _ => ⟨fun _ _ _ => nofun, .inl hold⟩
    have hne : ∀ items, ¬ old.equals (.array items) := by
      intro items heq
      have hitems : old = .array items := eq_of_equals (fun _ => nofun) heq
      rw [hitems] at hold
      cases hold
    rcases canonical_eq_of_whole (hapart x) (hapart y) (hne x) (hne y) h with ⟨hx, hy⟩ | heq
    · obtain rfl : x = [] := List.isEmpty_iff.1 hx
      obtain rfl : y = [] := List.isEmpty_iff.1 hy
      exact .inl rfl
    · exact .inl heq

theorem length_eq_of_lengthDifference {o : List Json}
    (h : (lengthDifference path o x).map Difference.canonical =
      (lengthDifference path o y).map Difference.canonical) : x.length = y.length := by
  rw [lengthDifference, lengthDifference] at h
  split_ifs at h with hx hy hy
  · exact hx.symm.trans hy
  · cases h
  · cases h
  · simp only [List.map_cons, Difference.canonical, List.cons.injEq, Difference.length.injEq] at h
    exact h.1.2.2

/-- The differences from one value show enough of another one to discern it. -/
theorem discerning_indistinct : Discerning Indistinct where
  atom_left := Indistinct.eq_of_isAtom
  atom_right hv h := (h.symm.eq_of_isAtom hv).symm
  field h name := by
    rcases h.objects with h | ⟨path, o, h⟩
    · exact .inl (discerning_canonical.field h name)
    · refine .inr ⟨path ++ [.field name], fieldOrNull o name, ?_⟩
      rw [← shown_within_field, ← shown_within_field, h]
  length h := by
    rcases h.arrays with h | ⟨path, old, o, hold, h⟩
    · exact discerning_canonical.length h
    · have hlength := congrArg (List.filter fun d => d.place = path) h
      rw [shown_at_list hold rfl, shown_at_list hold rfl] at hlength
      exact length_eq_of_lengthDifference hlength
  item h index hindex := by
    rcases h.arrays with h | ⟨path, old, o, hold, h⟩
    · exact .inl (discerning_canonical.item h index hindex)
    · refine .inr ⟨path ++ [.item index], itemOrNull o index, ?_⟩
      rw [← shown_within_item (u := .array _) hold rfl,
        ← shown_within_item (u := .array _) hold rfl, h]

end Json

/-- Two values of an exact codec are the same if they are shown to differ in the same way from some
value. -/
theorem Codec.Exact.eq_of_shownAt {α : Type} {codec : Codec α} (h : codec.Exact) {path : Path}
    {old : Json} {a b : α}
    (hab : Json.shownAt path old (codec.encode a) = Json.shownAt path old (codec.encode b)) :
    a = b :=
  h.eq_of_rel Json.discerning_indistinct (.inr ⟨path, old, hab⟩)

end RoleDiscovery
