import RoleDiscovery.Proofs.Json.Parser

/-!
# Values in canonical form

Fields are put in the order of their names without a change to what is found under a name, and the
text of a value says what the value is, wherever it stands.

Results:

* `Json.lookup_canonicalFields`, `Json.canonicalItems_eq`: the parts of a value in canonical form.
* `Json.kept_canonical`, `Json.Kept.weaken`: what is kept of a value, in canonical form and without
  a shape.
* `Json.compact_append_inj`: two texts with the values at their start show the same value.
-/

namespace RoleDiscovery.Json

/-! ## Parts -/

theorem canonicalItems_eq (items : List Json) : canonicalItems items = items.map canonical := by
  induction items with
  | nil => rfl
  | cons item items ih => rw [canonicalItems, ih, List.map_cons]

/-- A field is found where there is none of its name. -/
theorem lookup_insertField (name key : String) (value : Json) (fields : List (String × Json)) :
    lookup name (insertField key value fields) =
      (lookup name fields <|> if key = name then some value else none) := by
  induction fields with
  | nil => rfl
  | cons field fields ih =>
    obtain ⟨other, current⟩ := field
    rw [insertField]
    by_cases hlt : key < other
    · rw [if_pos hlt]
      rfl
    rw [if_neg hlt]
    by_cases heq : key = other
    · subst heq
      rw [if_pos rfl, lookup]
      cases lookup name fields <;> by_cases hname : key = name <;> simp [hname]
    rw [if_neg heq, lookup, ih, lookup]
    cases lookup name fields with
    | some found => rfl
    | none =>
      by_cases hkey : key = name
      · have hother : other ≠ name := fun h => heq (hkey.trans h.symm)
        simp [hkey, hother]
      · simp [hkey]

theorem lookup_canonicalFields (name : String) (fields : List (String × Json)) :
    lookup name (canonicalFields fields) = (lookup name fields).map canonical := by
  induction fields with
  | nil => rfl
  | cons field fields ih =>
    obtain ⟨key, value⟩ := field
    rw [canonicalFields, lookup_insertField, ih, lookup]
    cases lookup name fields with
    | some found => rfl
    | none => by_cases hkey : key = name <;> simp [hkey]

/-! ## What is kept -/

theorem keptFields_insertField {shape : Option Shape} {depth : Nat} {key : String} {value : Json}
    {fields : List (String × Json)} (hfield : KeptFields shape depth [(key, value)])
    (h : KeptFields shape depth fields) :
    KeptFields shape depth (insertField key value fields) := by
  induction fields with
  | nil => exact hfield
  | cons field fields ih =>
    obtain ⟨other, current⟩ := field
    rw [insertField]
    split_ifs
    · exact ⟨hfield.1, h⟩
    · exact h
    · exact ⟨h.1, ih h.2⟩

mutual

/-- What is kept of a value is kept of it in canonical form. -/
theorem kept_canonical {shape : Option Shape} {depth : Nat} :
    ∀ {value : Json}, Kept shape depth value → Kept shape depth value.canonical
  | .null, h | .bool _, h | .int _, h | .decimal _, h | .text _, h => h
  | .array _, h => ⟨h.1, keptItems_canonical h.2⟩
  | .object _, h => ⟨h.1, keptFields_canonical h.2⟩

theorem keptItems_canonical {shape : Option Shape} {depth place : Nat} :
    ∀ {items : List Json}, KeptItems shape depth place items →
      KeptItems shape depth place (canonicalItems items)
  | [], h => h
  | _ :: _, h => ⟨kept_canonical h.1, keptItems_canonical h.2⟩

theorem keptFields_canonical {shape : Option Shape} {depth : Nat} :
    ∀ {fields : List (String × Json)}, KeptFields shape depth fields →
      KeptFields shape depth (canonicalFields fields)
  | [], h => h
  | (_, _) :: _, ⟨⟨read, huse, hvalue⟩, hfields⟩ =>
    keptFields_insertField ⟨⟨read, huse, kept_canonical hvalue⟩, trivial⟩
      (keptFields_canonical hfields)

end

mutual

/-- What is kept by a reader that knows a shape is kept by one that takes everything, and by one
that allows for more levels. -/
theorem Kept.weaken {shape other : Option Shape} {depth more : Nat}
    (hshape : other = shape ∨ other = none) (hle : depth ≤ more) :
    ∀ {value : Json}, Kept shape depth value → Kept other more value
  | .null, _ | .bool _, _ | .text _, _ => by simp [Kept]
  | .int _, h | .decimal _, h => h
  | .array _, h =>
    ⟨Nat.lt_of_lt_of_le h.1 hle, h.2.weaken hshape (Nat.sub_le_sub_right hle 1)⟩
  | .object _, h =>
    ⟨Nat.lt_of_lt_of_le h.1 hle, h.2.weaken hshape (Nat.sub_le_sub_right hle 1)⟩

theorem KeptItems.weaken {shape other : Option Shape} {depth more place : Nat}
    (hshape : other = shape ∨ other = none) (hle : depth ≤ more) :
    ∀ {items : List Json}, KeptItems shape depth place items → KeptItems other more place items
  | [], _ => trivial
  | _ :: _, h => by
    refine ⟨h.1.weaken ?_ hle, h.2.weaken hshape hle⟩
    rcases hshape with rfl | rfl
    · exact .inl rfl
    · exact .inr rfl

theorem KeptFields.weaken {shape other : Option Shape} {depth more : Nat}
    (hshape : other = shape ∨ other = none) (hle : depth ≤ more) :
    ∀ {fields : List (String × Json)}, KeptFields shape depth fields →
      KeptFields other more fields
  | [], _ => trivial
  | (_, _) :: _, ⟨⟨read, huse, hvalue⟩, hfields⟩ => by
    refine ⟨?_, hfields.weaken hshape hle⟩
    rcases hshape with rfl | rfl
    · exact ⟨read, huse, hvalue.weaken (.inl rfl) hle⟩
    · exact ⟨none, rfl, hvalue.weaken (.inr rfl) hle⟩

end

/-! ## Texts -/

/-- Two texts that start with values, which end there, are the same only if the values and the rests
are. -/
theorem compact_append_inj {depth : Nat} {u v : Json} {r s : List Char} (hu : Kept none depth u)
    (hv : Kept none depth v) (hr : Delimited r) (hs : Delimited s)
    (h : u.compact.toList ++ r = v.compact.toList ++ s) : u = v ∧ r = s := by
  have hmax := reads (2 * u.compact.toList.length + 2 * v.compact.toList.length)
  have hleft := hmax.value? hu hr (Nat.le_add_right _ _)
  have hright := hmax.value? hv hs (Nat.le_add_left _ _)
  rw [h, hright, Option.some.injEq, Prod.mk.injEq] at hleft
  exact ⟨hleft.1.symm, hleft.2.symm⟩

end RoleDiscovery.Json
