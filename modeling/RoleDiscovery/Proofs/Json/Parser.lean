import RoleDiscovery.Proofs.Json.Scalar

/-!
# JSON texts read back

The compact text of a value is read as the value, if the reader knows all its fields, the numbers in
it are whole and have 64 bits, and it does not nest too deep.

Results:

* `Json.Kept`: nothing gets lost when the text of a value is read; this is decidable.
* `Json.reads`: a text is read up to what follows it.
* `Json.read?_compact`: a whole text is read.
* `Json.read?_leading`: texts in front of the fields of an object are passed over, if their fields
  are not known.
-/

namespace RoleDiscovery.Json

/-! ## What is kept -/

mutual

/-- Read by a shape, nothing of a value gets lost: its fields are known, its numbers are whole and
exact, and fewer than `depth` levels open in it. -/
def Kept : Option Shape → Nat → Json → Prop
  | _, _, .null | _, _, .bool _ | _, _, .text _ => True
  | _, _, .int n => IsExact n
  | _, _, .decimal _ => False
  | shape, depth, .array items => 1 < depth ∧ KeptItems shape (depth - 1) 0 items
  | shape, depth, .object fields => 1 < depth ∧ KeptFields shape (depth - 1) fields

/-- Nothing of the items of a list of a shape gets lost, from a place on. -/
def KeptItems : Option Shape → Nat → Nat → List Json → Prop
  | _, _, _, [] => True
  | shape, depth, place, item :: rest =>
    Kept (shape.bind (·.itemAt? place)) depth item ∧ KeptItems shape depth (place + 1) rest

/-- Nothing of the fields of an object of a shape gets lost. -/
def KeptFields : Option Shape → Nat → List (String × Json) → Prop
  | _, _, [] => True
  | shape, depth, (key, value) :: rest =>
    (∃ read, shape.elim (.read none) (·.use key) = .read read ∧ Kept read depth value) ∧
      KeptFields shape depth rest

end

mutual

/-- Decides whether nothing of a value gets lost. -/
def decideKept (shape : Option Shape) (depth : Nat) :
    (value : Json) → Decidable (Kept shape depth value)
  | .null | .bool _ | .text _ => .isTrue (by simp [Kept])
  | .int n => decidable_of_iff (IsExact n) (by rw [Kept])
  | .decimal _ => .isFalse (by simp [Kept])
  | .array items =>
    have := decideKeptItems shape (depth - 1) 0 items
    decidable_of_iff (1 < depth ∧ KeptItems shape (depth - 1) 0 items) (by rw [Kept])
  | .object fields =>
    have := decideKeptFields shape (depth - 1) fields
    decidable_of_iff (1 < depth ∧ KeptFields shape (depth - 1) fields) (by rw [Kept])

/-- Decides whether nothing of the items of a list gets lost. -/
def decideKeptItems (shape : Option Shape) (depth place : Nat) :
    (items : List Json) → Decidable (KeptItems shape depth place items)
  | [] => .isTrue (by simp [KeptItems])
  | item :: rest =>
    have := decideKept (shape.bind (·.itemAt? place)) depth item
    have := decideKeptItems shape depth (place + 1) rest
    decidable_of_iff (Kept (shape.bind (·.itemAt? place)) depth item ∧
      KeptItems shape depth (place + 1) rest) (by rw [KeptItems])

/-- Decides whether nothing of the fields of an object gets lost. -/
def decideKeptFields (shape : Option Shape) (depth : Nat) :
    (fields : List (String × Json)) → Decidable (KeptFields shape depth fields)
  | [] => .isTrue (by simp [KeptFields])
  | (key, value) :: rest =>
    match huse : shape.elim (.read none) (·.use key) with
    | .skipped => .isFalse (by simp [KeptFields, huse])
    | .read inner =>
      have := decideKept inner depth value
      have := decideKeptFields shape depth rest
      decidable_of_iff (Kept inner depth value ∧ KeptFields shape depth rest)
        (by simp [KeptFields, huse])

end

instance (shape : Option Shape) (depth : Nat) (value : Json) : Decidable (Kept shape depth value) :=
  decideKept shape depth value

section

variable {c : Char} {cs : List Char}

theorem skipBlanks_cons (h : isBlank c = false) : skipBlanks (c :: cs) = c :: cs :=
  List.dropWhile_cons_of_neg (by simp [h])

theorem ne_of_isDigit {d : Char} (hc : c.isDigit = true) (hd : d.isDigit = false) : c ≠ d := by
  rintro rfl
  rw [hc] at hd
  cases hd

theorem isBlank_of_isDigit (hc : c.isDigit = true) : isBlank c = false := by
  simp [isBlank, ne_of_isDigit hc]

end

/-! ## What is written -/

theorem toList_quoted (s : String) (rest : List Char) :
    (quoted s).toList ++ rest = '"' :: (s.toList.flatMap escaped ++ '"' :: rest) := by
  rw [quoted, String.toList_ofList, List.append_assoc]
  rfl

/-- The text between the brackets of a list. -/
def itemsText (items : List Json) : List Char :=
  (",".intercalate (compactItems items)).toList

/-- The text between the braces of an object. -/
def fieldsText (fields : List (String × Json)) : List Char :=
  (",".intercalate (compactFields fields)).toList

theorem toList_compact_array (items : List Json) :
    (array items).compact.toList = '[' :: (itemsText items ++ [']']) := by
  simp [compact, itemsText]

theorem toList_compact_object (fields : List (String × Json)) :
    (object fields).compact.toList = '\x7b' :: (fieldsText fields ++ ['\x7d']) := by
  simp [compact, fieldsText]

theorem itemsText_singleton (item : Json) : itemsText [item] = item.compact.toList := by
  simp [itemsText, compactItems]

theorem itemsText_cons_cons (item next : Json) (items : List Json) :
    itemsText (item :: next :: items) =
      item.compact.toList ++ ',' :: itemsText (next :: items) := by
  simp [itemsText, compactItems, String.toList_intercalate]

theorem fieldsText_singleton (key : String) (value : Json) :
    fieldsText [(key, value)] = (quoted key).toList ++ ':' :: value.compact.toList := by
  simp [fieldsText, compactFields]

theorem fieldsText_cons (key : String) (value : Json) {fields : List (String × Json)}
    (h : fields ≠ []) :
    fieldsText ((key, value) :: fields) =
      (quoted key).toList ++ ':' :: (value.compact.toList ++ ',' :: fieldsText fields) := by
  cases fields with
  | nil => exact absurd rfl h
  | cons next fields => simp [fieldsText, compactFields, String.toList_intercalate]

/-- The text of a value starts with a character that is no blank and closes nothing. -/
theorem head_compact {shape : Option Shape} {depth : Nat} {value : Json}
    (h : Kept shape depth value) :
    ∃ c cs, value.compact.toList = c :: cs ∧ isBlank c = false ∧ c ≠ ']' := by
  cases value with
  | null => exact ⟨'n', ['u', 'l', 'l'], by simp [compact], rfl, by decide⟩
  | bool value =>
    cases value with
    | false => exact ⟨'f', ['a', 'l', 's', 'e'], by simp [compact], rfl, by decide⟩
    | true => exact ⟨'t', ['r', 'u', 'e'], by simp [compact], rfl, by decide⟩
  | int n =>
    rw [compact, Text.toList_toString_int]
    split
    · obtain ⟨c, cs, hcs, hc⟩ := Text.head_toDigits_isDigit n.natAbs
      exact ⟨c, cs, hcs, isBlank_of_isDigit hc, ne_of_isDigit hc rfl⟩
    · exact ⟨'-', _, rfl, rfl, by decide⟩
  | decimal _ => exact absurd h (by simp [Kept])
  | text s =>
    exact ⟨'"', s.toList.flatMap escaped ++ ['"'], by simp [compact, quoted], rfl, by decide⟩
  | array items => exact ⟨'[', _, toList_compact_array items, rfl, by decide⟩
  | object fields => exact ⟨'\x7b', _, toList_compact_object fields, rfl, by decide⟩

/-- So does the text of items. -/
theorem head_itemsText {shape : Option Shape} {depth : Nat} {item : Json} (items : List Json)
    (h : Kept shape depth item) :
    ∃ c cs, itemsText (item :: items) = c :: cs ∧ isBlank c = false ∧ c ≠ ']' := by
  obtain ⟨c, cs, hcs, hc⟩ := head_compact h
  cases items with
  | nil => exact ⟨c, cs, (itemsText_singleton item).trans hcs, hc⟩
  | cons next items =>
    rw [itemsText_cons_cons, hcs, List.cons_append]
    exact ⟨c, _, rfl, hc⟩

/-- The text of fields starts with the quote of a name. -/
theorem head_fieldsText {fields : List (String × Json)} (h : fields ≠ []) :
    ∃ cs, fieldsText fields = '"' :: cs := by
  match fields with
  | [] => exact absurd rfl h
  | [(key, value)] =>
    rw [fieldsText_singleton, toList_quoted]
    exact ⟨_, rfl⟩
  | (key, value) :: next :: fields =>
    rw [fieldsText_cons key value (List.cons_ne_nil next fields), toList_quoted]
    exact ⟨_, rfl⟩

/-! ## Single steps -/

section

variable {c : Char} {cs next rest : List Char} {fuel depth place : Nat} {shape read : Option Shape}
  {key : String} {item value : Json} {items : List Json} {fields : List (String × Json)}

theorem value?_digit (hc : c.isDigit = true) :
    value? (fuel + 1) depth shape (c :: cs) = number? false (c :: cs) := by
  have hne (d : Char) (hd : d.isDigit = false) : c ≠ d := ne_of_isDigit hc hd
  rw [value?, skipBlanks_cons (isBlank_of_isDigit hc)]
  simp [hne]

theorem value?_array (hd : 1 < depth) (hkept : KeptItems shape (depth - 1) 0 (item :: items))
    (h : items? fuel (depth - 1) shape 0 (itemsText (item :: items) ++ ']' :: rest) =
      some (item :: items, rest)) :
    value? (fuel + 1) depth shape ((array (item :: items)).compact.toList ++ rest) =
      some (.array (item :: items), rest) := by
  rw [KeptItems] at hkept
  obtain ⟨c, cs, hcs, hblank, hne⟩ := head_itemsText items hkept.1
  rw [toList_compact_array, List.cons_append, List.append_assoc, List.singleton_append]
  rw [hcs, List.cons_append] at h ⊢
  rw [value?, skipBlanks_cons rfl]
  simp [skipBlanks_cons hblank, Nat.not_le_of_lt hd, hne, h]

theorem value?_object {written : List (String × Json)} (hd : 1 < depth) (hne : written ≠ [])
    (h : fields? fuel (depth - 1) shape (fieldsText written ++ '\x7d' :: rest) =
      some (fields, rest)) :
    value? (fuel + 1) depth shape ((object written).compact.toList ++ rest) =
      some (.object fields, rest) := by
  obtain ⟨cs, hcs⟩ := head_fieldsText hne
  rw [toList_compact_object, List.cons_append, List.append_assoc, List.singleton_append]
  rw [hcs, List.cons_append] at h ⊢
  rw [value?, skipBlanks_cons rfl]
  simp [skipBlanks_cons, isBlank, Nat.not_le_of_lt hd, h]

theorem items?_last
    (h : value? fuel depth (shape.bind (·.itemAt? place)) cs = some (item, ']' :: rest)) :
    items? (fuel + 1) depth shape place cs = some ([item], rest) := by
  rw [items?, h]
  simp [skipBlanks_cons, isBlank]

theorem items?_comma
    (h : value? fuel depth (shape.bind (·.itemAt? place)) cs = some (item, ',' :: next))
    (hnext : items? fuel depth shape (place + 1) next = some (items, rest)) :
    items? (fuel + 1) depth shape place cs = some (item :: items, rest) := by
  rw [items?, h]
  simp [skipBlanks_cons, isBlank, hnext]

theorem fields?_last (huse : shape.elim (.read none) (·.use key) = .read read)
    (h : value? fuel depth read cs = some (value, '\x7d' :: rest)) :
    fields? (fuel + 1) depth shape ((quoted key).toList ++ ':' :: cs) =
      some ([(key, value)], rest) := by
  rw [toList_quoted, fields?, skipBlanks_cons rfl]
  simp [text?_quoted, skipBlanks_cons, isBlank, huse, h]

theorem fields?_comma (huse : shape.elim (.read none) (·.use key) = .read read)
    (h : value? fuel depth read cs = some (value, ',' :: next))
    (hnext : fields? fuel depth shape next = some (fields, rest)) :
    fields? (fuel + 1) depth shape ((quoted key).toList ++ ':' :: cs) =
      some ((key, value) :: fields, rest) := by
  rw [toList_quoted, fields?, skipBlanks_cons rfl]
  simp [text?_quoted, skipBlanks_cons, isBlank, huse, h, hnext]

theorem fields?_skipped (huse : shape.elim (.read none) (·.use key) = .skipped)
    (h : skip? fuel cs = some (',' :: next))
    (hnext : fields? fuel depth shape next = some (fields, rest)) :
    fields? (fuel + 1) depth shape ((quoted key).toList ++ ':' :: cs) = some (fields, rest) := by
  rw [toList_quoted, fields?, skipBlanks_cons rfl]
  simp [text?_quoted, skipBlanks_cons, isBlank, huse, h, hnext]

end

/-! ## What follows -/

theorem delimited_nil : Delimited [] :=
  nofun

theorem delimited_cons {c : Char} (h : c ∈ delimiters) (cs : List Char) : Delimited (c :: cs) := by
  rintro d ⟨⟩
  exact h

theorem delimited_comma (cs : List Char) : Delimited (',' :: cs) :=
  delimited_cons (by decide) cs

theorem delimited_bracket (cs : List Char) : Delimited (']' :: cs) :=
  delimited_cons (by decide) cs

theorem delimited_brace (cs : List Char) : Delimited ('\x7d' :: cs) :=
  delimited_cons (by decide) cs

/-! ## Values -/

theorem value?_int {n : Int} {fuel depth : Nat} {shape : Option Shape} {rest : List Char}
    (h : IsExact n) (hrest : Delimited rest) :
    value? (fuel + 1) depth shape ((toString n).toList ++ rest) = some (.int n, rest) := by
  rw [Text.toList_toString_int]
  split_ifs with hn
  · have hlt : n.natAbs < UInt64.size := by
      have := h.2
      omega
    obtain ⟨c, cs, hcs, hc⟩ := Text.head_toDigits_isDigit n.natAbs
    rw [hcs, List.cons_append, value?_digit hc, ← List.cons_append, ← hcs,
      number?_toDigits hlt hrest, Int.natAbs_of_nonneg hn]
  · have hneg : -(n.natAbs : Int) = n := by omega
    have hmin : Int64.minValue.toInt ≤ -(n.natAbs : Int) := by
      rw [hneg]
      exact h.1
    rw [List.cons_append, value?, skipBlanks_cons rfl]
    show number? true (Nat.toDigits 10 n.natAbs ++ rest) = _
    rw [number?_negated (by omega) hmin hrest, hneg]

/-- With some fuel, a text is read as the value that it was written for, if it is short enough for
the fuel; so are the items of a list and the fields of an object. Twice the length is enough: there
are two steps from a list or an object down to its first part, and two brackets around the parts. -/
structure Reads (fuel : Nat) : Prop where
  value? {shape : Option Shape} {depth : Nat} {value : Json} {rest : List Char} :
    Kept shape depth value → Delimited rest → 2 * value.compact.toList.length ≤ fuel →
    value? fuel depth shape (value.compact.toList ++ rest) = some (value, rest)
  items? {shape : Option Shape} {depth place : Nat} {item : Json} {items : List Json}
    {rest : List Char} :
    KeptItems shape depth place (item :: items) →
    2 * (itemsText (item :: items)).length < fuel →
    items? fuel depth shape place (itemsText (item :: items) ++ ']' :: rest) =
      some (item :: items, rest)
  fields? {shape : Option Shape} {depth : Nat} {field : String × Json}
    {fields : List (String × Json)} {rest : List Char} :
    KeptFields shape depth (field :: fields) →
    2 * (fieldsText (field :: fields)).length < fuel →
    fields? fuel depth shape (fieldsText (field :: fields) ++ '\x7d' :: rest) =
      some (field :: fields, rest)

namespace Reads

variable {fuel depth : Nat} {shape : Option Shape} {rest : List Char}

theorem items_step (ih : Reads fuel) {place : Nat} {item : Json} {items : List Json}
    (h : KeptItems shape depth place (item :: items))
    (hfuel : 2 * (itemsText (item :: items)).length < fuel + 1) :
    Json.items? (fuel + 1) depth shape place (itemsText (item :: items) ++ ']' :: rest) =
      some (item :: items, rest) := by
  rw [KeptItems] at h
  obtain ⟨hitem, hitems⟩ := h
  cases items with
  | nil =>
    rw [itemsText_singleton] at hfuel ⊢
    exact items?_last (ih.value? hitem (delimited_bracket rest) (by omega))
  | cons next items =>
    rw [itemsText_cons_cons, List.length_append, List.length_cons] at hfuel
    rw [itemsText_cons_cons, List.append_assoc, List.cons_append]
    exact items?_comma (ih.value? hitem (delimited_comma _) (by omega))
      (ih.items? hitems (by omega))

theorem fields_step (ih : Reads fuel) {field : String × Json} {fields : List (String × Json)}
    (h : KeptFields shape depth (field :: fields))
    (hfuel : 2 * (fieldsText (field :: fields)).length < fuel + 1) :
    Json.fields? (fuel + 1) depth shape (fieldsText (field :: fields) ++ '\x7d' :: rest) =
      some (field :: fields, rest) := by
  obtain ⟨key, value⟩ := field
  rw [KeptFields] at h
  obtain ⟨⟨read, huse, hvalue⟩, hfields⟩ := h
  cases fields with
  | nil =>
    rw [fieldsText_singleton, List.length_append, List.length_cons] at hfuel
    rw [fieldsText_singleton, List.append_assoc, List.cons_append]
    exact fields?_last huse (ih.value? hvalue (delimited_brace rest) (by omega))
  | cons next fields =>
    have hcons := fieldsText_cons key value (List.cons_ne_nil next fields)
    rw [hcons, List.length_append, List.length_cons, List.length_append, List.length_cons] at hfuel
    rw [hcons, List.append_assoc, List.cons_append, List.append_assoc, List.cons_append]
    exact fields?_comma huse (ih.value? hvalue (delimited_comma _) (by omega))
      (ih.fields? hfields (by omega))

theorem array_step (ih : Reads fuel) {items : List Json} (h : Kept shape depth (.array items))
    (hfuel : 2 * (array items).compact.toList.length ≤ fuel + 1) :
    Json.value? (fuel + 1) depth shape ((array items).compact.toList ++ rest) =
      some (.array items, rest) := by
  rw [Kept] at h
  obtain ⟨hd, hitems⟩ := h
  rw [toList_compact_array, List.length_cons, List.length_append, List.length_singleton] at hfuel
  cases items with
  | nil =>
    rw [toList_compact_array, Json.value?]
    simp [itemsText, compactItems, skipBlanks_cons, isBlank, Nat.not_le_of_lt hd]
  | cons item items =>
    exact value?_array hd hitems (ih.items? hitems (by omega))

theorem object_step (ih : Reads fuel) {fields : List (String × Json)}
    (h : Kept shape depth (.object fields))
    (hfuel : 2 * (object fields).compact.toList.length ≤ fuel + 1) :
    Json.value? (fuel + 1) depth shape ((object fields).compact.toList ++ rest) =
      some (.object fields, rest) := by
  rw [Kept] at h
  obtain ⟨hd, hfields⟩ := h
  rw [toList_compact_object, List.length_cons, List.length_append, List.length_singleton] at hfuel
  cases fields with
  | nil =>
    rw [toList_compact_object, Json.value?]
    simp [fieldsText, compactFields, skipBlanks_cons, isBlank, Nat.not_le_of_lt hd]
  | cons field fields =>
    exact value?_object hd (List.cons_ne_nil field fields) (ih.fields? hfields (by omega))

end Reads

/-- The text of a value is read as the value, up to what follows it. The induction is on the fuel,
since that is what the three readers recurse on together. -/
theorem reads (fuel : Nat) : Reads fuel := by
  induction fuel with
  | zero =>
    refine ⟨fun h _ hfuel => ?_, fun _ hfuel => ?_, fun _ hfuel => ?_⟩
    · obtain ⟨c, cs, hcs, -⟩ := head_compact h
      simp [hcs] at hfuel
    · exact absurd hfuel (Nat.not_lt_zero _)
    · exact absurd hfuel (Nat.not_lt_zero _)
  | succ fuel ih =>
    refine ⟨fun {_ _ value _} h hrest hfuel => ?_, ih.items_step, ih.fields_step⟩
    cases value with
    | null =>
      rw [value?]
      simp [compact, skipBlanks_cons, isBlank]
    | bool b =>
      rw [value?]
      cases b <;> simp [compact, skipBlanks_cons, isBlank]
    | int n => exact value?_int h hrest
    | decimal _ => exact absurd h (by simp [Kept])
    | text s =>
      rw [compact, toList_quoted, value?, skipBlanks_cons rfl]
      simp [text?_quoted]
    | array items => exact ih.array_step h hfuel
    | object fields => exact ih.object_step h hfuel

/-! ## Fields that do not count -/

/-- Texts in fields that do not count, in front of others. -/
def leading (skipped : List (String × String)) (fields : List (String × Json)) :
    List (String × Json) :=
  skipped.map (fun (key, s) => (key, .text s)) ++ fields

theorem skip?_text (fuel : Nat) (s : String) (rest : List Char) :
    skip? (fuel + 1) ((quoted s).toList ++ rest) = some rest := by
  rw [toList_quoted, skip?, skipBlanks_cons rfl]
  exact skipText?_quoted s.toList rest

section

variable {shape : Option Shape} {skipped : List (String × String)} {fields : List (String × Json)}

theorem leading_ne_nil (h : fields ≠ []) : leading skipped fields ≠ [] :=
  List.append_ne_nil_of_right_ne_nil _ h

theorem fields?_leading {depth fuel : Nat} {rest : List Char}
    (hskipped : ∀ row ∈ skipped, shape.elim (.read none) (·.use row.1) = .skipped)
    (hne : fields ≠ [])
    (h : KeptFields shape depth fields)
    (hfuel : 2 * (fieldsText (leading skipped fields)).length < fuel) :
    fields? fuel depth shape (fieldsText (leading skipped fields) ++ '\x7d' :: rest) =
      some (fields, rest) := by
  induction skipped generalizing fuel with
  | nil =>
    obtain ⟨field, fields, rfl⟩ := List.exists_cons_of_ne_nil hne
    exact (reads fuel).fields? h hfuel
  | cons row skipped ih =>
    obtain ⟨key, s⟩ := row
    obtain ⟨huse, hskipped⟩ := List.forall_mem_cons.1 hskipped
    have hcons : fieldsText (leading ((key, s) :: skipped) fields) = (quoted key).toList ++
        ':' :: ((quoted s).toList ++ ',' :: fieldsText (leading skipped fields)) :=
      fieldsText_cons key (.text s) (leading_ne_nil hne)
    rw [hcons, List.length_append, List.length_cons, List.length_append, List.length_cons] at hfuel
    rw [hcons, List.append_assoc, List.cons_append, List.append_assoc, List.cons_append]
    obtain ⟨fuel, rfl⟩ : ∃ n, fuel = n + 2 := ⟨fuel - 2, by omega⟩
    exact fields?_skipped huse (skip?_text fuel s _) (ih hskipped (by omega))

/-! ## Texts -/

/-- What is written compactly is read, if nothing of it gets lost. -/
theorem read?_compact {value : Json} (h : Kept shape 128 value) :
    read? shape value.compact = some value := by
  have hvalue := (reads (2 * value.compact.toList.length + 2)).value? h delimited_nil
    (Nat.le_add_right _ 2)
  rw [List.append_nil] at hvalue
  rw [read?, hvalue]
  rfl

/-- An object is read without the texts in front of it whose fields do not count. -/
theorem read?_leading
    (hskipped : ∀ row ∈ skipped, shape.elim (.read none) (·.use row.1) = .skipped)
    (hne : fields ≠ []) (h : Kept shape 128 (.object fields)) :
    read? shape (object (leading skipped fields)).compact = some (.object fields) := by
  rw [Kept] at h
  obtain ⟨hd, hfields⟩ := h
  have hlength := congrArg List.length (toList_compact_object (leading skipped fields))
  rw [List.length_cons, List.length_append, List.length_singleton] at hlength
  have hread : fields? (2 * (object (leading skipped fields)).compact.toList.length + 1) 127 shape
      (fieldsText (leading skipped fields) ++ ['\x7d']) = some (fields, []) :=
    fields?_leading hskipped hne hfields (by omega)
  have hvalue := value?_object hd (leading_ne_nil hne) hread
  rw [List.append_nil] at hvalue
  rw [read?, hvalue]
  rfl

end

end RoleDiscovery.Json
