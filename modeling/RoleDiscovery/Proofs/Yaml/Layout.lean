import RoleDiscovery.Proofs.Yaml.Scalar

/-!
# The tokens of a written document

The layout of a document says where its collections start and end. Here it is undone: a value that
is written at a column is read as its marks.

Results:

* `Yaml.Writable`: the values whose documents read back.
* `Yaml.marks`: the tokens of a value.
* `Stream.reads_parts`: every part of a document is read as its marks.
* `Yaml.ofText?_print`: the tokens of the document of an object.
-/

namespace RoleDiscovery.Yaml

/-! ## Values -/

/-- The style and the text of a value that is written as a scalar. -/
def scalar? : Json → Option (Style × List Char)
  | .null => some (.plain, "null".toList)
  | .bool true => some (.plain, "true".toList)
  | .bool false => some (.plain, "false".toList)
  | .int value => some (.plain, (toString value).toList)
  | .text value => some (Style.ofText value.toList, value.toList)
  | _ => none

/-- Whether the name of a field is written as it is, and close enough to its colon. -/
structure IsFieldName (name : String) : Prop where
  ofName_eq : Style.ofName name.toList = .plain
  length_le : name.toList.length ≤ 1024

instance (name : String) : Decidable (IsFieldName name) :=
  decidable_of_iff (Style.ofName name.toList = .plain ∧ name.toList.length ≤ 1024)
    ⟨fun h => ⟨h.1, h.2⟩, fun h => ⟨h.1, h.2⟩⟩

mutual

/-- A value without numbers that need not be whole, all of whose fields have plain names. -/
def Writable : Json → Prop
  | .array values => WritableItems values
  | .object entries => WritableFields entries
  | value => (scalar? value).isSome

/-- Such values as the items of a list. -/
def WritableItems : List Json → Prop
  | [] => True
  | value :: rest => Writable value ∧ WritableItems rest

/-- Such values as the fields of an object. -/
def WritableFields : List (String × Json) → Prop
  | [] => True
  | (name, value) :: rest => IsFieldName name ∧ Writable value ∧ WritableFields rest

end

mutual

/-- The tokens of a value. A list that is the value of a field has no marks around its items. -/
def marks (inField : Bool) : Json → List Token
  | .array values =>
    if values.isEmpty then [.flowSequence, .flowSequenceEnd]
    else if inField then itemMarks values
    else .blockSequence :: itemMarks values ++ [.blockEnd]
  | .object entries =>
    if entries.isEmpty then [.flowMapping, .flowMappingEnd]
    else .blockMapping :: fieldMarks entries ++ [.blockEnd]
  | value => (scalar? value).toList.map fun (style, text) => .scalar style.form text

/-- The tokens of the items of a list. -/
def itemMarks : List Json → List Token
  | [] => []
  | value :: rest => .blockEntry :: marks false value ++ itemMarks rest

/-- The tokens of the fields of an object. -/
def fieldMarks : List (String × Json) → List Token
  | [] => []
  | (name, value) :: rest =>
    .key :: .scalar .plain name.toList :: .value :: marks true value ++ fieldMarks rest

end

/-! ## Scalars -/

theorem scalarLine_eq {value : Json} {style : Style} {text : List Char}
    (h : scalar? value = some (style, text)) (column : Nat) :
    scalarLine column value = Scalar.line column style text := by
  unfold scalar? at h
  split at h <;> cases h <;> rfl

/-- A value that is written as a scalar is written in a style that keeps its text. -/
theorem allows_of_scalar? {value : Json} {style : Style} {text : List Char}
    (h : scalar? value = some (style, text)) : style.Allows text := by
  unfold scalar? at h
  split at h <;> cases h
  · exact ⟨by decide, by decide⟩
  · exact ⟨by decide, by decide⟩
  · exact ⟨by decide, by decide⟩
  · exact ⟨Style.toString_ne_nil _, Style.allowsPlain_toString _⟩
  · exact Style.allows_ofText _

/-- The name of a field is written plain. -/
theorem IsFieldName.name_eq {name : String} (h : IsFieldName name) :
    Scalar.name name.toList = name.toList ∧ name.toList ≠ [] ∧ Style.allowsPlain name.toList := by
  have hname := h.ofName_eq
  refine ⟨by rw [Scalar.name, hname], ?_⟩
  unfold Style.ofName at hname
  split at hname
  · cases hname
  · have := Style.allows_ofText name.toList
    rwa [hname] at this

/-! ## Induction -/

/-- What an induction over the values that can be written has to show: of values `P`, of the items
of lists `Q` and of the fields of objects `R`. -/
structure Steps (P : Json → Prop) (Q : List Json → Prop) (R : List (String × Json) → Prop) :
    Prop where
  scalar : ∀ value style text, scalar? value = some (style, text) → P value
  emptyArray : P (.array [])
  emptyObject : P (.object [])
  array : ∀ value rest, Q (value :: rest) → P (.array (value :: rest))
  object : ∀ entry rest, R (entry :: rest) → P (.object (entry :: rest))
  noItems : Q []
  item : ∀ value rest, P value → Q rest → Q (value :: rest)
  noFields : R []
  field : ∀ name value rest, IsFieldName name → P value → R rest → R ((name, value) :: rest)

namespace Steps

variable {P : Json → Prop} {Q : List Json → Prop} {R : List (String × Json) → Prop}

mutual

theorem value (h : Steps P Q R) : ∀ value : Json, Writable value → P value
  | .array [], _ => h.emptyArray
  | .decimal _, hw => Bool.noConfusion hw
  | .array (value :: rest), hw => h.array value rest (h.items (value :: rest) hw)
  | .object [], _ => h.emptyObject
  | .object (entry :: rest), hw => h.object entry rest (h.fields (entry :: rest) hw)
  | .null, _ => h.scalar _ _ _ rfl
  | .bool true, _ => h.scalar _ _ _ rfl
  | .bool false, _ => h.scalar _ _ _ rfl
  | .int _, _ => h.scalar _ _ _ rfl
  | .text _, _ => h.scalar _ _ _ rfl

theorem items (h : Steps P Q R) : ∀ values : List Json, WritableItems values → Q values
  | [], _ => h.noItems
  | value :: rest, hw => h.item value rest (h.value value hw.1) (h.items rest hw.2)

theorem fields (h : Steps P Q R) :
    ∀ entries : List (String × Json), WritableFields entries → R entries
  | [], _ => h.noFields
  | (name, value) :: rest, hw =>
    h.field name value rest hw.1 (h.value value hw.2.1) (h.fields rest hw.2.2)

end

end Steps

/-! ## Characters -/

theorem printable_indentation (column : Nat) : (indentation column).all isPrintable = true := by
  rw [indentation, List.all_replicate]
  exact ite_eq_left_iff.2 fun _ => rfl

namespace Scalar

variable {s : List Char}

theorem printable_singleBody (column : Nat) (broken : Bool) (h : s.all isPrintable = true) :
    (singleBody column broken s).all isPrintable = true := by
  induction s generalizing broken with
  | nil =>
    rw [singleBody]
    split
    · exact printable_indentation column
    · rfl
  | cons c s ih =>
    rw [List.all_cons, Bool.and_eq_true] at h
    rw [singleBody]
    split
    · rw [List.all_cons, h.1, ih true h.2]
      rfl
    · rw [List.all_append, List.all_append, ih false h.2]
      have hm : (if broken then indentation column else []).all isPrintable = true := by
        split
        · exact printable_indentation column
        · rfl
      have hc : (if c = '\'' then ['\'', '\''] else [c]).all isPrintable = true := by
        split
        · rfl
        · rw [List.all_cons, h.1]
          rfl
      rw [hm, hc]
      rfl

theorem printable_literalBody (column : Nat) (broken : Bool) (h : s.all isPrintable = true) :
    (literalBody column broken s).all isPrintable = true := by
  induction s generalizing broken with
  | nil => rfl
  | cons c s ih =>
    rw [List.all_cons, Bool.and_eq_true] at h
    rw [literalBody]
    split
    · rw [List.all_cons, h.1, ih true h.2]
      rfl
    · have hm : (if broken then indentation column else []).all isPrintable = true := by
        split
        · exact printable_indentation column
        · rfl
      rw [List.all_append, List.all_cons, hm, h.1, ih false h.2]
      rfl

theorem printable_escaped (s : List Char) : (s.flatMap escaped).all isPrintable = true := by
  rw [List.all_flatMap, List.all_eq_true]
  intro c _
  exact (Token.spells_escaped c).printable

theorem printable_chomping (s : List Char) : (chomping s).all isPrintable = true := by
  unfold chomping
  split
  · rfl
  · split <;> rfl
  · split
    · split <;> rfl
    · rfl

/-- A text in a style that it allows needs no escapes but those of the style. -/
theorem printable_line {style : Style} (h : style.Allows s) (column : Nat) :
    (line column style s).all isPrintable = true := by
  have hn : isPrintable '\n' = true := rfl
  cases style with
  | plain =>
    have hp := h.2
    simp only [Style.allowsPlain, Style.isVerbatim, Bool.and_eq_true] at hp
    simp [line, hp, hn]
  | single =>
    have hs := h.2
    simp only [Style.allowsSingle, Style.isVerbatim, Bool.and_eq_true] at hs
    have := printable_singleBody column false hs.1.1
    simp only [line, single, List.all_append, List.all_cons, this]
    rfl
  | double =>
    simp only [line, double, List.all_append, List.all_cons, printable_escaped s]
    rfl
  | literal =>
    have hl := h
    simp only [Style.Allows, Style.allowsLiteral, Style.isVerbatim, Bool.and_eq_true] at hl
    have := printable_literalBody column true hl.1.1.1
    simp only [line, literal, List.all_append, List.all_cons, this, printable_chomping s]
    split <;> split <;> rfl

end Scalar

/-! ## Parts of a document -/

section Parts

variable {value : Json} {style : Style} {text : List Char} (column : Nat)

theorem fieldValue_scalar (h : scalar? value = some (style, text)) :
    fieldValue column value = ' ' :: Scalar.line (column + 2) style text := by
  rw [← scalarLine_eq h]
  unfold scalar? at h
  split at h <;> cases h <;> rfl

theorem itemValue_scalar (h : scalar? value = some (style, text)) :
    itemValue column value = ' ' :: Scalar.line (column + 2) style text := by
  rw [← scalarLine_eq h]
  unfold scalar? at h
  split at h <;> cases h <;> rfl

theorem marks_scalar (h : scalar? value = some (style, text)) (inField : Bool) :
    marks inField value = [.scalar style.form text] := by
  unfold scalar? at h
  split at h <;> cases h <;> rfl

theorem fieldValue_array (rest : List Json) :
    fieldValue column (.array (value :: rest)) =
      '\n' :: (indentation column ++ items column true (value :: rest)) := by
  simp [fieldValue, items]

theorem itemValue_array (rest : List Json) :
    itemValue column (.array (value :: rest)) = ' ' :: items (column + 2) true (value :: rest) := by
  rw [itemValue]
  rfl

theorem fieldValue_object (entry : String × Json) (rest : List (String × Json)) :
    fieldValue column (.object (entry :: rest)) =
      '\n' :: (indentation (column + 2) ++ fields (column + 2) true (entry :: rest)) := by
  simp [fieldValue, fields]

theorem itemValue_object (entry : String × Json) (rest : List (String × Json)) :
    itemValue column (.object (entry :: rest)) =
      ' ' :: fields (column + 2) true (entry :: rest) := by
  rw [itemValue]
  rfl

/-- The value of a field starts with a blank or on a line of its own. -/
theorem atSpace_fieldValue (value : Json) (tail : List Char) :
    atSpace (fieldValue column value ++ tail) = true := by
  cases value with
  | array values => cases values <;> rfl
  | object entries => cases entries <;> rfl
  | _ => rfl

theorem itemValue_eq_space (value : Json) : ∃ t, itemValue column value = ' ' :: t := by
  cases value with
  | array values => cases values <;> exact ⟨_, rfl⟩
  | object entries => cases entries <;> exact ⟨_, rfl⟩
  | _ => exact ⟨_, rfl⟩

end Parts

/-- Nothing in a document needs escapes but those that it has. -/
theorem printable_parts :
    Steps (fun value => ∀ column, (fieldValue column value).all isPrintable = true ∧
        (itemValue column value).all isPrintable = true)
      (fun values => ∀ column indented, (items column indented values).all isPrintable = true)
      (fun entries => ∀ column indented,
        (fields column indented entries).all isPrintable = true) where
  scalar value style text h column := by
    have := Scalar.printable_line (allows_of_scalar? h) (column + 2)
    rw [fieldValue_scalar column h, itemValue_scalar column h, List.all_cons, this]
    exact ⟨rfl, rfl⟩
  emptyArray column := ⟨rfl, rfl⟩
  emptyObject column := ⟨rfl, rfl⟩
  array value rest ih column := by
    rw [fieldValue_array, itemValue_array, List.all_cons, List.all_append, List.all_cons,
      printable_indentation, ih, ih]
    exact ⟨rfl, rfl⟩
  object entry rest ih column := by
    rw [fieldValue_object, itemValue_object, List.all_cons, List.all_append, List.all_cons,
      printable_indentation, ih]
    exact ⟨rfl, rfl⟩
  noItems column indented := rfl
  item value rest hv hr column indented := by
    have hm : (if indented then [] else indentation column).all isPrintable = true := by
      split
      · rfl
      · exact printable_indentation column
    rw [items, List.all_append, List.all_append, List.all_cons, hm, (hv column).2, hr]
    rfl
  noFields column indented := rfl
  field name value rest hn hv hr column indented := by
    have hm : (if indented then [] else indentation column).all isPrintable = true := by
      split
      · rfl
      · exact printable_indentation column
    obtain ⟨hname, -, hp⟩ := hn.name_eq
    simp only [Style.allowsPlain, Style.isVerbatim, Bool.and_eq_true] at hp
    rw [fields, List.all_append, List.all_append, List.all_append, List.all_cons, hm, hname,
      (hv column).1, hr]
    simp [hp]
    rfl

/-! ## Reading the parts -/

namespace Token.Stream

/-- The value of a field is read as its marks. -/
def ReadsField (value : Json) : Prop :=
  ∀ {s : Stream} {column m n : Nat} {body : List Char} {indents : List Nat} {tokens : List Token},
    At s (fieldValue column value ++ (indentation n ++ body)) m false (column :: indents) tokens →
    column < m → n ≤ column → AtToken body →
    ∃ u, Leads s u ∧ At u body n true (column :: indents) ((marks true value).reverse ++ tokens)

/-- An item is read as its marks. -/
def ReadsItem (value : Json) : Prop :=
  ∀ {s : Stream} {column n : Nat} {body : List Char} {indents : List Nat} {tokens : List Token},
    At s (itemValue column value ++ (indentation n ++ body)) (column + 1) true (column :: indents)
      tokens →
    n ≤ column → AtToken body →
    ∃ u, Leads s u ∧ At u body n true (column :: indents) ((marks false value).reverse ++ tokens)

/-- Items are read as their marks, after the mark of a sequence if none is open in their column. -/
def ReadsItems (values : List Json) : Prop :=
  ∀ {s : Stream} {column n : Nat} {body : List Char} {indents : List Nat} {tokens : List Token},
    values ≠ [] →
    At s (items column true values ++ (indentation n ++ body)) column true indents tokens →
    Reaches column indents → n ≤ column → AtToken body →
    ∃ u, Leads s u ∧ At u body n true (opened column indents)
      ((itemMarks values).reverse ++ (opening column .blockSequence indents ++ tokens))

/-- Fields are read as their marks, after the mark of a mapping if none is open in their column. -/
def ReadsFields (entries : List (String × Json)) : Prop :=
  ∀ {s : Stream} {column n : Nat} {body : List Char} {indents : List Nat} {tokens : List Token},
    entries ≠ [] →
    At s (fields column true entries ++ (indentation n ++ body)) column true indents tokens →
    Reaches column indents → n ≤ column → AtToken body →
    ∃ u, Leads s u ∧ At u body n true (opened column indents)
      ((fieldMarks entries).reverse ++ (opening column .blockMapping indents ++ tokens))

section

variable {s : Stream} {body : List Char} {column m n : Nat} {indents : List Nat}
  {tokens : List Token}

/-- Once it is open, the innermost collection is the one in the column. -/
theorem opened_of_reaches (h : Reaches column indents) :
    ∃ outer, opened column indents = column :: outer := by
  cases indents with
  | nil => exact ⟨[], rfl⟩
  | cons indent indents =>
    have hle := h indent rfl
    unfold opened
    by_cases hlt : indent < column
    · exact ⟨indent :: indents, if_pos hlt⟩
    · obtain rfl : indent = column := by omega
      exact ⟨indents, if_neg hlt⟩

theorem atToken_items (value : Json) (rest : List Json) (tail : List Char) :
    AtToken (items column true (value :: rest) ++ tail) := by
  rintro _ ⟨⟩
  decide

theorem atToken_fields {name : String} (hn : IsFieldName name) (value : Json)
    (rest : List (String × Json)) (tail : List Char) :
    AtToken (fields column true ((name, value) :: rest) ++ tail) := by
  obtain ⟨hname, hne, hp⟩ := hn.name_eq
  simp only [fields, if_true, List.nil_append, hname, List.append_assoc]
  exact (startsPlain_of_allowsPlain hne hp _).2

/-- A scalar is read as its mark. -/
theorem leads_inlineScalar {keyAllowed : Bool} {style : Style} {text : List Char}
    (h : At s (' ' :: Scalar.line (column + 2) style text ++ (indentation n ++ body)) m keyAllowed
      (column :: indents) tokens)
    (hm : column < m) (hn : n ≤ column) (hb : AtToken body) (ha : style.Allows text) :
    ∃ u, Leads s u ∧ At u body n true (column :: indents) (.scalar style.form text :: tokens) := by
  obtain ⟨t, hst, ht⟩ := leads_space h (atToken_line ha _)
  obtain ⟨u, htu, hu⟩ := leads_scalar ht (Nat.lt_succ_of_lt hm) hn hb ha
  exact ⟨u, hst.trans htu, hu⟩

/-- An empty collection is read as its marks. -/
theorem leads_inlineFlow {keyAllowed : Bool} {c d : Char} {first last : Token}
    (hm : Brackets c d first last)
    (h : At s (' ' :: c :: d :: '\n' :: (indentation n ++ body)) m keyAllowed (column :: indents)
      tokens)
    (hc : column < m) (hb : AtToken body) :
    ∃ u, Leads s u ∧ At u body n true (column :: indents) (last :: first :: tokens) := by
  have htok : AtToken (c :: d :: '\n' :: (indentation n ++ body)) := by
    rintro _ ⟨⟩
    cases hm <;> decide
  obtain ⟨t, hst, ht⟩ := leads_space h htok
  obtain ⟨u, htu, hu⟩ := leads_emptyFlow hm ht (Nat.lt_succ_of_lt hc) hb
  exact ⟨u, hst.trans htu, hu⟩

/-- Items that are indented deeper than the collection around them are a sequence of their own. -/
theorem leads_innerItems {values : List Json} (hi : ReadsItems values) (hne : values ≠ [])
    (h : At s (items m true values ++ (indentation n ++ body)) m true (column :: indents) tokens)
    (hm : column < m) (hn : n ≤ column) (hb : AtToken body) :
    ∃ u, Leads s u ∧ At u body n true (column :: indents)
      (.blockEnd :: ((itemMarks values).reverse ++ .blockSequence :: tokens)) := by
  have hr : Reaches m (column :: indents) := reaches_cons (Nat.le_of_lt hm)
  obtain ⟨t, hst, ht⟩ := hi hne h hr (by omega) hb
  simp only [opened, opening, hm, if_true] at ht
  obtain ⟨u, htu, hu⟩ := leads_close ht hb (Nat.lt_of_le_of_lt hn hm)
  exact ⟨u, hst.trans htu, hu⟩

/-- Fields that are indented deeper than the collection around them are a mapping of their own. -/
theorem leads_innerFields {entries : List (String × Json)} (hi : ReadsFields entries)
    (hne : entries ≠ [])
    (h : At s (fields m true entries ++ (indentation n ++ body)) m true (column :: indents) tokens)
    (hm : column < m) (hn : n ≤ column) (hb : AtToken body) :
    ∃ u, Leads s u ∧ At u body n true (column :: indents)
      (.blockEnd :: ((fieldMarks entries).reverse ++ .blockMapping :: tokens)) := by
  have hr : Reaches m (column :: indents) := reaches_cons (Nat.le_of_lt hm)
  obtain ⟨t, hst, ht⟩ := hi hne h hr (by omega) hb
  simp only [opened, opening, hm, if_true] at ht
  obtain ⟨u, htu, hu⟩ := leads_close ht hb (Nat.lt_of_le_of_lt hn hm)
  exact ⟨u, hst.trans htu, hu⟩

end

/-! ## Whole values -/

theorem readsField_scalar {value : Json} {style : Style} {text : List Char}
    (h : scalar? value = some (style, text)) : ReadsField value := by
  intro s column m n body indents tokens hs hm hn hb
  rw [fieldValue_scalar column h] at hs
  rw [marks_scalar h]
  exact leads_inlineScalar hs hm hn hb (allows_of_scalar? h)

theorem readsItem_scalar {value : Json} {style : Style} {text : List Char}
    (h : scalar? value = some (style, text)) : ReadsItem value := by
  intro s column n body indents tokens hs hn hb
  rw [itemValue_scalar column h] at hs
  rw [marks_scalar h]
  exact leads_inlineScalar hs (Nat.lt_succ_self _) hn hb (allows_of_scalar? h)

theorem readsField_array {value : Json} {rest : List Json} (h : ReadsItems (value :: rest)) :
    ReadsField (.array (value :: rest)) := by
  intro s column m n body indents tokens hs hm hn hb
  rw [fieldValue_array, List.cons_append, List.append_assoc] at hs
  obtain ⟨t, hst, ht⟩ := leads_break hs (atToken_items value rest _)
  obtain ⟨u, htu, hu⟩ := h (List.cons_ne_nil _ _) ht (reaches_cons (Nat.le_refl _)) hn hb
  rw [opened_self, opening_self] at hu
  exact ⟨u, hst.trans htu, hu⟩

theorem readsItem_array {value : Json} {rest : List Json} (h : ReadsItems (value :: rest)) :
    ReadsItem (.array (value :: rest)) := by
  intro s column n body indents tokens hs hn hb
  rw [itemValue_array, List.cons_append] at hs
  obtain ⟨t, hst, ht⟩ := leads_space hs (atToken_items value rest _)
  obtain ⟨u, htu, hu⟩ := leads_innerItems h (List.cons_ne_nil _ _) ht (by omega) hn hb
  refine ⟨u, hst.trans htu, ?_⟩
  simpa [marks] using hu

theorem readsField_object {entry : String × Json} {rest : List (String × Json)}
    (hn : IsFieldName entry.1) (h : ReadsFields (entry :: rest)) :
    ReadsField (.object (entry :: rest)) := by
  intro s column m n body indents tokens hs hm hle hb
  rw [fieldValue_object, List.cons_append, List.append_assoc] at hs
  obtain ⟨t, hst, ht⟩ := leads_break hs (atToken_fields hn entry.2 rest _)
  obtain ⟨u, htu, hu⟩ := leads_innerFields h (List.cons_ne_nil _ _) ht (by omega) hle hb
  refine ⟨u, hst.trans htu, ?_⟩
  simpa [marks] using hu

theorem readsItem_object {entry : String × Json} {rest : List (String × Json)}
    (hn : IsFieldName entry.1) (h : ReadsFields (entry :: rest)) :
    ReadsItem (.object (entry :: rest)) := by
  intro s column n body indents tokens hs hle hb
  rw [itemValue_object, List.cons_append] at hs
  obtain ⟨t, hst, ht⟩ := leads_space hs (atToken_fields hn entry.2 rest _)
  obtain ⟨u, htu, hu⟩ := leads_innerFields h (List.cons_ne_nil _ _) ht (by omega) hle hb
  refine ⟨u, hst.trans htu, ?_⟩
  simpa [marks] using hu

theorem readsItems_cons {value : Json} {rest : List Json} (hv : ReadsItem value)
    (hr : ReadsItems rest) : ReadsItems (value :: rest) := by
  intro s column n body indents tokens _ hs hreach hle hb
  obtain ⟨outer, ho⟩ := opened_of_reaches hreach
  obtain ⟨inner, hspace⟩ := itemValue_eq_space column value
  have hs' : At s ('-' :: ' ' :: (inner ++ (items column false rest ++ (indentation n ++ body))))
      column true indents tokens := by
    simpa [items, hspace] using hs
  obtain ⟨t, hst, ht⟩ := leads_entry hs' hreach
  rw [← List.cons_append, ← hspace, ho] at ht
  cases rest with
  | nil =>
    obtain ⟨u, htu, hu⟩ := hv ht hle hb
    refine ⟨u, hst.trans htu, ?_⟩
    rw [ho]
    simpa [itemMarks] using hu
  | cons next rest =>
    have ht' : At t (itemValue column value ++ (indentation column ++
        (items column true (next :: rest) ++ (indentation n ++ body)))) (column + 1) true
        (column :: outer) (.blockEntry :: (opening column .blockSequence indents ++ tokens)) := by
      simpa [items] using ht
    obtain ⟨u, htu, hu⟩ := hv ht' (Nat.le_refl _) (atToken_items next rest _)
    obtain ⟨w, huw, hw⟩ := hr (List.cons_ne_nil _ _) hu (reaches_cons (Nat.le_refl _)) hle hb
    refine ⟨w, hst.trans (htu.trans huw), ?_⟩
    rw [opened_self, opening_self] at hw
    rw [ho]
    simpa [itemMarks] using hw

theorem readsFields_cons {name : String} {value : Json} {rest : List (String × Json)}
    (hn : IsFieldName name) (hnext : ∀ entry ∈ rest.head?, IsFieldName entry.1)
    (hv : ReadsField value) (hr : ReadsFields rest) : ReadsFields ((name, value) :: rest) := by
  intro s column n body indents tokens _ hs hreach hle hb
  obtain ⟨outer, ho⟩ := opened_of_reaches hreach
  obtain ⟨hname, hne, hp⟩ := hn.name_eq
  have hs' : At s (name.toList ++ ':' :: (fieldValue column value ++
      (fields column false rest ++ (indentation n ++ body)))) column true indents tokens := by
    simpa [fields, hname] using hs
  obtain ⟨t, hst, ht⟩ := leads_key hs' hreach hne hp hn.length_le (atSpace_fieldValue _ _ _)
  rw [ho] at ht
  have hm : column < column + name.toList.length + 1 := by omega
  cases rest with
  | nil =>
    obtain ⟨u, htu, hu⟩ := hv ht hm hle hb
    refine ⟨u, hst.trans htu, ?_⟩
    rw [ho]
    simpa [fieldMarks] using hu
  | cons next rest =>
    have ht' : At t (fieldValue column value ++ (indentation column ++
        (fields column true (next :: rest) ++ (indentation n ++ body))))
        (column + name.toList.length + 1) false (column :: outer)
        (.value :: .scalar .plain name.toList :: .key ::
          (opening column .blockMapping indents ++ tokens)) := by
      simpa [fields] using ht
    obtain ⟨u, htu, hu⟩ := hv ht' hm (Nat.le_refl _)
      (atToken_fields (hnext next rfl) next.2 rest _)
    obtain ⟨w, huw, hw⟩ := hr (List.cons_ne_nil _ _) hu (reaches_cons (Nat.le_refl _)) hle hb
    refine ⟨w, hst.trans (htu.trans huw), ?_⟩
    rw [opened_self, opening_self] at hw
    rw [ho]
    simpa [fieldMarks] using hw

/-- Every value that can be written is read as its marks. -/
theorem reads_parts :
    Steps (fun value => ReadsField value ∧ ReadsItem value) ReadsItems
      (fun entries => (∀ entry ∈ entries.head?, IsFieldName entry.1) ∧ ReadsFields entries) where
  scalar value style text h := ⟨readsField_scalar h, readsItem_scalar h⟩
  emptyArray := by
    constructor
    · intro s column m n body indents tokens hs hm hle hb
      exact leads_inlineFlow .sequence hs hm hb
    · intro s column n body indents tokens hs hle hb
      exact leads_inlineFlow .sequence hs (Nat.lt_succ_self _) hb
  emptyObject := by
    constructor
    · intro s column m n body indents tokens hs hm hle hb
      exact leads_inlineFlow .mapping hs hm hb
    · intro s column n body indents tokens hs hle hb
      exact leads_inlineFlow .mapping hs (Nat.lt_succ_self _) hb
  array value rest h := ⟨readsField_array h, readsItem_array h⟩
  object entry rest h :=
    ⟨readsField_object (h.1 entry rfl) h.2, readsItem_object (h.1 entry rfl) h.2⟩
  noItems := by
    intro s column n body indents tokens hne
    exact absurd rfl hne
  item value rest hv hr := readsItems_cons hv.2 hr
  noFields := by
    constructor
    · rintro _ ⟨⟩
    · intro s column n body indents tokens hne
      exact absurd rfl hne
  field name value rest hn hv hr := by
    refine ⟨?_, readsFields_cons hn hr.1 hv.1 hr.2⟩
    rintro _ ⟨⟩
    exact hn

end Token.Stream

/-! ## Documents -/

theorem normalizeBreaks_of_printable {s : List Char} (h : s.all isPrintable = true) :
    Token.normalizeBreaks s = s := by
  induction s with
  | nil => rfl
  | cons c s ih =>
    rw [List.all_cons, Bool.and_eq_true] at h
    obtain ⟨hr, hl, -⟩ := ne_of_isPrintable h.1
    rw [Token.normalizeBreaks, ih h.2]
    · rintro _ rfl -
      exact hr rfl
    · rintro rfl
      exact hr rfl
    · rintro rfl
      exact hl rfl

/-- The document of an object with fields consists of the tokens of the object. -/
theorem ofText?_print {entries : List (String × Json)} (hne : entries ≠ [])
    (h : WritableFields entries) :
    Token.ofText? (print (.object entries)).toList = some (marks false (.object entries)) := by
  have hempty : entries.isEmpty = false := by simpa using hne
  have hprint : (print (.object entries)).toList = fields 0 true entries := by
    simp [print, hempty]
  have hp : (fields 0 true entries).all isPrintable = true :=
    printable_parts.fields entries h 0 true
  have hallowed : (fields 0 true entries).all isAllowed = true := by
    rw [List.all_eq_true] at hp ⊢
    exact fun c hc => isAllowed_of_isPrintable (hp c hc)
  have hstart : Token.Stream.At (.start (fields 0 true entries))
      (fields 0 true entries ++ (indentation 0 ++ [])) 0 true [] [] :=
    ⟨by simp [Token.Stream.start, indentation], rfl, rfl, rfl, rfl, rfl, by rintro _ ⟨⟩⟩
  obtain ⟨u, ⟨steps, hsteps, hread⟩, hu⟩ := (Token.Stream.reads_parts.fields entries h).2 hne hstart
    (by rintro _ ⟨⟩) (Nat.le_refl 0) (by rintro _ ⟨⟩)
  have hle : steps ≤ (fields 0 true entries).length := by
    rw [hu.rest_eq] at hsteps
    simpa [Token.Stream.start] using hsteps
  obtain ⟨fuel, hfuel⟩ := Nat.exists_eq_add_of_le' hle
  rw [Token.ofText?, hprint, if_pos hallowed, normalizeBreaks_of_printable hp]
  show Token.Stream.read ((fields 0 true entries).length + 1) _ = _
  rw [hfuel, Nat.add_right_comm, hread, Token.Stream.read_end fuel hu]
  simp [marks, hempty, Token.Stream.opening]

end RoleDiscovery.Yaml
