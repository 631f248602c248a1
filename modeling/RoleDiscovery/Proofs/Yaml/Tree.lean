import RoleDiscovery.Proofs.Yaml.Layout
import RoleDiscovery.Yaml.Node.Grammar

/-!
# The tree of a written document

The grammar of documents, applied to the tokens of a value.

Results:

* `Yaml.node`: the node of a value.
* `Node.spelled_parts`: each part of a value is read from its tokens.
* `Node.ofTokens?_marks`: the tokens of an object spell its node.
-/

namespace RoleDiscovery.Yaml

mutual

/-- The node of a value. -/
def node : Json → Node
  | .array values => .sequence none none (itemNodes values)
  | .object entries => .mapping none none (fieldNodes entries)
  | value =>
    ((scalar? value).map fun (style, text) => .scalar none none style.form text).getD .empty

/-- The nodes of the items of a list. -/
def itemNodes : List Json → List Node
  | [] => []
  | value :: rest => node value :: itemNodes rest

/-- The nodes of the fields of an object. -/
def fieldNodes : List (String × Json) → List (Node × Node)
  | [] => []
  | (name, value) :: rest =>
    (.scalar none none .plain name.toList, node value) :: fieldNodes rest

end

theorem node_scalar {value : Json} {style : Style} {text : List Char}
    (h : scalar? value = some (style, text)) : node value = .scalar none none style.form text := by
  unfold scalar? at h
  split at h <;> cases h <;> rfl

namespace Node

namespace Remaining

@[simp] theorem tokens_withTokens (r : Remaining) (tokens : List Token) :
    (r.withTokens tokens).tokens = tokens := rfl

@[simp] theorem withTokens_withTokens (r : Remaining) (tokens tokens' : List Token) :
    (r.withTokens tokens).withTokens tokens' = r.withTokens tokens' := rfl

end Remaining

variable {fuel : Nat} {r : Remaining} {rest : List Token}

/-! ## Nodes -/

theorem node?_scalar (block indentless : Bool) (form : Form) (text : List Char) :
    node? (fuel + 1) block indentless (r.withTokens (.scalar form text :: rest)) =
      some (.scalar none none form text, r.withTokens rest) := by
  rfl

theorem node?_blockSequence {items : List Node} {r' : Remaining} (indentless : Bool)
    (h : blockItems? fuel (r.withTokens rest) = some (items, r')) :
    node? (fuel + 1) true indentless (r.withTokens (.blockSequence :: rest)) =
      some (.sequence none none items, r') := by
  show (blockItems? fuel (r.withTokens rest)).bind _ = _
  rw [h]
  rfl

theorem node?_blockMapping {entries : List (Node × Node)} {r' : Remaining} (indentless : Bool)
    (h : blockEntries? fuel (r.withTokens rest) = some (entries, r')) :
    node? (fuel + 1) true indentless (r.withTokens (.blockMapping :: rest)) =
      some (.mapping none none entries, r') := by
  show (blockEntries? fuel (r.withTokens rest)).bind _ = _
  rw [h]
  rfl

theorem node?_indentless {items : List Node} {r' : Remaining} (block : Bool)
    (h : indentlessItems? fuel (r.withTokens (.blockEntry :: rest)) = some (items, r')) :
    node? (fuel + 1) block true (r.withTokens (.blockEntry :: rest)) =
      some (.sequence none none items, r') := by
  show (indentlessItems? fuel (r.withTokens (.blockEntry :: rest))).bind _ = _
  rw [h]
  rfl

theorem node?_emptySequence (block indentless : Bool) :
    node? (fuel + 2) block indentless (r.withTokens (.flowSequence :: .flowSequenceEnd :: rest)) =
      some (.sequence none none [], r.withTokens rest) := by
  rfl

theorem node?_emptyMapping (block indentless : Bool) :
    node? (fuel + 2) block indentless (r.withTokens (.flowMapping :: .flowMappingEnd :: rest)) =
      some (.mapping none none [], r.withTokens rest) := by
  rfl

/-! ## Parts of a value -/

/-- Whether a token starts no value; a hyphen only starts the value of a field. -/
def isNoStart (inField : Bool) (token : Token) : Bool :=
  [.key, .value, .blockEnd].elem token || (!inField && token = .blockEntry)

/-- The tokens of a value start with one that can start it. -/
def Starts (value : Json) : Prop :=
  ∀ inField, ∃ token rest, marks inField value = token :: rest ∧ isNoStart inField token = false

/-- The tokens of a value spell its node, if no item follows that could be taken for one of its
own. -/
def Spelled (value : Json) : Prop :=
  ∀ (inField : Bool) (r : Remaining) (rest : List Token) (fuel : Nat),
    3 * (marks inField value).length + 2 ≤ fuel →
    (inField = true → rest.head? ≠ some .blockEntry) →
    node? fuel true inField (r.withTokens (marks inField value ++ rest)) =
      some (node value, r.withTokens rest)

/-- The tokens of items spell their nodes, with a mark at their end or without. -/
structure SpelledItems (values : List Json) : Prop where
  block : ∀ (r : Remaining) (rest : List Token) (fuel : Nat),
    3 * (itemMarks values).length + 1 ≤ fuel →
    blockItems? fuel (r.withTokens (itemMarks values ++ .blockEnd :: rest)) =
      some (itemNodes values, r.withTokens rest)
  indentless : ∀ (r : Remaining) (rest : List Token) (fuel : Nat),
    3 * (itemMarks values).length + 1 ≤ fuel → rest.head? ≠ some .blockEntry →
    indentlessItems? fuel (r.withTokens (itemMarks values ++ rest)) =
      some (itemNodes values, r.withTokens rest)

/-- The tokens of fields spell their nodes. -/
def SpelledFields (entries : List (String × Json)) : Prop :=
  ∀ (r : Remaining) (rest : List Token) (fuel : Nat),
    3 * (fieldMarks entries).length + 1 ≤ fuel →
    blockEntries? fuel (r.withTokens (fieldMarks entries ++ .blockEnd :: rest)) =
      some (fieldNodes entries, r.withTokens rest)

theorem spelled_array {value : Json} {values : List Json} (h : SpelledItems (value :: values)) :
    Spelled (.array (value :: values)) := by
  intro inField r rest fuel hf hrest
  obtain ⟨fuel, rfl⟩ : ∃ k, fuel = k + 1 := ⟨fuel - 1, by omega⟩
  cases inField with
  | true =>
    have hlen : 3 * (itemMarks (value :: values)).length + 1 ≤ fuel := by
      simp [marks] at hf
      omega
    exact node?_indentless true (h.indentless r rest fuel hlen (hrest rfl))
  | false =>
    have hlen : 3 * (itemMarks (value :: values)).length + 1 ≤ fuel := by
      simp [marks] at hf
      omega
    have := node?_blockSequence false (h.block r rest fuel hlen)
    simpa [marks, node] using this

theorem spelled_object {entry : String × Json} {entries : List (String × Json)}
    (h : SpelledFields (entry :: entries)) : Spelled (.object (entry :: entries)) := by
  intro inField r rest fuel hf _
  obtain ⟨fuel, rfl⟩ : ∃ k, fuel = k + 1 := ⟨fuel - 1, by omega⟩
  have hlen : 3 * (fieldMarks (entry :: entries)).length + 1 ≤ fuel := by
    simp [marks] at hf
    omega
  have := node?_blockMapping inField (h r rest fuel hlen)
  simpa [marks, node] using this

theorem not_isAt {value : Json} (h : Starts value) (inField : Bool) {ends : List Token}
    (hu : ∀ token ∈ ends, isNoStart inField token = true) :
    (r.withTokens (marks inField value ++ rest)).isAt ends = false := by
  obtain ⟨token, tail, hmarks, hs⟩ := h inField
  rw [Remaining.isAt, hmarks]
  show ends.elem token = false
  rw [Bool.eq_false_iff]
  intro hmem
  rw [hu token (List.mem_of_elem_eq_true hmem)] at hs
  exact Bool.noConfusion hs

/-- The value of a field or an item is not left out. -/
theorem nodeUnless?_marks {value : Json} (hs : Starts value) (h : Spelled value) (inField : Bool)
    {ends : List Token} (hu : ∀ token ∈ ends, isNoStart inField token = true)
    (hf : 3 * (marks inField value).length + 3 ≤ fuel)
    (hrest : inField = true → rest.head? ≠ some .blockEntry) :
    nodeUnless? fuel ends true inField (r.withTokens (marks inField value ++ rest)) =
      some (node value, r.withTokens rest) := by
  obtain ⟨fuel, rfl⟩ : ∃ k, fuel = k + 1 := ⟨fuel - 1, by omega⟩
  rw [nodeUnless?, if_neg (by rw [not_isAt hs inField hu]; exact Bool.false_ne_true)]
  exact h inField r rest fuel (by omega) hrest

theorem spelledItems_nil : SpelledItems [] where
  block := by
    intro r rest fuel hf
    obtain ⟨fuel, rfl⟩ : ∃ k, fuel = k + 1 := ⟨fuel - 1, by simp [itemMarks] at hf; omega⟩
    rfl
  indentless := by
    intro r rest fuel hf hrest
    obtain ⟨fuel, rfl⟩ : ∃ k, fuel = k + 1 := ⟨fuel - 1, by simp [itemMarks] at hf; omega⟩
    show indentlessItems? (fuel + 1) (r.withTokens rest) = _
    unfold indentlessItems?
    split
    · next heq =>
      rw [show rest = _ from heq] at hrest
      exact absurd rfl hrest
    · rfl

theorem spelledItems_cons {value : Json} {values : List Json} (hs : Starts value)
    (hv : Spelled value) (hr : SpelledItems values) : SpelledItems (value :: values) where
  block := by
    intro r rest fuel hf
    simp only [itemMarks, List.length_cons, List.length_append, List.cons_append,
      List.append_assoc] at hf ⊢
    obtain ⟨fuel, rfl⟩ : ∃ k, fuel = k + 1 := ⟨fuel - 1, by omega⟩
    have hnode : nodeUnless? fuel [.blockEntry, .blockEnd] true false
        (r.withTokens (marks false value ++ (itemMarks values ++ .blockEnd :: rest))) =
          some (node value, r.withTokens (itemMarks values ++ .blockEnd :: rest)) :=
      nodeUnless?_marks hs hv false (by decide) (by omega) (by simp)
    have hitems := hr.block r rest fuel (by omega)
    rw [blockItems?]
    simp only [Remaining.tokens_withTokens, Remaining.withTokens_withTokens, hnode, hitems,
      Option.bind_eq_bind, Option.bind_some]
    rfl
  indentless := by
    intro r rest fuel hf hrest
    simp only [itemMarks, List.length_cons, List.length_append, List.cons_append,
      List.append_assoc] at hf ⊢
    obtain ⟨fuel, rfl⟩ : ∃ k, fuel = k + 1 := ⟨fuel - 1, by omega⟩
    have hnode : nodeUnless? fuel [.blockEntry, .key, .value, .blockEnd] true false
        (r.withTokens (marks false value ++ (itemMarks values ++ rest))) =
          some (node value, r.withTokens (itemMarks values ++ rest)) :=
      nodeUnless?_marks hs hv false (by decide) (by omega) (by simp)
    have hitems := hr.indentless r rest fuel (by omega) hrest
    rw [indentlessItems?]
    simp only [Remaining.tokens_withTokens, Remaining.withTokens_withTokens, hnode, hitems,
      Option.bind_eq_bind, Option.bind_some]
    rfl

/-- What comes after the value of a field is no item. -/
theorem head_fieldMarks (entries : List (String × Json)) (rest : List Token) :
    (fieldMarks entries ++ .blockEnd :: rest).head? ≠ some .blockEntry := by
  cases entries with
  | nil => simp [fieldMarks]
  | cons entry entries => simp [fieldMarks]

theorem spelledFields_nil : SpelledFields [] := by
  intro r rest fuel hf
  obtain ⟨fuel, rfl⟩ : ∃ k, fuel = k + 1 := ⟨fuel - 1, by simp [fieldMarks] at hf; omega⟩
  rfl

theorem spelledFields_cons {name : String} {value : Json} {entries : List (String × Json)}
    (hs : Starts value) (hv : Spelled value) (hr : SpelledFields entries) :
    SpelledFields ((name, value) :: entries) := by
  intro r rest fuel hf
  simp only [fieldMarks, List.length_cons, List.length_append, List.cons_append,
    List.append_assoc] at hf ⊢
  obtain ⟨fuel, rfl⟩ : ∃ k, fuel = k + 3 := ⟨fuel - 3, by omega⟩
  have hnode : nodeUnless? (fuel + 2) [.key, .value, .blockEnd] true true
      (r.withTokens (marks true value ++ (fieldMarks entries ++ .blockEnd :: rest))) =
        some (node value, r.withTokens (fieldMarks entries ++ .blockEnd :: rest)) :=
    nodeUnless?_marks hs hv true (by decide) (by omega) fun _ => head_fieldMarks entries rest
  have hentries := hr r rest (fuel + 2) (by omega)
  have hkey : ∀ rest, nodeUnless? (fuel + 2) [.key, .value, .blockEnd] true true
      (r.withTokens (.scalar .plain name.toList :: rest)) =
        some (.scalar none none .plain name.toList, r.withTokens rest) := fun _ => rfl
  rw [blockEntries?]
  simp only [Remaining.tokens_withTokens, Remaining.withTokens_withTokens, hkey, hnode, hentries,
    Option.bind_eq_bind, Option.bind_some]
  rfl

/-- Every value that can be written is spelled by its tokens. -/
theorem spelled_parts :
    Steps (fun value => Starts value ∧ Spelled value) SpelledItems SpelledFields where
  scalar value style text h := by
    constructor
    · intro inField
      exact ⟨_, [], marks_scalar h inField, by cases inField <;> rfl⟩
    · intro inField r rest fuel hf _
      obtain ⟨fuel, rfl⟩ : ∃ k, fuel = k + 1 := ⟨fuel - 1, by omega⟩
      rw [marks_scalar h, node_scalar h]
      exact node?_scalar true inField style.form text
  emptyArray := by
    constructor
    · intro inField
      exact ⟨_, _, rfl, by cases inField <;> rfl⟩
    · intro inField r rest fuel hf _
      obtain ⟨fuel, rfl⟩ : ∃ k, fuel = k + 2 := ⟨fuel - 2, by omega⟩
      exact node?_emptySequence true inField
  emptyObject := by
    constructor
    · intro inField
      exact ⟨_, _, rfl, by cases inField <;> rfl⟩
    · intro inField r rest fuel hf _
      obtain ⟨fuel, rfl⟩ : ∃ k, fuel = k + 2 := ⟨fuel - 2, by omega⟩
      exact node?_emptyMapping true inField
  array value values h := by
    refine ⟨fun inField => ?_, spelled_array h⟩
    cases inField with
    | true => exact ⟨_, _, rfl, rfl⟩
    | false => exact ⟨_, _, rfl, rfl⟩
  object entry entries h := ⟨fun inField => ⟨_, _, rfl, by cases inField <;> rfl⟩, spelled_object h⟩
  noItems := spelledItems_nil
  item value values hv hr := spelledItems_cons hv.1 hv.2 hr
  noFields := spelledFields_nil
  field name value entries _ hv hr := spelledFields_cons hv.1 hv.2 hr

/-! ## Documents -/

/-- The tokens of an object with fields spell its node. -/
theorem ofTokens?_marks {entries : List (String × Json)} (hne : entries ≠ [])
    (h : WritableFields entries) :
    ofTokens? (marks false (.object entries)) = some (node (.object entries)) := by
  obtain ⟨entry, rest, rfl⟩ := List.exists_cons_of_ne_nil hne
  have hspelled := (spelled_parts.value (.object (entry :: rest)) h).2 false
    ⟨[], standardHandles, []⟩ [] (4 * (marks false (.object (entry :: rest))).length + 4)
    (by omega) (by simp)
  rw [List.append_nil] at hspelled
  show (node? (4 * (marks false (.object (entry :: rest))).length + 4) true false
    (Remaining.withTokens ⟨[], standardHandles, []⟩ (marks false (.object (entry :: rest))))).bind
      _ = _
  rw [hspelled]
  rfl

end Node

end RoleDiscovery.Yaml
