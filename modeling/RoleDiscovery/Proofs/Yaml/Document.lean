import RoleDiscovery.Proofs.Yaml.Tree
import RoleDiscovery.Yaml.Document

/-!
# Documents read back

A value is read from its own document, if it has the shape that the reader goes by.

Results:

* `Yaml.Reads`: the node of a value is read as the value.
* `Yaml.reads_list`, `Yaml.reads_record`: collections are read by their parts.
* `Yaml.parse?_print`: the document of an object is read as the object.
-/

namespace RoleDiscovery.Yaml

open Node

/-- The node of a value is read as the value wherever it stands, and no alias is followed. -/
def Reads (shape : Shape) (value : Json) : Prop :=
  ∀ root depth, Node.read root depth shape (node value) = pure value

/-- The node of a value does not stand for null. -/
def IsSet (value : Json) : Prop :=
  isNull? (node value) = some false

/-- No value is written as an alias. -/
theorem follow_node (root : Node) (value : Json) :
    follow root (node value) = pure (node value) := by
  cases value with
  | bool b => cases b <;> rfl
  | _ => rfl

/-! ## Scalars -/

theorem isText_of_ofText {s : List Char} (h : Style.ofText s = .plain) : Plain.isText s = true := by
  unfold Style.ofText at h
  split_ifs at h with _ _ hp
  exact (Bool.and_eq_true_iff.1 hp).1

theorem isSet_text (s : String) : IsSet (.text s) := by
  show isNull? (.scalar none none (Style.ofText s.toList).form s.toList) = some false
  cases h : Style.ofText s.toList with
  | plain =>
    have ht := isText_of_ofText h
    simp only [Plain.isText, Bool.not_eq_true', Bool.or_eq_false_iff] at ht
    show some (s.toList.isEmpty || Plain.isNull s.toList) = some false
    rw [ht.1.1.1.1.1, ht.1.1.1.1.2]
    rfl
  | _ => rfl

theorem isSet_int (n : Int) : IsSet (.int n) := by
  show some ((toString n).toList.isEmpty || Plain.isNull (toString n).toList) = some false
  have hint := Plain.int?_toString n
  have hne := Style.toString_ne_nil n
  generalize (toString n).toList = s at hint hne
  have hnull : Plain.isNull s = false := by
    rw [Bool.eq_false_iff]
    intro h
    simp only [Plain.isNull, Bool.or_eq_true, decide_eq_true_eq] at h
    have hnone : Plain.int? s = none := by
      rcases h with ((rfl | rfl) | rfl) | rfl <;> rfl
    rw [hnone] at hint
    cases hint
  rw [hnull, List.isEmpty_eq_false_iff.2 hne]
  rfl

theorem reads_text (s : String) : Reads .text (.text s) := by
  intro root depth
  show (pure (.text (String.ofList s.toList)) : Reading Json) = pure (.text s)
  rw [String.ofList_toList]

theorem reads_choice (s : String) : Reads .choice (.text s) := by
  intro root depth
  show (pure (.text (String.ofList s.toList)) : Reading Json) = pure (.text s)
  rw [String.ofList_toList]

theorem reads_int (n : Int) : Reads .int (.int n) := by
  intro root depth
  have hspell : (spelling? "int" (node (.int n))).bind Plain.int? = some n := Plain.int?_toString n
  rw [Node.read, follow_node, pure_bind, hspell]

theorem reads_nullable {shape : Shape} {value : Json} (hs : IsSet value) (h : Reads shape value) :
    Reads (.nullable shape) value := by
  intro root depth
  rw [Node.read, follow_node, pure_bind, show isNull? (node value) = some false from hs]
  exact h root depth

/-! ## Collections -/

theorem isSet_array (values : List Json) : IsSet (.array values) := rfl

theorem isSet_object (entries : List (String × Json)) : IsSet (.object entries) := rfl

theorem mapM_itemNodes {root : Node} {depth : Nat} {item : Shape} {values : List Json}
    (h : ∀ value ∈ values, Reads item value) :
    (itemNodes values).mapM (fun node => Node.read root depth item node) = pure values := by
  induction values with
  | nil => rfl
  | cons value values ih =>
    rw [itemNodes, List.mapM_cons, h value List.mem_cons_self root depth,
      ih fun v hv => h v (List.mem_cons_of_mem _ hv), pure_bind, pure_bind]

theorem reads_list {item : Shape} {values : List Json} (h : ∀ value ∈ values, Reads item value) :
    Reads (.list item) (.array values) := by
  intro root depth
  rw [Node.read, follow_node, pure_bind, node]
  show (do return Json.array (← (itemNodes values).mapM fun node =>
    Node.read root (depth - 1) item node)) = _
  rw [mapM_itemNodes h, pure_bind]

/-- The value of a field of a record is read by the shape of the field. -/
theorem readField_of_mem {root : Node} {depth : Nat} {fields : List (String × Shape)}
    {name : String} {shape : Shape} {value : Json} (hnd : (fields.map Prod.fst).Nodup)
    (hm : (name, shape) ∈ fields)
    (h : Reads shape value) :
    readField root depth fields name (node value) = pure (some value) := by
  induction fields with
  | nil => cases hm
  | cons field fields ih =>
    obtain ⟨field, shape'⟩ := field
    rw [List.map_cons, List.nodup_cons] at hnd
    rw [readField]
    cases hm with
    | head => rw [if_pos rfl, h root depth, map_pure]
    | tail _ hm =>
      have hne : field ≠ name := by
        rintro rfl
        exact hnd.1 (List.mem_map.2 ⟨_, hm, rfl⟩)
      rw [if_neg hne, ih hnd.2 hm]

/-- What is read of a field. -/
def readEntry (root : Node) (depth : Nat) (fields : List (String × Shape)) (entry : Node × Node) :
    Reading (Option (String × Json)) := do
  let name ← Node.name root entry.1
  return (← readField root depth fields name entry.2).map (name, ·)

theorem readEntry_of_mem {root : Node} {depth : Nat} {fields : List (String × Shape)}
    {name : String} {shape : Shape} {value : Json} (hnd : (fields.map Prod.fst).Nodup)
    (hm : (name, shape) ∈ fields)
    (h : Reads shape value) :
    readEntry root depth fields (.scalar none none .plain name.toList, node value) =
      pure (some (name, value)) := by
  have hname : Node.name root (.scalar none none .plain name.toList) = pure name := by
    show (pure (String.ofList name.toList) : Reading String) = pure name
    rw [String.ofList_toList]
  rw [readEntry, hname, pure_bind, readField_of_mem hnd hm h]
  rfl

theorem mapM_readEntry {root : Node} {depth : Nat} {fields : List (String × Shape)}
    {entries : List (String × Json)} (hnd : (fields.map Prod.fst).Nodup)
    (h : ∀ entry ∈ entries, ∃ shape, (entry.1, shape) ∈ fields ∧ Reads shape entry.2) :
    (fieldNodes entries).mapM (readEntry root depth fields) = pure (entries.map some) := by
  induction entries with
  | nil => rfl
  | cons entry entries ih =>
    obtain ⟨name, value⟩ := entry
    obtain ⟨shape, hm, hr⟩ := h (name, value) List.mem_cons_self
    rw [fieldNodes, List.mapM_cons, readEntry_of_mem hnd hm hr, pure_bind,
      ih fun e he => h e (List.mem_cons_of_mem _ he), pure_bind]
    rfl

theorem reads_record {fields : List (String × Shape)} {entries : List (String × Json)}
    (hnd : (fields.map Prod.fst).Nodup)
    (h : ∀ entry ∈ entries, ∃ shape, (entry.1, shape) ∈ fields ∧ Reads shape entry.2) :
    Reads (.record fields) (.object entries) := by
  intro root depth
  rw [Node.read, follow_node, pure_bind, node]
  show (do
    let read ← (fieldNodes entries).mapM (readEntry root (depth - 1) fields)
    return Json.object (read.filterMap id)) = _
  rw [mapM_readEntry hnd h, pure_bind, List.filterMap_map]
  simp

/-! ## Documents -/

/-- The document of an object is read as the object, if the object has the shape. -/
theorem parse?_print {shape : Shape} {entries : List (String × Json)} (hne : entries ≠ [])
    (hw : WritableFields entries) (h : Reads shape (.object entries)) :
    parse? shape (print (.object entries)) = some (.object entries) := by
  rw [parse?, ofText?_print hne hw]
  show (ofTokens? (marks false (.object entries))).bind _ = _
  rw [ofTokens?_marks hne hw]
  show ((Node.read _ 128 shape (node (.object entries))).run 0).bind _ = _
  rw [h]
  show (if 0 ≤ 100 * (node (.object entries)).size then some (Json.object entries) else none) = _
  rw [if_pos (Nat.zero_le _)]

end RoleDiscovery.Yaml
