import RoleDiscovery.Proofs.Comparison.Path
import RoleDiscovery.Proofs.Comparison.Place

/-!
# Comparison from both sides

What a comparison lists can be checked against the two values alone: the values or lengths that a
difference shows are those at its place, and seen from the other side they are exchanged. This
holds of all pairs of values, also of a list and an object, and of null and a list of nulls. A line
of the report is printed for each difference in turn: its place, and the two values or lengths.

Results:

* `Json.valueAt`: the value at a place in a value, null if there is none.
* `Path.Spells`, `Difference.Prints`: the form of a place and of a line.
* `Json.differencesAt_exchanged`: the differences from the other side.
* `Json.tells_of_mem`: a difference tells apart what is at its place.
* `Json.nodup_places`: no two differences stand at the same place.
* `Json.compared_from_both_sides`: all this together.
-/

namespace RoleDiscovery

/-- A difference as it is seen from the other side. -/
def Difference.exchanged : Difference → Difference
  | .oldAbsent => .newAbsent
  | .newAbsent => .oldAbsent
  | .value path old new => .value path new old
  | .length path old new => .length path new old

/-! ## The form of a line -/

/-- How a place is spelled: the names of fields are joined by dots, and the indices of items stand
in brackets. The outermost value has no text. -/
inductive Path.Spells : Path → String → Prop
  | root : Spells [] ""
  | field {path : Path} {text : String} (name : String) (h : Spells path text) :
    Spells (path ++ [.field name]) (if text = "" then name else text ++ "." ++ name)
  | item {path : Path} {text : String} (index : Nat) (h : Spells path text) :
    Spells (path ++ [.item index]) (text ++ "[" ++ toString index ++ "]")

/-- How a difference is printed: its place, and then the old and the new value, with the fields of
objects in the order of their names, or the old and the new length. -/
inductive Difference.Prints : Difference → String → Prop
  | value {path : Path} {text : String} (h : path.Spells text) (old new : Json) :
    Prints (.value path old new)
      (text ++ ": " ++ old.canonical.compact ++ " -> " ++ new.canonical.compact)
  | length {path : Path} {text : String} (h : path.Spells text) (old new : Nat) :
    Prints (.length path old new)
      (text ++ ": length " ++ toString old ++ " -> " ++ toString new)

theorem Path.spells_text (path : Path) : path.Spells path.text := by
  induction path using List.reverseRecOn with
  | nil => exact .root
  | append_singleton path step ih =>
    rw [text_concat]
    cases step with
    | field name =>
      have hextend : (Step.field name).extend (text path) =
          if text path = "" then name else text path ++ "." ++ name := by
        simp only [Step.extend, String.isEmpty_iff]
      rw [hextend]
      exact .field name ih
    | item index => exact .item index ih

/-- A difference that tells two values apart is printed, from either side. -/
theorem Difference.Tells.prints {d : Difference} {place : Path} {old new : Json}
    (h : d.Tells place old new) : d.Prints d.text ∧ d.exchanged.Prints d.exchanged.text := by
  cases h with
  | value _ _ => exact ⟨.value (Path.spells_text place) _ _, .value (Path.spells_text place) _ _⟩
  | length _ _ _ =>
    exact ⟨.length (Path.spells_text place) _ _, .length (Path.spells_text place) _ _⟩

namespace Json

variable {path : Path} {old new value : Json} {a b : List (String × Json)} {x y : List Json}
  {d : Difference}

/-! ## The other side -/

theorem fieldNames_comm (a b : List (String × Json)) : fieldNames a b = fieldNames b a :=
  SortedMap.keys_congr fun _ => mem_fieldNames.trans (Or.comm.trans mem_fieldNames.symm)

theorem lengthDifference_exchanged (path : Path) (x y : List Json) :
    lengthDifference path y x = (lengthDifference path x y).map Difference.exchanged := by
  rw [lengthDifference, lengthDifference]
  by_cases h : x.length = y.length
  · rw [if_pos h, if_pos h.symm]
    rfl
  · rw [if_neg h, if_neg (Ne.symm h)]
    rfl

/-- From the other side there are the same differences in the same order, each exchanged. -/
theorem differencesAt_exchanged (path : Path) (old new : Json) :
    differencesAt path new old = (differencesAt path old new).map Difference.exchanged := by
  induction old, new using layout_induction generalizing path with
  | fields a b ih =>
    rw [differencesAt_fields, differencesAt_fields, List.map_flatMap, fieldNames_comm b a]
    exact List.flatMap_congr fun name _ => ih name _
  | items old new x y hold hnew ih =>
    rw [differencesAt_items hnew hold, differencesAt_items hold hnew, List.map_append,
      List.map_flatMap, lengthDifference_exchanged path x y, Nat.max_comm y.length]
    congr 1
    exact List.flatMap_congr fun index hindex => ih index (List.mem_range.1 hindex) _
  | whole old new h =>
    rw [differencesAt_whole h, differencesAt_whole h.symm, Bool.and_comm, equals_comm new old]
    split_ifs <;> rfl

/-! ## Values at places -/

/-- The part of a value that a step leads to. What is not there counts as null. -/
def part : Json → Step → Json
  | .object fields, .field name => fieldOrNull fields name
  | .array items, .item index => itemOrNull items index
  | _, _ => .null

/-- The value at a place in a value. -/
def valueAt (value : Json) (path : Path) : Json :=
  path.foldl part value

theorem valueAt_step (value : Json) (path : Path) (step : Step) :
    value.valueAt (path ++ [step]) = (value.valueAt path).part step :=
  List.foldl_concat _ _ _ _

theorem part_item (h : value.asList? = some x) (index : Nat) :
    value.part (.item index) = itemOrNull x index := by
  cases value with
  | null | array _ =>
    obtain rfl := Option.some.inj h
    rfl
  | _ => cases h

/-- A difference tells apart what the two values have at its place. -/
theorem tells_of_mem (hd : d ∈ old.differences new) :
    d.Tells d.place (old.valueAt d.place) (new.valueAt d.place) := by
  have horigin : ∃ place u v, (u = old.valueAt place ∧ v = new.valueAt place) ∧
      d.Tells place u v := by
    refine mem_differencesAt ?_ ?_ ⟨rfl, rfl⟩ hd
    · rintro path a b name - ⟨ha, hb⟩
      rw [valueAt_step, valueAt_step, ← ha, ← hb]
      exact ⟨rfl, rfl⟩
    · rintro path u v x y index hx hy ⟨hu, hv⟩
      rw [valueAt_step, valueAt_step, ← hu, ← hv, part_item hx, part_item hy]
      exact ⟨rfl, rfl⟩
  obtain ⟨place, u, v, ⟨rfl, rfl⟩, htells⟩ := horigin
  obtain rfl := htells.place_eq
  exact htells

/-- Null is as long as an empty list, so one of two lengths that differ is that of a list. -/
theorem array_of_tells {m n : Nat} (h : (Difference.length path m n).Tells path old new) :
    (∃ items, old = .array items) ∨ ∃ items, new = .array items := by
  cases h with
  | length hold hnew hne =>
    cases old with
    | array items => exact .inl ⟨items, rfl⟩
    | null =>
      cases new with
      | array items => exact .inr ⟨items, rfl⟩
      | null =>
        obtain rfl := Option.some.inj hold
        obtain rfl := Option.some.inj hnew
        exact absurd rfl hne
      | _ => cases hnew
    | _ => cases hold

/-! ## Distinct places -/

/-- The differences within distinct parts stand at distinct places if those within each part do. -/
theorem nodup_places_parts {β : Type} {index : List β} (hn : index.Nodup) {step : β → Step}
    (hstep : Function.Injective step) {u v : β → Json}
    (h : ∀ b ∈ index,
      ((differencesAt (path ++ [step b]) (u b) (v b)).map Difference.place).Nodup) :
    ((index.flatMap fun b => differencesAt (path ++ [step b]) (u b) (v b)).map
      Difference.place).Nodup := by
  rw [List.map_flatMap, List.nodup_flatMap]
  refine ⟨h, hn.pairwise_of_forall_ne fun b _ c _ hne => List.disjoint_left.2 fun place hb hc => ?_⟩
  obtain ⟨d, hd, rfl⟩ := List.mem_map.1 hb
  obtain ⟨e, he, heq⟩ := List.mem_map.1 hc
  have hprefix := prefix_place he
  rw [heq] at hprefix
  exact hne (hstep (step_unique (prefix_place hd) hprefix))

theorem nodup_lengthDifference : ((lengthDifference path x y).map Difference.place).Nodup := by
  rw [lengthDifference]
  split_ifs
  · exact List.nodup_nil
  · exact List.nodup_singleton path

/-- No two differences stand at the same place. -/
theorem nodup_places (path : Path) (old new : Json) :
    ((differencesAt path old new).map Difference.place).Nodup := by
  induction old, new using layout_induction generalizing path with
  | fields a b ih =>
    rw [differencesAt_fields]
    exact nodup_places_parts (nodup_fieldNames a b) (fun _ _ => Step.field.inj) fun name _ =>
      ih name _
  | items old new x y hold hnew ih =>
    rw [differencesAt_items hold hnew, List.map_append]
    refine nodup_lengthDifference.append (nodup_places_parts List.nodup_range
      (fun _ _ => Step.item.inj) fun index hindex => ih index (List.mem_range.1 hindex) _) ?_
    -- the length stands at the lists themselves, and the items within
    refine List.disjoint_left.2 fun place hlength hitem => ?_
    obtain ⟨d, hd, rfl⟩ := List.mem_map.1 hlength
    obtain ⟨e, he, heq⟩ := List.mem_map.1 hitem
    obtain ⟨index, -, he⟩ := List.mem_flatMap.1 he
    exact place_ne he (heq.trans (place_of_mem_lengthDifference hd))
  | whole old new h =>
    rw [differencesAt_whole h]
    split_ifs
    · exact List.nodup_nil
    · exact List.nodup_nil
    · exact List.nodup_singleton path

/-- The differences of any two values are the same from both sides, but exchanged, and the lines of
either comparison print them one by one; each of them tells apart the two values at its place, by
the values or by the lengths of lists; each has its own place; and a value does not differ from
itself. -/
theorem compared_from_both_sides (old new : Json) :
    new.differences old = (old.differences new).map Difference.exchanged ∧
      (Comparison.lines ⟨old.differences new⟩ = (old.differences new).map Difference.text ∧
        Comparison.lines ⟨new.differences old⟩ =
          (old.differences new).map (fun d => d.exchanged.text) ∧
        ∀ d ∈ old.differences new, d.Prints d.text ∧ d.exchanged.Prints d.exchanged.text) ∧
      (∀ d ∈ old.differences new, d.Tells d.place (old.valueAt d.place) (new.valueAt d.place)) ∧
      (∀ path m n, .length path m n ∈ old.differences new →
        (∃ items, old.valueAt path = .array items) ∨ ∃ items, new.valueAt path = .array items) ∧
      ((old.differences new).map Difference.place).Nodup ∧
      old.differences old = [] := by
  have hexchanged : new.differences old = (old.differences new).map Difference.exchanged :=
    differencesAt_exchanged [] old new
  refine ⟨hexchanged, ⟨rfl, ?_, fun d hd => (tells_of_mem hd).prints⟩, fun d => tells_of_mem,
    fun path m n hd => array_of_tells (tells_of_mem hd), nodup_places [] old new,
    differencesAt_self [] old⟩
  rw [Comparison.lines, hexchanged, List.map_map]
  rfl

/-- A list is compared with an object as a whole, and null with a list as if it were an empty one,
where a null among the items is no difference. -/
theorem compared_from_both_sides_of_mismatch :
    let old : Json := .object [("args", .array [.int 1]), ("roles", .null)]
    let new : Json := .object [("args", .object []), ("roles", .array [.null, .text "worker"])]
    old.differences new =
        [.value [.field "args"] (.array [.int 1]) (.object []), .length [.field "roles"] 0 2,
          .value [.field "roles", .item 1] .null (.text "worker")] ∧
      (∃ items, new.valueAt [.field "roles"] = .array items) ∧
      Comparison.lines ⟨new.differences old⟩ =
        ["args: \x7b\x7d -> [1]", "roles: length 2 -> 0", "roles[1]: \"worker\" -> null"] := by
  intro old new
  have hlisted : old.differences new =
      [.value [.field "args"] (.array [.int 1]) (.object []), .length [.field "roles"] 0 2,
        .value [.field "roles", .item 1] .null (.text "worker")] := by cbv
  obtain ⟨-, ⟨-, hlines, -⟩, -, hlist, -, -⟩ := compared_from_both_sides old new
  refine ⟨hlisted, ?_, ?_⟩
  · have hlength : .length [.field "roles"] 0 2 ∈ old.differences new := by
      rw [hlisted]
      exact List.mem_cons_of_mem _ List.mem_cons_self
    rcases hlist _ _ _ hlength with ⟨items, hitems⟩ | h
    · cases hitems
    · exact h
  · rw [hlines, hlisted]
    decide +kernel

end Json

end RoleDiscovery
