import RoleDiscovery.Json.Printer
import RoleDiscovery.SortedMap

/-!
# Differences of JSON values

Compares two values place by place. Null and an empty list or object count as the same, since a
collection that is left out means an empty one. Lists are compared item by item, so order matters.

Results:

* `Difference`: a place at which two values differ, or at which two lists differ in length.
* `Json.differences`: all differences of two values, in the order of the places.
* `Comparison`: the outcome of a comparison, and the lines of the report that shows it.
-/

namespace RoleDiscovery

/-! ## Places -/

/-- A step into a value: to a field of an object or to an item of a list. -/
inductive Step where
  | field (name : String)
  | item (index : Nat)
  deriving DecidableEq

/-- The place of a value inside another one, from the outside in. -/
abbrev Path := List Step

/-- The text of a place, after that of the places around it. -/
def Step.extend (path : String) : Step → String
  | .field name => if path.isEmpty then name else path ++ "." ++ name
  | .item index => path ++ "[" ++ toString index ++ "]"

/-- The text of a place. -/
def Path.text (path : Path) : String :=
  path.foldl Step.extend ""

/-- A difference of two values: one of them is absent, or they differ at a place, or lists at a
place differ in length. -/
inductive Difference where
  | oldAbsent
  | newAbsent
  | value (path : Path) (old new : Json)
  | length (path : Path) (old new : Nat)

/-- The line of a report that shows a difference. -/
def Difference.text : Difference → String
  | .oldAbsent => "old is absent"
  | .newAbsent => "new is absent"
  | .value path old new =>
    path.text ++ ": " ++ old.canonical.compact ++ " -> " ++ new.canonical.compact
  | .length path old new => path.text ++ ": length " ++ toString old ++ " -> " ++ toString new

/-! ## Comparing -/

namespace Json

/-- Whether two values that are compared as a whole are the same. Decimals are compared as
numbers. -/
def equals : Json → Json → Bool
  | .decimal old, .decimal new => old.equals new
  | old, new => old = new

/-- Null and the empty collections. -/
def isEmpty : Json → Bool
  | .null => true
  | .array items => items.isEmpty
  | .object fields => fields.isEmpty
  | _ => false

/-- The value under a name, or null. -/
def fieldOrNull (fields : List (String × Json)) (name : String) : Json :=
  (lookup name fields).getD .null

/-- The item at an index, or null. -/
def itemOrNull (items : List Json) (index : Nat) : Json :=
  (items[index]?).getD .null

theorem sizeOf_lookup {name : String} {fields : List (String × Json)} {value : Json}
    (h : lookup name fields = some value) : sizeOf value < sizeOf fields := by
  induction fields with
  | nil => simp [lookup] at h
  | cons head rest ih =>
    obtain ⟨key, current⟩ := head
    simp only [lookup] at h
    cases later : lookup name rest with
    | some found =>
      simp only [later, Option.orElse_eq_orElse, Option.orElse_some, Option.some.injEq] at h
      have := ih (by rw [later, h])
      simp only [List.cons.sizeOf_spec]
      omega
    | none =>
      simp only [later, Option.orElse_eq_orElse, Option.orElse_none] at h
      split at h
      · simp only [Option.some.injEq] at h
        subst h
        simp only [List.cons.sizeOf_spec, Prod.mk.sizeOf_spec]
        omega
      · simp at h

theorem sizeOf_fieldOrNull (fields : List (String × Json)) (name : String) :
    sizeOf (fieldOrNull fields name) < sizeOf (Json.object fields) := by
  unfold fieldOrNull
  cases h : lookup name fields with
  | none =>
    cases fields <;> simp only [Option.getD_none, Json.null.sizeOf_spec, Json.object.sizeOf_spec,
      List.nil.sizeOf_spec, List.cons.sizeOf_spec] <;> omega
  | some value =>
    have := sizeOf_lookup h
    simp only [Option.getD_some, Json.object.sizeOf_spec]
    omega

theorem sizeOf_itemOrNull (items : List Json) (index : Nat) :
    sizeOf (itemOrNull items index) < sizeOf (Json.array items) := by
  unfold itemOrNull
  cases h : items[index]? with
  | none =>
    cases items <;> simp only [Option.getD_none, Json.null.sizeOf_spec, Json.array.sizeOf_spec,
      List.nil.sizeOf_spec, List.cons.sizeOf_spec] <;> omega
  | some value =>
    have := List.sizeOf_lt_of_mem (List.mem_of_getElem? h)
    simp only [Option.getD_some, Json.array.sizeOf_spec]
    omega

/-- The names of the fields of two objects, in ascending order and each once. -/
def fieldNames (old new : List (String × Json)) : List String :=
  (SortedMap.ofList ((old ++ new).map fun field => (field.1, ()))).entries.map Prod.fst

/-- The difference in length of two lists at a place, if there is one. -/
def lengthDifference (path : Path) (old new : List Json) : List Difference :=
  if old.length = new.length then [] else [.length path old.length new.length]

/-- The differences of two values that stand at a place, in the order of the places below it. -/
def differencesAt (path : Path) (old new : Json) : List Difference :=
  if old.isEmpty && new.isEmpty then []
  else match old, new with
    | .object old, .object new =>
      (fieldNames old new).flatMap fun name =>
        differencesAt (path ++ [.field name]) (fieldOrNull old name) (fieldOrNull new name)
    | .array old, .array new =>
      lengthDifference path old new ++
        (List.range (max old.length new.length)).flatMap fun index =>
          differencesAt (path ++ [.item index]) (itemOrNull old index) (itemOrNull new index)
    | .null, .array new =>
      lengthDifference path [] new ++
        (List.range new.length).flatMap fun index =>
          differencesAt (path ++ [.item index]) .null (itemOrNull new index)
    | .array old, .null =>
      lengthDifference path old [] ++
        (List.range old.length).flatMap fun index =>
          differencesAt (path ++ [.item index]) (itemOrNull old index) .null
    | old, new => if old.equals new then [] else [.value path old new]
termination_by sizeOf old + sizeOf new
decreasing_by
  · have := sizeOf_fieldOrNull old name
    have := sizeOf_fieldOrNull new name
    omega
  · have := sizeOf_itemOrNull old index
    have := sizeOf_itemOrNull new index
    omega
  · have := sizeOf_itemOrNull new index
    omega
  · have := sizeOf_itemOrNull old index
    omega

/-- The differences of two values. -/
def differences (old new : Json) : List Difference :=
  differencesAt [] old new

end Json

/-! ## Outcome -/

/-- The outcome of a comparison. -/
structure Comparison where
  differences : List Difference

namespace Comparison

/-- Without a difference two things count as equal. -/
def isEqual (comparison : Comparison) : Bool :=
  comparison.differences.isEmpty

/-- The lines of a comparison, one for each difference. -/
def lines (comparison : Comparison) : List String :=
  comparison.differences.map Difference.text

/-- The report of a comparison: its lines. -/
def report (comparison : Comparison) : String :=
  "\n".intercalate comparison.lines

/-- Compares two things that may be absent. -/
def ofOptions {α : Type} (compare : α → α → List Difference) : Option α → Option α → Comparison
  | none, none => ⟨[]⟩
  | none, some _ => ⟨[.oldAbsent]⟩
  | some _, none => ⟨[.newAbsent]⟩
  | some old, some new => ⟨compare old new⟩

end Comparison

end RoleDiscovery
