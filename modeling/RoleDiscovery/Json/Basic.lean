import RoleDiscovery.Double.Basic

/-!
# JSON values

The value type that every resource is read from and written to. An object keeps its fields in
written order and may name a field more than once; the last occurrence counts.

Results:

* `Json.field?`: the value of a field, the last one written under its name.
* `Json.canonical`: the same value with the fields of every object in key order, one per name.
* `Json.decEq`: equality of values is decidable.
-/

namespace RoleDiscovery

/-- A JSON value. A number is whole and exact, or a double. -/
inductive Json where
  | null
  | bool (value : Bool)
  | int (value : Int)
  | decimal (value : Double)
  | text (value : String)
  | array (items : List Json)
  | object (fields : List (String × Json))
  deriving Inhabited

namespace Json

/-! ## Equality -/

mutual

/-- Decides equality of two values. -/
def decEq : (a b : Json) → Decidable (a = b)
  | .null, .null => .isTrue rfl
  | .bool a, .bool b => decidable_of_iff (a = b) (by simp)
  | .int a, .int b => decidable_of_iff (a = b) (by simp)
  | .decimal a, .decimal b => decidable_of_iff (a = b) (by simp)
  | .text a, .text b => decidable_of_iff (a = b) (by simp)
  | .array a, .array b =>
    match decEqItems a b with
    | .isTrue h => .isTrue (by rw [h])
    | .isFalse h => .isFalse (by simpa using h)
  | .object a, .object b =>
    match decEqFields a b with
    | .isTrue h => .isTrue (by rw [h])
    | .isFalse h => .isFalse (by simpa using h)
  | .null, .bool _ | .null, .int _ | .null, .decimal _ | .null, .text _ | .null, .array _
  | .null, .object _ | .bool _, .null | .bool _, .int _ | .bool _, .decimal _ | .bool _, .text _
  | .bool _, .array _ | .bool _, .object _ | .int _, .null | .int _, .bool _
  | .int _, .decimal _ | .int _, .text _ | .int _, .array _ | .int _, .object _
  | .decimal _, .null | .decimal _, .bool _ | .decimal _, .int _ | .decimal _, .text _
  | .decimal _, .array _ | .decimal _, .object _ | .text _, .null | .text _, .bool _
  | .text _, .int _ | .text _, .decimal _ | .text _, .array _ | .text _, .object _
  | .array _, .null | .array _, .bool _ | .array _, .int _ | .array _, .decimal _
  | .array _, .text _ | .array _, .object _ | .object _, .null | .object _, .bool _
  | .object _, .int _ | .object _, .decimal _ | .object _, .text _ | .object _, .array _ =>
    .isFalse (by simp)

/-- Decides equality of two lists of values. -/
def decEqItems : (a b : List Json) → Decidable (a = b)
  | [], [] => .isTrue rfl
  | [], _ :: _ => .isFalse (by simp)
  | _ :: _, [] => .isFalse (by simp)
  | x :: xs, y :: ys =>
    match decEq x y, decEqItems xs ys with
    | .isTrue h, .isTrue t => .isTrue (by rw [h, t])
    | .isFalse h, _ => .isFalse (by simp [h])
    | _, .isFalse t => .isFalse (by simp [t])

/-- Decides equality of two lists of fields. -/
def decEqFields : (a b : List (String × Json)) → Decidable (a = b)
  | [], [] => .isTrue rfl
  | [], _ :: _ => .isFalse (by simp)
  | _ :: _, [] => .isFalse (by simp)
  | (k, x) :: xs, (l, y) :: ys =>
    match decEq x y, decEqFields xs ys with
    | .isTrue h, .isTrue t =>
      if e : k = l then .isTrue (by rw [h, t, e]) else .isFalse (by simp [e])
    | .isFalse h, _ => .isFalse (by simp [h])
    | _, .isFalse t => .isFalse (by simp [t])

end

instance : DecidableEq Json := decEq

/-! ## Fields -/

/-- The value under `name` in a list of fields: the last one of that name. -/
def lookup (name : String) : List (String × Json) → Option Json
  | [] => none
  | (key, value) :: rest => lookup name rest <|> if key = name then some value else none

/-- All values under `name` in a list of fields, in written order. -/
def occurrences (name : String) (fields : List (String × Json)) : List Json :=
  fields.filterMap fun (key, value) => if key = name then some value else none

/-- The value of the field `name`, if the value is an object that has one. -/
def field? (name : String) : Json → Option Json
  | .object fields => lookup name fields
  | _ => none

/-- An object made of the entries that have a value: an unset entry leaves no trace. -/
def record (entries : List (String × Option Json)) : Json :=
  .object (entries.filterMap fun (name, value?) => value?.map (name, ·))

/-! ## Key order -/

/-- Puts a field in its place among fields in strictly ascending key order. A field of that name
that is already there was written later, so it stays. -/
def insertField (key : String) (value : Json) : List (String × Json) → List (String × Json)
  | [] => [(key, value)]
  | (other, current) :: rest =>
    if key < other then (key, value) :: (other, current) :: rest
    else if key = other then (other, current) :: rest
    else (other, current) :: insertField key value rest

mutual

/-- The same value with every object in strictly ascending key order, at every depth. -/
def canonical : Json → Json
  | .array items => .array (canonicalItems items)
  | .object fields => .object (canonicalFields fields)
  | .null => .null
  | .bool value => .bool value
  | .int value => .int value
  | .decimal value => .decimal value
  | .text value => .text value

/-- Every item in canonical form. -/
def canonicalItems : List Json → List Json
  | [] => []
  | item :: rest => item.canonical :: canonicalItems rest

/-- The fields in key order, each in canonical form; the last of a name counts. -/
def canonicalFields : List (String × Json) → List (String × Json)
  | [] => []
  | (key, value) :: rest => insertField key value.canonical (canonicalFields rest)

end

end Json

end RoleDiscovery
