import RoleDiscovery.Json.Basic
import RoleDiscovery.Shape
import RoleDiscovery.SortedMap
import RoleDiscovery.Text.Base64
import RoleDiscovery.Timestamp.Parser

/-!
# Codecs

How a type is written as a JSON value and read back. The codec of a record is put together from one
entry per field, so the two directions and the shape of the document cannot drift apart.

Results:

* `Codec`: the shape of a type's documents, its writer and its reader.
* `Codec.text`, `Codec.int32` and their companions: scalars; `Codec.any`: values of any shape.
* `Codec.list`, `Codec.map`: collections.
* `Codec.Entry`: a field of a record `σ`, with `<$>` and `<*>` to combine fields.
* `Codec.strict`, `Codec.lenient`: the codec of a record, without and with tolerance.
-/

namespace RoleDiscovery

/-- A type's form as a JSON value. -/
structure Codec (α : Type) where
  /-- What a document of the type looks like. -/
  shape : Shape
  /-- The value that is written. -/
  encode : α → Json
  /-- The value that is read, if it has the right form. -/
  decode : Json → Option α

namespace Codec

variable {α β σ : Type}

/-! ## Scalars -/

/-- A text. -/
def text : Codec String where
  shape := .text
  encode := .text
  decode
    | .text value => some value
    | _ => none

/-- A truth value. -/
def bool : Codec Bool where
  shape := .bool
  encode := .bool
  decode
    | .bool value => some value
    | _ => none

/-- A whole number of 32 bits. -/
def int32 : Codec Int32 where
  shape := .int
  encode n := .int n.toInt
  decode
    | .int n =>
      if Int32.minValue.toInt ≤ n ∧ n ≤ Int32.maxValue.toInt then some (Int32.ofInt n) else none
    | _ => none

/-- A whole number of 64 bits. -/
def int64 : Codec Int64 where
  shape := .int
  encode n := .int n.toInt
  decode
    | .int n =>
      if Int64.minValue.toInt ≤ n ∧ n ≤ Int64.maxValue.toInt then some (Int64.ofInt n) else none
    | _ => none

/-- A type whose values are spelled as texts. -/
def spelled (print : α → String) (parse? : String → Option α) : Codec α where
  shape := .text
  encode a := .text (print a)
  decode
    | .text value => parse? value
    | _ => none

/-- A point in time. -/
def timestamp : Codec Timestamp :=
  spelled Timestamp.print Timestamp.parse?

/-- A binary value. Null is read as the empty one. -/
def base64 : Codec Base64 where
  shape := .nullable .text
  encode value := .text value.text
  decode
    | .null => some Base64.empty
    | .text value => Base64.ofString? value
    | _ => none

/-- Any value, with the fields of objects in the order of their names. -/
def any : Codec Json where
  shape := .any
  encode value := value
  decode value := some value.canonical

/-! ## Collections -/

/-- A list. -/
def list (item : Codec α) : Codec (List α) where
  shape := .list item.shape
  encode items := .array (items.map item.encode)
  decode
    | .array items => items.mapM item.decode
    | _ => none

/-- A map from texts, written as an object. -/
def map (item : Codec α) : Codec (SortedMap α) where
  shape := .map item.shape
  encode entries := .object (entries.entries.map fun (key, value) => (key, item.encode value))
  decode
    | .object fields => do
      let entries ← fields.mapM fun (key, value) => (item.decode value).map (key, ·)
      return SortedMap.ofList entries
    | _ => none

/-- Reads null as unset. -/
def nullable (item : Codec α) : Json → Option (Option α)
  | .null => some none
  | value => (item.decode value).map some

/-! ## Records -/

/-- A part of a record `σ`: the fields it occupies, how it writes them and what it reads. -/
structure Entry (σ α : Type) where
  /-- The fields in the order in which they are written. -/
  fields : List Shape.Field
  /-- The fields that a record has. -/
  write : σ → List (String × Json)
  /-- The value that the fields of a document give. -/
  read : List (String × Json) → Option α

namespace Entry

instance : Applicative (Entry σ) where
  pure a := ⟨[], fun _ => [], fun _ => some a⟩
  seq f x :=
    { fields := f.fields ++ (x ()).fields
      write := fun s => f.write s ++ (x ()).write s
      read := fun fields => do
        let g ← f.read fields
        let a ← (x ()).read fields
        return g a }

/-- An entry of a part of a record. -/
def of {τ : Type} (entry : Entry σ α) (part : τ → σ) : Entry τ α where
  fields := entry.fields
  write t := entry.write (part t)
  read := entry.read

/-- The field of a document under `name`: `none` if it is missing. Every value that is written under
the name has to be readable, and the last one counts. -/
def last? (name : String) (read : Json → Option β) (fields : List (String × Json)) :
    Option (Option β) := do
  let values ← (Json.occurrences name fields).mapM read
  return values.getLast?

/-- A field that has to be given. -/
def required (name : String) (item : Codec α) (get : σ → α) : Entry σ α where
  fields := [(name, item.shape)]
  write s := [(name, item.encode (get s))]
  read fields := (last? name item.decode fields).join

/-- A field that may be missing or null and is written only if it is set. -/
def optional (name : String) (item : Codec α) (get : σ → Option α) : Entry σ (Option α) where
  fields := [(name, .nullable item.shape)]
  write s := (get s).toList.map fun a => (name, item.encode a)
  read fields := (last? name item.nullable fields).map Option.join

/-- A field that may be missing, but not null, and is always written. -/
def defaulted (name : String) (item : Codec α) (default : α) (get : σ → α) : Entry σ α where
  fields := [(name, item.shape)]
  write s := [(name, item.encode (get s))]
  read fields := (last? name item.decode fields).map (·.getD default)

/-- A list that may be missing, but not null, and is written only if it is not empty. -/
def nonempty (name : String) (item : Codec α) (get : σ → List α) : Entry σ (List α) where
  fields := [(name, (list item).shape)]
  write s := if (get s).isEmpty then [] else [(name, (list item).encode (get s))]
  read fields := (last? name (list item).decode fields).map (·.getD [])

/-- A field that may be missing or null, which both mean the default, and is always written. -/
def filled (name : String) (item : Codec α) (default : α) (get : σ → α) : Entry σ α where
  fields := [(name, .nullable item.shape)]
  write s := [(name, item.encode (get s))]
  read fields := (last? name item.nullable fields).map (·.join.getD default)

end Entry

/-- The fields of an object in which none of `names` occurs twice. A list gives its items the names
in order; it may stop early. -/
def strictFields? (names : List String) : Json → Option (List (String × Json))
  | .object fields =>
    if names.all fun name => (Json.occurrences name fields).length ≤ 1 then some fields else none
  | .array items => if items.length ≤ names.length then some (names.zip items) else none
  | _ => none

/-- A record in which a field may not be written twice. It may also be given as a list. -/
def strict (entry : Entry α α) : Codec α where
  shape := .record entry.fields
  encode a := .object (entry.write a)
  decode value := (strictFields? (entry.fields.map Prod.fst) value).bind entry.read

/-- A record of the Kubernetes interface: an object whose fields may be repeated, the last one of a
name counting. -/
def lenient (entry : Entry α α) : Codec α where
  shape := .record entry.fields
  encode a := .object (entry.write a)
  decode
    | .object fields => entry.read fields
    | _ => none

end Codec

end RoleDiscovery
