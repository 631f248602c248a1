import RoleDiscovery.Codec

/-!
# Fields that are carried along

The types of the Kubernetes interface have many fields that nothing in this project looks into. Such
a field is checked by its type when a document is read, and it is written again as its type writes
it. What is kept of it in between is the value that is written.

Results:

* `Carried.Form`: a type by the values that it writes; `Carried.Form.record` is the form of records.
* `Carried.Field`: a field that is carried along.
* `Carried`: the values of such fields in a record.
* `Codec.Entry.carried`: the part of a record that is carried along.
-/

namespace RoleDiscovery

namespace Carried

/-! ## Forms -/

/-- A type by the values that it writes. -/
structure Form where
  /-- What a document of the type looks like. -/
  shape : Shape
  /-- The value that is written for one that is read, if that has the right form. -/
  read : Json → Option Json
  /-- The value that stands for a missing one. -/
  default : Json

namespace Form

/-- The form of a type, given its default. -/
def of {α : Type} (codec : Codec α) (default : α) : Form where
  shape := codec.shape
  read value := (codec.decode value).map codec.encode
  default := codec.encode default

/-- The values of a form as a type of their own. -/
def codec (form : Form) : Codec Json where
  shape := form.shape
  encode value := value
  decode := form.read

/-- The form of texts. -/
def text : Form :=
  of .text ""

/-- The form of truth values. -/
def bool : Form :=
  of .bool false

/-- The form of whole numbers of 32 bits. -/
def int32 : Form :=
  of .int32 0

/-- The form of whole numbers of 64 bits. -/
def int64 : Form :=
  of .int64 0

/-- The form of names or numbers, such as those of ports: a whole number of 32 bits or a text. -/
def intOrText : Form where
  shape := .any
  read
    | .text value => some (.text value)
    | value => int32.read value
  default := int32.default

/-- The form of lists. -/
def list (item : Form) : Form :=
  of (.list item.codec) []

/-- The form of maps from texts. -/
def map (item : Form) : Form :=
  of (.map item.codec) .empty

end Form

/-! ## Fields -/

/-- A field that is carried along. One that is filled is written even if it is missing. -/
structure Field where
  name : String
  form : Form
  isFilled : Bool

namespace Field

/-- A field that may be missing or null, which both mean the default, and is always written. -/
def filled (name : String) (form : Form) : Field :=
  ⟨name, form, true⟩

/-- A field that may be missing or null and is written only if it is set. -/
def optional (name : String) (form : Form) : Field :=
  ⟨name, form, false⟩

/-- The field as it is written if it is missing, and if it is written then. -/
def missing? (field : Field) : Option (String × Json) :=
  if field.isFilled then some (field.name, field.form.default) else none

/-- The field of a document as it is written, if it is written. -/
def read (field : Field) (document : List (String × Json)) : Option (Option (String × Json)) := do
  let value ← Codec.Entry.last? field.name field.form.codec.nullable document
  return value.join.map (field.name, ·) <|> field.missing?

/-- The fields of a document as they are written. -/
def readAll (fields : List Field) (document : List (String × Json)) :
    Option (List (String × Json)) := do
  return (← fields.mapM fun field => field.read document).filterMap id

/-- Fields may all be missing. -/
theorem readAll_nil (fields : List Field) :
    readAll fields [] = some (fields.filterMap missing?) := by
  have hread : (fields.mapM fun field => field.read []) = some (fields.map missing?) := by
    induction fields with
    | nil => rfl
    | cons field fields ih =>
      rw [List.mapM_cons, ih]
      rfl
  rw [readAll, hread]
  show some ((fields.map missing?).filterMap id) = _
  rw [List.filterMap_map, Function.id_comp]

end Field

end Carried

/-- The values of fields that are carried along, as they are written. -/
structure Carried (fields : List Carried.Field) where
  written : List (String × Json)
  /-- The fields can be written like this. -/
  valid : ∃ document, Carried.Field.readAll fields document = some written
  deriving DecidableEq

namespace Carried

variable {fields : List Field}

/-- No field is set. -/
def unset : Carried fields where
  written := fields.filterMap Field.missing?
  valid := ⟨[], Field.readAll_nil fields⟩

/-- The fields of a document. -/
def read? (document : List (String × Json)) : Option (Carried fields) :=
  match h : Field.readAll fields document with
  | some written => some ⟨written, document, h⟩
  | none => none

end Carried

/-- The fields of a record that are carried along. -/
def Codec.Entry.carried {σ : Type} {fields : List Carried.Field} (get : σ → Carried fields) :
    Entry σ (Carried fields) where
  fields := fields.map fun field => (field.name, .nullable field.form.shape)
  write s := (get s).written
  read := Carried.read?

/-- The form of records. -/
def Carried.Form.record (fields : List Field) : Form :=
  of (Codec.lenient (Codec.Entry.carried id)) (.unset : Carried fields)

end RoleDiscovery
