/-!
# Shapes of documents

What a document may hold where. A reader whose scalars have no type of their own, such as that of
YAML, needs the shape to know whether `007` is a text or a number; any reader can tell by it which
fields count.

Results:

* `Shape`: texts, numbers, truth values, choices, lists, maps, records, and values of any shape.
* `Shape.Field`: a named field of a record.
* `Shape.use`, `Shape.itemAt?`: the shapes of the parts of a value.
-/

namespace RoleDiscovery

/-- What a value may be. An amount is a number or a text. A record is an object, or the list of the
values of its fields. -/
inductive Shape where
  | text
  | int
  | bool
  | amount
  | choice
  | any
  | nullable (shape : Shape)
  | list (item : Shape)
  | map (item : Shape)
  | record (fields : List (String × Shape))
  deriving Inhabited

namespace Shape

/-- A field of a record: its name and the shape of its value. -/
abbrev Field := String × Shape

/-- What becomes of the value of a field: it is skipped, or it is read, as far as its shape is
known. -/
inductive Use where
  | skipped
  | read (shape : Option Shape)

/-- What becomes of the field called `name`. Only the fields of a record count in it. -/
def use (name : String) : Shape → Use
  | nullable shape => use name shape
  | map item => .read item
  | record fields =>
    match fields.lookup name with
    | some shape => .read shape
    | none => .skipped
  | _ => .read none

/-- The shape of an item of a list, by its place. -/
def itemAt? (place : Nat) : Shape → Option Shape
  | nullable shape => itemAt? place shape
  | list item => some item
  | record fields => fields[place]?.map Prod.snd
  | _ => none

end Shape

end RoleDiscovery
