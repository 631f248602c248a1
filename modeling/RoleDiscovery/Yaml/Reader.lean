import RoleDiscovery.Json.Basic
import RoleDiscovery.Shape
import RoleDiscovery.Yaml.Node.Grammar
import RoleDiscovery.Yaml.Plain

/-!
# Reading YAML documents

Reads the node of a document as a value of a shape. Where a text is due, every scalar is one and
keeps its spelling; where a number or a truth value is due, a scalar without quotes has to spell it.
A value that is left out is an empty collection where one is due.

Results:

* `Node.read`: the value of a node, given the shape that it should have.
* `Yaml.parse?`: the value that a text spells, given its shape.
-/

namespace RoleDiscovery.Yaml

namespace Node

/-- Reading counts how many aliases it has followed. -/
abbrev Reading := StateT Nat Option

/-- The node itself, or the one that an alias refers to in the document. -/
def follow (root : Node) : Node → Reading Node
  | .alias id => do
    modify (· + 1)
    (root.target? id).elim failure pure
  | node => pure node

/-! ## Scalars -/

/-- The tag of one of the standard kinds of scalars. -/
def standardTag (kind : String) : Tag :=
  Token.bytesOf ("tag:yaml.org,2002:".toList ++ kind.toList)

/-- The text of a scalar that spells a value of a kind: one without quotes, or a literal block with
the tag of the kind. -/
def spelling? (kind : String) : Node → Option (List Char)
  | .scalar _ tag form text =>
    if form = .plain ∨ (form = .literal ∧ tag = some (standardTag kind)) then some text else none
  | _ => none

/-- Whether a node is left out. -/
def isOmitted : Node → Bool
  | .scalar _ _ .plain [] => true
  | _ => false

/-- Whether a node stands for null, or `none` if it claims to without spelling it. -/
def isNull? : Node → Option Bool
  | .scalar _ none .plain text => some (text.isEmpty || Plain.isNull text)
  | .scalar _ (some tag) .plain text =>
    if tag = standardTag "null" then if Plain.isNull text then some true else none
    else some false
  | _ => some false

/-- The name in a tag of its own kind, one with an exclamation mark in front, if it is a text. -/
def tagName? : Option Tag → Option String
  | some (0x21 :: name) => String.fromUTF8? ⟨name.toArray⟩
  | _ => none

/-- The name that a node chooses: that of its tag, with nothing after it, or the text of a scalar
without such a tag. -/
def choice? : Node → Option String
  | .scalar _ tag form text =>
    match tagName? tag with
    | some name => if form = .plain ∧ (text.isEmpty ∨ Plain.isNull text) then some name else none
    | none => some (String.ofList text)
  | _ => none

/-- The text of the name of a field. -/
def name (root node : Node) : Reading String := do
  match ← follow root node with
  | .scalar _ _ _ text => return String.ofList text
  | _ => failure

/-! ## What scalars spell -/

/-- What a scalar spells where its kind is not known. -/
inductive Scalar where
  | null
  | bool (value : Bool)
  | int (value : Int)
  | decimal (value : Double)
  | infinity (negative : Bool)
  | nan
  | text (value : String)

/-- Whether a whole number has 64 bits, as an unsigned number or as a signed one. -/
def fits64 (n : Int) : Bool :=
  Int64.minValue.toInt ≤ n && n < UInt64.size

/-- The whole number that a scalar spells. One of more than 64 bits is none. -/
def wholeScalar? (s : List Char) : Option Scalar :=
  ((Plain.int? s).filter fits64).map .int

/-- The number that a scalar spells and that need not be whole. -/
def floatScalar? (s : List Char) : Option Scalar :=
  match Plain.double? s, Plain.infinity? s with
  | some x, _ => some (.decimal x)
  | none, some negative => some (.infinity negative)
  | none, none => if Plain.isNaN s then some .nan else none

/-- What a plain scalar spells: null, a truth value or a number if it can be one, else the text. -/
def plainScalar? (s : List Char) : Option Scalar :=
  if s.isEmpty ∨ Plain.isNull s then some .null
  else match Plain.bool? s, (Plain.int? s).filter Plain.fits128 with
    | some b, _ => some (.bool b)
    | none, some n => if fits64 n then some (.int n) else none
    | none, none =>
      if Plain.isZeroPadded s then some (.text (String.ofList s))
      else floatScalar? s <|> some (.text (String.ofList s))

/-- What a scalar spells by its tag; without quotes it may be of any kind, else it is a text. With a
tag of its own kind it is nothing that could be read here. -/
def scalar? : Node → Option Scalar
  | .scalar _ tag form text =>
    if (tagName? tag).isSome then none
    else if tag = some (standardTag "bool") then (Plain.bool? text).map .bool
    else if tag = some (standardTag "int") then wholeScalar? text
    else if tag = some (standardTag "float") then floatScalar? text
    else if tag = some (standardTag "null") then if Plain.isNull text then some .null else none
    else if form = .plain ∧ (tag.isNone ∨ tag.bind List.head? = some 0x21) then plainScalar? text
    else some (.text (String.ofList text))
  | _ => none

/-- The amount that is spelled: a number or a text. What is beyond all numbers stands as its
name. -/
def Scalar.amount? : Scalar → Option Json
  | .null | .bool _ => none
  | .int n => some (.int n)
  | .decimal x => some (.decimal x)
  | .infinity negative => some (.text (if negative then "-inf" else "inf"))
  | .nan => some (.text "NaN")
  | .text s => some (.text s)

/-- The value that is spelled. What is beyond all numbers is null. -/
def Scalar.value : Scalar → Json
  | .null | .infinity _ | .nan => .null
  | .bool b => .bool b
  | .int n => .int n
  | .decimal x => .decimal x
  | .text s => .text s

/-! ## Values -/

/-- The value of a node of a document, of whatever shape. `depth` counts the levels that may still
open. -/
def readAny (root : Node) : Nat → Node → Reading Json
  | 0, node => do
    match scalar? (← follow root node) with
    | some spelled => return spelled.value
    | none => failure
  | depth + 1, node => do
    match ← follow root node with
    | .sequence _ tag items =>
      if (tagName? tag).isSome then failure
      else return .array (← items.mapM fun node => readAny root depth node)
    | .mapping _ tag entries =>
      if (tagName? tag).isSome then failure
      else
        let fields ← entries.mapM fun (key, value) => do
          return (← name root key, ← readAny root depth value)
        return .object fields
    | node => (scalar? node).elim failure fun spelled => pure spelled.value

mutual

/-- The value of a node of a document that should have a shape. `depth` counts the levels that may
still open. -/
def read (root : Node) (depth : Nat) : Shape → Node → Reading Json
  | .text, node => do
    match ← follow root node with
    | .scalar _ _ _ text => return .text (String.ofList text)
    | _ => failure
  | .int, node => do
    match (spelling? "int" (← follow root node)).bind Plain.int? with
    | some n => return .int n
    | none => failure
  | .bool, node => do
    match (spelling? "bool" (← follow root node)).bind Plain.bool? with
    | some b => return .bool b
    | none => failure
  | .amount, node => do
    match (scalar? (← follow root node)).bind Scalar.amount? with
    | some value => return value
    | none => failure
  | .choice, node => do
    match choice? (← follow root node) with
    | some name => return .text name
    | none => failure
  | .any, node => readAny root depth node
  | .nullable shape, node => do
    let node ← follow root node
    match isNull? node with
    | some true => return .null
    | some false => read root depth shape node
    | none => failure
  | .list item, node => do
    match ← follow root node with
    | .sequence _ _ items =>
      return .array (← items.mapM fun node => read root (depth - 1) item node)
    | node => if node.isOmitted then return .array [] else failure
  | .map item, node => do
    match ← follow root node with
    | .mapping _ _ entries =>
      let fields ← entries.mapM fun (key, value) => do
        return (← name root key, ← read root (depth - 1) item value)
      return .object fields
    | node => if node.isOmitted then return .object [] else failure
  | .record fields, node => do
    match ← follow root node with
    | .mapping _ _ entries =>
      let read ← entries.mapM fun (key, value) => do
        let name ← name root key
        return (← readField root (depth - 1) fields name value).map (name, ·)
      return .object (read.filterMap id)
    | node => if node.isOmitted then return .object [] else failure

/-- The value of the field of a record called `name`, if the record has such a field. -/
def readField (root : Node) (depth : Nat) :
    List (String × Shape) → String → Node → Reading (Option Json)
  | [], _, _ => return none
  | (field, shape) :: rest, name, node =>
    if field = name then some <$> read root depth shape node
    else readField root depth rest name node

end

end Node

/-- The value that a text spells, if it has the shape. Values nest at most 128 deep. Aliases are
followed a hundred times as often as the document has marks at most. -/
def parse? (shape : Shape) (text : String) : Option Json := do
  let root ← Node.ofTokens? (← Token.ofText? text.toList)
  let (value, followed) ← (Node.read root 128 shape root).run 0
  if followed ≤ 100 * root.size then some value else none

end RoleDiscovery.Yaml
