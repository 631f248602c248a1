import RoleDiscovery.Double.Shortest
import RoleDiscovery.Json.Basic
import RoleDiscovery.Text.Digit
import RoleDiscovery.Yaml.Style

/-!
# Writing YAML documents

Writes a value in block style: a field to a line, the fields of an inner object indented by two, the
items of a list at the column of the field that holds it. Lines are never folded.

Results:

* `Scalar.literal`, `Scalar.single`, `Scalar.double`: the forms of a text.
* `Yaml.print`: the document of a value.
-/

namespace RoleDiscovery.Yaml

/-- Blanks up to a column. -/
def indentation (column : Nat) : List Char :=
  List.replicate column ' '

/-! ## Scalars -/

namespace Scalar

/-- A character as it stands between double quotes. -/
def escaped (c : Char) : List Char :=
  if c = '"' then ['\\', '"']
  else if c = '\\' then ['\\', '\\']
  else if isPrintable c && !isBreak c then [c]
  else if c = '\x00' then ['\\', '0']
  else if c = '\x07' then ['\\', 'a']
  else if c = '\x08' then ['\\', 'b']
  else if c = '\t' then ['\\', 't']
  else if c = '\n' then ['\\', 'n']
  else if c = '\x0b' then ['\\', 'v']
  else if c = '\x0c' then ['\\', 'f']
  else if c = '\r' then ['\\', 'r']
  else if c = '\x1b' then ['\\', 'e']
  else if c = '\u0085' then ['\\', 'N']
  else if c = '\u2028' then ['\\', 'L']
  else if c = '\u2029' then ['\\', 'P']
  else if c.toNat < 0x100 then '\\' :: 'x' :: Text.upperHexDigits 2 c.toNat
  else if c.toNat < 0x10000 then '\\' :: 'u' :: Text.upperHexDigits 4 c.toNat
  else '\\' :: 'U' :: Text.upperHexDigits 8 c.toNat

/-- A text in double quotes. -/
def double (s : List Char) : List Char :=
  '"' :: s.flatMap escaped ++ ['"']

/-- What stands between single quotes: an apostrophe is doubled, and the line after a break is
indented. `broken` tells that a break has just been written. -/
def singleBody (column : Nat) : Bool → List Char → List Char
  | broken, [] => if broken then indentation column else []
  | broken, c :: rest =>
    if isBreak c then c :: singleBody column true rest
    else
      (if broken then indentation column else []) ++
        (if c = '\'' then ['\'', '\''] else [c]) ++ singleBody column false rest

/-- A text in single quotes, its further lines indented to a column. -/
def single (column : Nat) (s : List Char) : List Char :=
  '\'' :: singleBody column false s ++ ['\'']

/-- The lines of a literal block, indented to a column. `broken` tells that a line starts. -/
def literalBody (column : Nat) : Bool → List Char → List Char
  | _, [] => []
  | broken, c :: rest =>
    if isBreak c then c :: literalBody column true rest
    else (if broken then indentation column else []) ++ c :: literalBody column false rest

/-- Whether a text starts with a blank or a break, so that the indentation has to be stated. -/
def needsIndentation : List Char → Bool
  | [] => false
  | c :: _ => c = ' ' || isBreak c

/-- The mark that says what happens to the breaks at the end: `-` if there is none, `+` if all of
several count, none for a single one. -/
def chomping (s : List Char) : List Char :=
  match s.reverse with
  | [] => ['-']
  | [c] => if isBreak c then ['+'] else ['-']
  | c :: d :: _ => if isBreak c then if isBreak d then ['+'] else [] else ['-']

/-- A text as a literal block below a line, with the break that ends it. -/
def literal (column : Nat) (s : List Char) : List Char :=
  '|' :: (if needsIndentation s then ['2'] else []) ++ chomping s ++
    '\n' :: literalBody column true s ++ (if (s.getLast?).any isBreak then [] else ['\n'])

/-- A text in a style with the break that ends it; its further lines are indented to a column. -/
def line (column : Nat) (style : Style) (s : List Char) : List Char :=
  match style with
  | .plain => s ++ ['\n']
  | .single => single column s ++ ['\n']
  | .double => double s ++ ['\n']
  | .literal => literal column s

/-- The name of a field. -/
def name (s : List Char) : List Char :=
  match Style.ofName s with
  | .plain => s
  | .single => single 0 s
  | _ => double s

end Scalar

/-! ## Documents -/

/-- The text of a scalar and the break that ends it; its further lines are indented to a column. -/
def scalarLine (column : Nat) : Json → List Char
  | .null => "null\n".toList
  | .bool true => "true\n".toList
  | .bool false => "false\n".toList
  | .int value => (toString value).toList ++ ['\n']
  | .decimal value => value.print.toList ++ ['\n']
  | .text value => Scalar.line column (Style.ofText value.toList) value.toList
  | .array _ => "[]\n".toList
  | .object _ => "\x7b\x7d\n".toList

mutual

/-- The value of a field that stands at a column, from after the colon. -/
def fieldValue (column : Nat) : Json → List Char
  | .array values =>
    if values.isEmpty then ' ' :: scalarLine (column + 2) (.array [])
    else '\n' :: items column false values
  | .object entries =>
    if entries.isEmpty then ' ' :: scalarLine (column + 2) (.object [])
    else '\n' :: fields (column + 2) false entries
  | value => ' ' :: scalarLine (column + 2) value

/-- An item of a list whose hyphens stand at a column, from after the hyphen. -/
def itemValue (column : Nat) : Json → List Char
  | .array values =>
    if values.isEmpty then ' ' :: scalarLine (column + 2) (.array [])
    else ' ' :: items (column + 2) true values
  | .object entries =>
    if entries.isEmpty then ' ' :: scalarLine (column + 2) (.object [])
    else ' ' :: fields (column + 2) true entries
  | value => ' ' :: scalarLine (column + 2) value

/-- The items of a list at a column. `indented` tells that the first line is indented already. -/
def items (column : Nat) (indented : Bool) : List Json → List Char
  | [] => []
  | value :: rest =>
    (if indented then [] else indentation column) ++
      '-' :: itemValue column value ++ items column false rest

/-- The fields of an object at a column. `indented` tells that the first line is indented
already. -/
def fields (column : Nat) (indented : Bool) : List (String × Json) → List Char
  | [] => []
  | (name, value) :: rest =>
    (if indented then [] else indentation column) ++
      Scalar.name name.toList ++ ':' :: fieldValue column value ++ fields column false rest

end

/-- The document of a value. -/
def print : Json → String
  | .array values =>
    String.ofList (if values.isEmpty then scalarLine 0 (.array []) else items 0 true values)
  | .object entries =>
    String.ofList (if entries.isEmpty then scalarLine 0 (.object []) else fields 0 true entries)
  | value => String.ofList (scalarLine 0 value)

end RoleDiscovery.Yaml
