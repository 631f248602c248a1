import RoleDiscovery.Json.Skip
import RoleDiscovery.Shape

/-!
# Reading JSON text

Reads exactly one value and refuses anything after it but blanks. Values nest at most 127 deep.
Where the shape of a value is known, the fields that it does not have are skipped.

Results:

* `Json.parse?`: the value that a text spells, if it spells one.
* `Json.parseAs?`: the same for a value of a known shape.
-/

namespace RoleDiscovery.Json

/-- A number after its sign, and what follows it. -/
def number? (negative : Bool) (cs : List Char) : Option (Json × List Char) := do
  let (numeral, rest) ← numeral? negative cs
  return (← numeral.value?, rest)

mutual

/-- A value, after blanks, and what follows it. `depth` counts the levels that may still open. -/
def value? : Nat → Nat → Option Shape → List Char → Option (Json × List Char)
  | 0, _, _, _ => none
  | fuel + 1, depth, shape, cs =>
    match skipBlanks cs with
    | 'n' :: 'u' :: 'l' :: 'l' :: rest => some (.null, rest)
    | 't' :: 'r' :: 'u' :: 'e' :: rest => some (.bool true, rest)
    | 'f' :: 'a' :: 'l' :: 's' :: 'e' :: rest => some (.bool false, rest)
    | '"' :: rest => (text? rest).map fun (s, rest) => (.text s, rest)
    | '-' :: rest => number? true rest
    | '[' :: rest =>
      if depth ≤ 1 then none
      else match skipBlanks rest with
      | ']' :: rest => some (.array [], rest)
      | rest => do
        let (items, rest) ← items? fuel (depth - 1) shape 0 rest
        return (.array items, rest)
    | '\x7b' :: rest =>
      if depth ≤ 1 then none
      else match skipBlanks rest with
      | '\x7d' :: rest => some (.object [], rest)
      | rest => do
        let (fields, rest) ← fields? fuel (depth - 1) shape rest
        return (.object fields, rest)
    | rest => number? false rest

/-- The items of a list from a place on up to its closing bracket; at least one is due. -/
def items? : Nat → Nat → Option Shape → Nat → List Char → Option (List Json × List Char)
  | 0, _, _, _, _ => none
  | fuel + 1, depth, shape, place, cs => do
    let (item, rest) ← value? fuel depth (shape.bind (·.itemAt? place)) cs
    match skipBlanks rest with
    | ']' :: rest => return ([item], rest)
    | ',' :: rest =>
      let (items, rest) ← items? fuel depth shape (place + 1) rest
      return (item :: items, rest)
    | _ => none

/-- The fields of an object up to its closing brace; at least one is due. -/
def fields? : Nat → Nat → Option Shape → List Char → Option (List (String × Json) × List Char)
  | 0, _, _, _ => none
  | fuel + 1, depth, shape, cs =>
    match skipBlanks cs with
    | '"' :: rest => do
      let (key, rest) ← text? rest
      match skipBlanks rest with
      | ':' :: rest =>
        let (field, rest) ← match shape.elim (.read none) (·.use key) with
          | .skipped => (skip? fuel rest).map fun rest => ([], rest)
          | .read shape => (value? fuel depth shape rest).map fun (value, rest) =>
            ([(key, value)], rest)
        match skipBlanks rest with
        | '\x7d' :: rest => return (field, rest)
        | ',' :: rest =>
          let (fields, rest) ← fields? fuel depth shape rest
          return (field ++ fields, rest)
        | _ => none
      | _ => none
    | _ => none

end

/-- The value that a text spells, given its shape as far as it is known. Each step reads a
character, so the length bounds the steps. -/
def read? (shape : Option Shape) (s : String) : Option Json := do
  let cs := s.toList
  let (value, rest) ← value? (2 * cs.length + 2) 128 shape cs
  if (skipBlanks rest).isEmpty then some value else none

/-- The value that a text spells. -/
def parse? (s : String) : Option Json :=
  read? none s

/-- The value of a known shape that a text spells. -/
def parseAs? (shape : Shape) (s : String) : Option Json :=
  read? (some shape) s

end RoleDiscovery.Json
