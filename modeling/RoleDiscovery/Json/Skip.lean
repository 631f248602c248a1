import RoleDiscovery.Json.Scalar

/-!
# Skipping JSON values

A value that nobody asks for is passed over: it has to be a value in form, but it may nest to any
depth, its numbers may be of any size, and its texts may hold lone surrogates.

Results:

* `Json.skip?`: what follows a value.
-/

namespace RoleDiscovery.Json

/-- What follows the closing quote of a text. -/
def skipText? : List Char → Option (List Char)
  | '"' :: rest => some rest
  | '\\' :: 'u' :: a :: b :: c :: d :: rest =>
    let isDigit (digit : Char) := (Text.digitValue? 16 digit).isSome
    if [a, b, c, d].all isDigit then skipText? rest else none
  | '\\' :: c :: rest => if (letterEscape? c).isSome then skipText? rest else none
  | c :: rest => if c.toNat < 32 ∨ c = '\\' then none else skipText? rest
  | [] => none

mutual

/-- What follows a value, from after the blanks in front of it. -/
def skip? : Nat → List Char → Option (List Char)
  | 0, _ => none
  | fuel + 1, cs =>
    match skipBlanks cs with
    | 'n' :: 'u' :: 'l' :: 'l' :: rest => some rest
    | 't' :: 'r' :: 'u' :: 'e' :: rest => some rest
    | 'f' :: 'a' :: 'l' :: 's' :: 'e' :: rest => some rest
    | '"' :: rest => skipText? rest
    | '-' :: rest => (numeral? true rest).map Prod.snd
    | '[' :: rest =>
      match skipBlanks rest with
      | ']' :: rest => some rest
      | rest => skipItems? fuel rest
    | '\x7b' :: rest =>
      match skipBlanks rest with
      | '\x7d' :: rest => some rest
      | rest => skipFields? fuel rest
    | rest => (numeral? false rest).map Prod.snd

/-- What follows the items of a list and its closing bracket; at least one item is due. -/
def skipItems? : Nat → List Char → Option (List Char)
  | 0, _ => none
  | fuel + 1, cs => do
    match skipBlanks (← skip? fuel cs) with
    | ']' :: rest => return rest
    | ',' :: rest => skipItems? fuel rest
    | _ => none

/-- What follows the fields of an object and its closing brace; at least one field is due. -/
def skipFields? : Nat → List Char → Option (List Char)
  | 0, _ => none
  | fuel + 1, cs =>
    match skipBlanks cs with
    | '"' :: rest => do
      match skipBlanks (← skipText? rest) with
      | ':' :: rest =>
        match skipBlanks (← skip? fuel rest) with
        | '\x7d' :: rest => return rest
        | ',' :: rest => skipFields? fuel rest
        | _ => none
      | _ => none
    | _ => none

end

end RoleDiscovery.Json
