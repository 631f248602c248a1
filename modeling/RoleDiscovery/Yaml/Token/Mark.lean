import RoleDiscovery.Yaml.Token.Quoted

/-!
# Names, tags and directives

Results:

* `Token.name?`: the name of an anchor or an alias.
* `Token.tag?`: a tag.
* `Token.directive?`: a directive, which takes up its line.
-/

namespace RoleDiscovery.Yaml.Token

/-! ## Anchors -/

/-- Whether the name of an anchor may end before a text. -/
def endsName : List Char → Bool
  | [] => true
  | c :: _ =>
    isSpace c || ['?', ':', ',', ']', '\x7d', '%', '@', '\x60'].elem c

/-- The name of an anchor or an alias, from after its mark. -/
def name? (cursor : Cursor) : Option (List Char × Cursor) :=
  let (name, cursor) := cursor.takeWhile isWordChar
  if !name.isEmpty && endsName cursor.rest then some (name, cursor) else none

/-! ## Tags -/

/-- The characters of a tag. Brackets and commas are among them only where the tag is delimited in
another way. -/
def isTagChar (delimited : Bool) (c : Char) : Bool :=
  isWordChar c ||
    [';', '/', '?', ':', '@', '&', '=', '+', '$', '.', '!', '~', '*', '\'', '(', ')'].elem c ||
    (delimited && [',', '[', ']'].elem c)

/-- The number of bytes after the first one of a character. -/
def followingBytes? (first : Nat) : Option Nat :=
  if first < 0x80 then some 0
  else if 0xC0 ≤ first ∧ first < 0xE0 then some 1
  else if 0xE0 ≤ first ∧ first < 0xF0 then some 2
  else if 0xF0 ≤ first ∧ first < 0xF8 then some 3
  else none

/-- The bytes of a tag and the cursor after it. `due` counts the bytes that are still due of a
character that is written in escapes. -/
def tagBytes? (delimited : Bool) (due : Nat) : List Char → Position → Option (Tag × Cursor)
  | '%' :: a :: b :: rest, p =>
    match Text.digitValue? 16 a, Text.digitValue? 16 b with
    | some high, some low =>
      let byte := high * 16 + low
      let due? :=
        if due = 0 then followingBytes? byte
        else if 0x80 ≤ byte ∧ byte < 0xC0 then some (due - 1)
        else none
      match due? with
      | none => none
      | some due =>
        (tagBytes? delimited due rest (((p.step '%').step a).step b)).map fun (bytes, cursor) =>
          (byte.toUInt8 :: bytes, cursor)
    | _, _ => none
  | c :: rest, p =>
    if due ≠ 0 ∨ c = '%' then none
    else if isTagChar delimited c then
      (tagBytes? delimited 0 rest (p.step c)).map fun (bytes, cursor) =>
        (c.toNat.toUInt8 :: bytes, cursor)
    else some ([], ⟨c :: rest, p⟩)
  | [], p => if due = 0 then some ([], ⟨[], p⟩) else none

/-- The bytes of a tag that count: those in front of the first zero. -/
def effective (bytes : Tag) : Tag :=
  bytes.takeWhile (· ≠ 0)

/-- A tag that is not empty, as far as it counts. -/
def nonemptyTag? (delimited : Bool) (cursor : Cursor) : Option (Tag × Cursor) := do
  let (bytes, cursor) ← tagBytes? delimited 0 cursor.rest cursor.position
  if bytes.isEmpty then none else some (effective bytes, cursor)

/-- The text of ASCII characters as bytes. -/
def bytesOf (cs : List Char) : Tag :=
  cs.map fun c => c.toNat.toUInt8

/-- The start of a tag, up to the second exclamation mark if there is one. -/
def handle? (cursor : Cursor) : Option (List Char × Cursor) := do
  let cursor ← cursor.expect? '!'
  let (name, cursor) := cursor.takeWhile isWordChar
  match cursor.rest with
  | '!' :: _ => return ('!' :: name ++ ['!'], cursor.skip)
  | _ => return ('!' :: name, cursor)

/-- A tag without the check of what follows it: its handle and the rest. -/
def tagParts? (cursor : Cursor) : Option (List Char × Tag × Cursor) :=
  match cursor.rest with
  | '!' :: '<' :: _ => do
    let (bytes, cursor) ← nonemptyTag? true (cursor.skipMany 2)
    return ([], bytes, ← cursor.expect? '>')
  | _ => do
    let (handle, cursor) ← handle? cursor
    if 2 ≤ handle.length ∧ handle.getLast? = some '!' then
      let (bytes, cursor) ← nonemptyTag? false cursor
      return (handle, bytes, cursor)
    else
      let (bytes, cursor) ← tagBytes? false 0 cursor.rest cursor.position
      match effective (bytesOf (handle.drop 1) ++ bytes) with
      | [] => return ([], bytesOf ['!'], cursor)
      | suffix => return (['!'], suffix, cursor)

/-- A tag and the cursor after it. -/
def tag? (flow : Bool) (cursor : Cursor) : Option (Token × Cursor) := do
  let (handle, suffix, cursor) ← tagParts? cursor
  if atSpace cursor.rest ∨ (flow ∧ cursor.rest.head? = some ',') then
    return (.tag handle suffix, cursor)
  else none

/-! ## Directives -/

/-- A part of a version: at most nine digits. -/
def versionPart? (cursor : Cursor) : Option (Nat × Cursor) :=
  let (digits, cursor) := cursor.takeWhile Char.isDigit
  if digits.isEmpty ∨ 9 < digits.length then none
  else some (Text.ofDigits digits, cursor)

/-- The version of the language that a document is written in. -/
def version? (cursor : Cursor) : Option (Token × Cursor) := do
  let (major, cursor) ← versionPart? (cursor.skipWhile isBlank)
  let (minor, cursor) ← versionPart? (← cursor.expect? '.')
  return (.version major minor, cursor)

/-- A handle and the start of the tags that it stands for. -/
def tagHandle? (cursor : Cursor) : Option (Token × Cursor) := do
  let (handle, cursor) ← handle? (cursor.skipWhile isBlank)
  if handle.getLast? ≠ some '!' then none
  if ¬(cursor.rest.head?.any isBlank) then none
  let (uri, cursor) ← nonemptyTag? true (cursor.skipWhile isBlank)
  if atSpace cursor.rest then return (.tagHandle handle uri, cursor) else none

/-- A directive, from after its mark, and the cursor at the next line. -/
def directive? (cursor : Cursor) : Option (Token × Cursor) := do
  let (name, cursor) := cursor.takeWhile isWordChar
  if ¬(atSpace cursor.rest) then none
  let (token, cursor) ←
    if name = "YAML".toList then version? cursor
    else if name = "TAG".toList then tagHandle? cursor
    else none
  return (token, ← cursor.endLine?)

end RoleDiscovery.Yaml.Token
