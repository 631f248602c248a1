import RoleDiscovery.Text.Digit

/-!
# Request targets

The path and query that a request is sent to. Names go into it as they are, so that a name may make
the target invalid, or end it early.

Results:

* `Uri.formEncoded`: a text as the value of a query parameter.
* `Uri.target?`: the target that is sent for a text, if it makes one.
-/

namespace RoleDiscovery.Uri

/-! ## Query parameters -/

/-- A byte in the value of a query parameter. -/
def encodedByte (byte : UInt8) : List Char :=
  let c := Char.ofNat byte.toNat
  if c.isAlphanum || ['*', '-', '.', '_'].elem c then [c]
  else if c = ' ' then ['+']
  else ['%', Text.upperHexDigit (byte.toNat / 16), Text.upperHexDigit (byte.toNat % 16)]

/-- A text as the value of a query parameter. -/
def formEncoded (s : String) : String :=
  String.ofList (s.toUTF8.toList.flatMap encodedByte)

/-! ## Targets -/

/-- The characters that a path may hold. Those beyond ASCII are among them. -/
def isPathChar (c : Char) : Bool :=
  c = '!' || ('$' ≤ c && c ≤ ';') || c = '=' || ('@' ≤ c && c ≤ '_') || ('a' ≤ c && c ≤ '\x7e') ||
    c = '"' || 0x7F < c.toNat

/-- The characters that a query may hold. -/
def isQueryChar (c : Char) : Bool :=
  c = '!' || ('$' ≤ c && c ≤ ';') || c = '=' || ('?' ≤ c && c ≤ '\x7e') || 0x7F < c.toNat

/-- The query up to the end of a target or the mark of a fragment. -/
def query? : List Char → Option (List Char)
  | [] => some []
  | c :: rest =>
    if c = '#' then some []
    else if isQueryChar c then (query? rest).map (c :: ·)
    else none

/-- The path and the query up to the end of a target or the mark of a fragment. -/
def path? : List Char → Option (List Char)
  | [] => some []
  | c :: rest =>
    if c = '#' then some []
    else if c = '?' then (query? rest).map (c :: ·)
    else if isPathChar c then (path? rest).map (c :: ·)
    else none

/-- The number of bytes that a target may have. -/
def maxSize : Nat :=
  65534

/-- The target that is sent for a text that starts with a slash. -/
def target? (s : String) : Option String :=
  if s.utf8ByteSize ≤ maxSize then (path? s.toList).map String.ofList else none

end RoleDiscovery.Uri
