import RoleDiscovery.Yaml.Node

/-!
# From tokens to nodes

The grammar of documents. A text holds one document: directives, the mark that starts it, a node and
marks that end it, of which only the node need be there, and not even that.

Results:

* `Node.ofTokens?`: the document that a row of tokens spells.
-/

namespace RoleDiscovery.Yaml.Node

/-- The tokens that are left, the handles of tags, and the anchors by name with their numbers. -/
structure Remaining where
  tokens : List Token
  handles : List (List Char × Tag)
  anchors : List (List Char × Nat)

namespace Remaining

/-- The same with other tokens. -/
def withTokens (r : Remaining) (tokens : List Token) : Remaining :=
  { r with tokens }

/-- Whether the next token is one of these. The end counts as none of them. -/
def isAt (r : Remaining) (tokens : List Token) : Bool :=
  r.tokens.head?.any fun token => tokens.elem token

/-- The number of an anchor. -/
def anchor? (r : Remaining) (name : List Char) : Option Nat :=
  r.anchors.lookup name

/-- Gives an anchor to the node that starts here. -/
def define (r : Remaining) (name : List Char) : Nat × Remaining :=
  let number := r.anchors.length
  (number, { r with
    anchors := (name, number) :: r.anchors.filter fun anchor => anchor.1 ≠ name })

/-- The tag of a handle and a suffix. -/
def tag? (r : Remaining) (handle : List Char) (suffix : Tag) : Option Tag :=
  if handle.isEmpty then some suffix else (r.handles.lookup handle).map (· ++ suffix)

end Remaining

/-- The properties in front of a node. -/
structure Properties where
  anchor : Option (List Char) := none
  tag : Option (List Char × Tag) := none

/-- The properties in front of a node, one of each kind in any order, and the tokens after them. -/
def properties : List Token → Properties × List Token
  | .anchor name :: .tag handle suffix :: rest
  | .tag handle suffix :: .anchor name :: rest =>
    ({ anchor := name, tag := (handle, suffix) }, rest)
  | .anchor name :: rest => ({ anchor := name }, rest)
  | .tag handle suffix :: rest => ({ tag := (handle, suffix) }, rest)
  | rest => ({}, rest)

/-- The tag that says no more than that there is one. -/
def bareTag : Tag :=
  Token.bytesOf ['!']

mutual

/-- A node. `block` tells whether it may be a collection in block style, `indentless` whether the
items of a list may stand at the column of the field that holds it. -/
def node? : Nat → Bool → Bool → Remaining → Option (Node × Remaining)
  | 0, _, _, _ => none
  | fuel + 1, block, indentless, r =>
    match r.tokens with
    | .alias name :: rest => do
      let id ← r.anchor? name
      return (.alias id, r.withTokens rest)
    | tokens => do
      let (given, rest) := properties tokens
      let (anchor, r) := match given.anchor with
        | some name => let (id, r) := r.define name; (some id, r)
        | none => (none, r)
      let tag ← match given.tag with
        | some (handle, suffix) => (r.tag? handle suffix).map some
        | none => some none
      match rest with
      | .blockEntry :: _ =>
        if indentless then
          let (items, r) ← indentlessItems? fuel (r.withTokens rest)
          return (.sequence anchor tag items, r)
        else if given.anchor.isSome || given.tag.isSome then
          return (.scalar anchor tag .plain [], r.withTokens rest)
        else none
      | .scalar form text :: rest =>
        let tag := if tag = some bareTag then none else tag
        return (.scalar anchor tag form text, r.withTokens rest)
      | .flowSequence :: rest =>
        let (items, r) ← flowItems? fuel true (r.withTokens rest)
        return (.sequence anchor tag items, r)
      | .flowMapping :: rest =>
        let (entries, r) ← flowEntries? fuel true (r.withTokens rest)
        return (.mapping anchor tag entries, r)
      | token :: rest =>
        if block && token = .blockSequence then
          let (items, r) ← blockItems? fuel (r.withTokens rest)
          return (.sequence anchor tag items, r)
        else if block && token = .blockMapping then
          let (entries, r) ← blockEntries? fuel (r.withTokens rest)
          return (.mapping anchor tag entries, r)
        else if given.anchor.isSome || given.tag.isSome then
          return (.scalar anchor tag .plain [], r.withTokens (token :: rest))
        else none
      | [] =>
        if given.anchor.isSome || given.tag.isSome then
          return (.scalar anchor tag .plain [], r.withTokens [])
        else none

/-- A node, or the empty one before some tokens. -/
def nodeUnless? : Nat → List Token → Bool → Bool → Remaining → Option (Node × Remaining)
  | 0, _, _, _, _ => none
  | fuel + 1, tokens, block, indentless, r =>
    if r.isAt tokens then some (.empty, r) else node? fuel block indentless r

/-- The items of a list in block style up to its end. -/
def blockItems? : Nat → Remaining → Option (List Node × Remaining)
  | 0, _ => none
  | fuel + 1, r =>
    match r.tokens with
    | .blockEntry :: rest => do
      let (item, r) ← nodeUnless? fuel [.blockEntry, .blockEnd] true false (r.withTokens rest)
      let (items, r) ← blockItems? fuel r
      return (item :: items, r)
    | .blockEnd :: rest => some ([], r.withTokens rest)
    | _ => none

/-- The items of a list that is not indented, which has no mark at its end. -/
def indentlessItems? : Nat → Remaining → Option (List Node × Remaining)
  | 0, _ => none
  | fuel + 1, r =>
    match r.tokens with
    | .blockEntry :: rest => do
      let (item, r) ←
        nodeUnless? fuel [.blockEntry, .key, .value, .blockEnd] true false (r.withTokens rest)
      let (items, r) ← indentlessItems? fuel r
      return (item :: items, r)
    | _ => some ([], r)

/-- The fields of a mapping in block style up to its end. -/
def blockEntries? : Nat → Remaining → Option (List (Node × Node) × Remaining)
  | 0, _ => none
  | fuel + 1, r =>
    match r.tokens with
    | .key :: rest => do
      let (key, r) ← nodeUnless? fuel [.key, .value, .blockEnd] true true (r.withTokens rest)
      let (value, r) ← match r.tokens with
        | .value :: rest => nodeUnless? fuel [.key, .value, .blockEnd] true true (r.withTokens rest)
        | _ => some (.empty, r)
      let (entries, r) ← blockEntries? fuel r
      return ((key, value) :: entries, r)
    | .blockEnd :: rest => some ([], r.withTokens rest)
    | _ => none

/-- The items of a list in brackets up to the closing one. -/
def flowItems? : Nat → Bool → Remaining → Option (List Node × Remaining)
  | 0, _, _ => none
  | fuel + 1, first, r =>
    match first, r.tokens with
    | _, .flowSequenceEnd :: rest => some ([], r.withTokens rest)
    | true, tokens => flowItem? fuel (r.withTokens tokens)
    | false, .flowEntry :: .flowSequenceEnd :: rest => some ([], r.withTokens rest)
    | false, .flowEntry :: rest => flowItem? fuel (r.withTokens rest)
    | false, _ => none

/-- An item of a list in brackets and those after it. An item may be a mapping of one field without
braces. -/
def flowItem? : Nat → Remaining → Option (List Node × Remaining)
  | 0, _ => none
  | fuel + 1, r =>
    match r.tokens with
    | .key :: rest => do
      let (key, r) ← singleKey? fuel (r.withTokens rest)
      let (value, r) ← match r.tokens with
        | .value :: rest =>
          nodeUnless? fuel [.flowEntry, .flowSequenceEnd] false false (r.withTokens rest)
        | _ => some (.empty, r)
      let (items, r) ← flowItems? fuel false r
      return (.mapping none none [(key, value)] :: items, r)
    | _ => do
      let (item, r) ← node? fuel false false r
      let (items, r) ← flowItems? fuel false r
      return (item :: items, r)

/-- The key of a mapping of one field. An empty key takes up the token after its mark. -/
def singleKey? : Nat → Remaining → Option (Node × Remaining)
  | 0, _ => none
  | fuel + 1, r =>
    if r.isAt [.value, .flowEntry, .flowSequenceEnd] then
      some (.empty, r.withTokens (r.tokens.drop 1))
    else node? fuel false false r

/-- The fields of a mapping in braces up to the closing one. -/
def flowEntries? : Nat → Bool → Remaining → Option (List (Node × Node) × Remaining)
  | 0, _, _ => none
  | fuel + 1, first, r =>
    match first, r.tokens with
    | _, .flowMappingEnd :: rest => some ([], r.withTokens rest)
    | true, tokens => flowField? fuel (r.withTokens tokens)
    | false, .flowEntry :: .flowMappingEnd :: rest => some ([], r.withTokens rest)
    | false, .flowEntry :: rest => flowField? fuel (r.withTokens rest)
    | false, _ => none

/-- A field of a mapping in braces and those after it. A key without a mark has no value. -/
def flowField? : Nat → Remaining → Option (List (Node × Node) × Remaining)
  | 0, _ => none
  | fuel + 1, r =>
    match r.tokens with
    | .key :: rest => do
      let (key, r) ←
        nodeUnless? fuel [.value, .flowEntry, .flowMappingEnd] false false (r.withTokens rest)
      let (value, r) ← match r.tokens with
        | .value :: rest =>
          nodeUnless? fuel [.flowEntry, .flowMappingEnd] false false (r.withTokens rest)
        | _ => some (.empty, r)
      let (entries, r) ← flowEntries? fuel false r
      return ((key, value) :: entries, r)
    | _ => do
      let (key, r) ← node? fuel false false r
      let (entries, r) ← flowEntries? fuel false r
      return ((key, .empty) :: entries, r)

end

/-! ## Documents -/

/-- The handles that every document knows. -/
def standardHandles : List (List Char × Tag) :=
  [(['!'], bareTag), (['!', '!'], Token.bytesOf "tag:yaml.org,2002:".toList)]

/-- The directives of a document: whether a version was stated, and the handles of tags. -/
structure Directives where
  hasVersion : Bool
  handles : List (List Char × Tag)

/-- The directives in front of a document and the tokens after them. A version is stated once and is
1.1 or 1.2, and no handle is given twice. -/
def directives? (given : Directives) : List Token → Option (Directives × List Token)
  | .version major minor :: rest =>
    if !given.hasVersion && major = 1 && (minor = 1 || minor = 2) then
      directives? { given with hasVersion := true } rest
    else none
  | .tagHandle handle uri :: rest =>
    if (given.handles.lookup handle).isSome then none
    else directives? { given with handles := given.handles ++ [(handle, uri)] } rest
  | rest => some (given, rest)

/-- Whether a token comes before or after the node of a document. -/
def isBoundary : Token → Bool
  | .version _ _ | .tagHandle _ _ | .documentStart | .documentEnd => true
  | _ => false

/-- The node of a document; it may be left out. Nothing but end marks may follow it. -/
def content? (handles : List (List Char × Tag)) (tokens : List Token) : Option Node := do
  let r : Remaining := ⟨tokens, handles ++ standardHandles, []⟩
  let (node, r) ←
    if (tokens.head?).all isBoundary then some (.empty, r)
    else node? (4 * tokens.length + 4) true false r
  if r.tokens.all (· = .documentEnd) then some node else none

/-- The document that a row of tokens spells. One with directives has a mark at its start. -/
def ofTokens? (tokens : List Token) : Option Node := do
  match ← directives? ⟨false, []⟩ tokens with
  | (_, []) => if tokens.isEmpty then some .empty else none
  | (given, .documentStart :: rest) => content? given.handles rest
  | (given, rest) =>
    if given.hasVersion || !given.handles.isEmpty then none else content? [] rest

end RoleDiscovery.Yaml.Node
