import RoleDiscovery.Yaml.Token.Block
import RoleDiscovery.Yaml.Token.Mark

/-!
# The tokens of a text

Splits a text into tokens. Two things make this more than a row of patterns. Indentation opens and
closes collections, so the columns of the open ones are kept. And the first part of a line may turn
out to be a key only when a colon follows it, so the tokens since the last place where a key may
have started are kept apart: the mark of the key goes before them.

Results:

* `Token.Stream`: what has been read, and what the rest depends on.
* `Token.ofText?`: the tokens of a text.
-/

namespace RoleDiscovery.Yaml.Token

/-- A place where a key may have started. If `required`, a colon has to follow. -/
structure Candidate where
  required : Bool
  position : Position

/-- The tokens inside a pair of brackets, or outside of all, the last one first. Those since the
candidate are apart. -/
structure Level where
  earlier : List Token
  since : List Token
  candidate : Option Candidate

namespace Level

/-- A level without tokens. -/
def empty : Level :=
  ⟨[], [], none⟩

/-- All tokens of a level, the last one first. -/
def all (level : Level) : List Token :=
  level.since ++ level.earlier

/-- A level with one more token. -/
def push (level : Level) (token : Token) : Level :=
  { level with since := token :: level.since }

end Level

/-- A text that is being split. `keyAllowed` tells whether a key may start here; `indents` are the
columns of the open block collections and `outer` the levels around the current one, the innermost
first. -/
structure Stream where
  cursor : Cursor
  keyAllowed : Bool
  indents : List Nat
  level : Level
  outer : List Level

namespace Stream

/-- The stream at the start of a text. -/
def start (text : List Char) : Stream :=
  ⟨⟨text, .start⟩, true, [], .empty, []⟩

/-- Whether the stream is inside brackets. -/
def inFlow (s : Stream) : Bool :=
  !s.outer.isEmpty

/-- The column of the next character. -/
def column (s : Stream) : Nat :=
  s.cursor.position.column

/-- The least column that is inside the innermost block collection. -/
def innerColumn (s : Stream) : Nat :=
  match s.indents with
  | [] => 0
  | indent :: _ => indent + 1

/-- The stream with one more token. -/
def push (s : Stream) (token : Token) : Stream :=
  { s with level := s.level.push token }

/-- The stream after a token of one character. -/
def mark (s : Stream) (token : Token) : Stream :=
  { s.push token with cursor := s.cursor.skip }

/-! ## Keys -/

/-- Gives up the candidate of the current level, which must not be a required one. -/
def dropCandidate (s : Stream) : Option Stream :=
  match s.level.candidate with
  | none => some s
  | some candidate =>
    if candidate.required then none else some { s with level := { s.level with candidate := none } }

/-- Notes that a key may start here. It has to, if a block collection goes on in this column. -/
def noteCandidate (s : Stream) : Option Stream :=
  if s.keyAllowed then do
    let s ← s.dropCandidate
    let required := !s.inFlow && s.indents.head? = some s.column
    return { s with level := ⟨s.level.all, [], some ⟨required, s.cursor.position⟩⟩ }
  else some s

/-- Whether a candidate can no longer be a key: keys stay on one line and within 1024 characters. -/
def isStale (p : Position) (candidate : Candidate) : Bool :=
  candidate.position.line < p.line || candidate.position.index + 1024 < p.index

/-- A level without its candidate if that is stale, which it must not be if it is required. -/
def expire (p : Position) (level : Level) : Option Level :=
  match level.candidate with
  | none => some level
  | some candidate =>
    if isStale p candidate then
      if candidate.required then none else some { level with candidate := none }
    else some level

/-- The stream without stale candidates. -/
def expireAll (s : Stream) : Option Stream := do
  let level ← expire s.cursor.position s.level
  let outer ← s.outer.mapM (expire s.cursor.position)
  return { s with level, outer }

/-! ## Indentation -/

/-- Closes the block collections that are indented deeper than a column. -/
def unroll (column : Nat) (s : Stream) : Stream :=
  if s.inFlow then s
  else
    let (closed, kept) := s.indents.span fun indent => column < indent
    closed.foldl (fun s _ => s.push .blockEnd) { s with indents := kept }

/-- Closes all block collections. -/
def unrollAll (s : Stream) : Stream :=
  if s.inFlow then s
  else s.indents.foldl (fun s _ => s.push .blockEnd) { s with indents := [] }

/-- Whether a collection opens at a column outside of brackets. -/
def opensAt (column : Nat) (s : Stream) : Bool :=
  !s.inFlow && s.innerColumn ≤ column

/-- Opens a block collection in the current column, unless it is open. -/
def roll (token : Token) (s : Stream) : Stream :=
  if s.opensAt s.column then { s.push token with indents := s.column :: s.indents } else s

/-! ## Blanks and comments -/

/-- Moves to the next token. A break outside of brackets allows a key. A tab may only stand where no
key is allowed. The mark of an encoding may start a line and counts as one column. `comment` tells
that a comment is being passed. -/
def skipBlanks (flow : Bool) (keyAllowed comment : Bool) :
    List Char → Position → Bool × Cursor
  | [], p => (keyAllowed, ⟨[], p⟩)
  | c :: rest, p =>
    if isBreak c then skipBlanks flow (keyAllowed || !flow) false rest (p.step c)
    else if comment then skipBlanks flow keyAllowed true rest (p.step c)
    else if c = '#' then skipBlanks flow keyAllowed true rest (p.step c)
    else if c = ' ' || (c = '\t' && (flow || !keyAllowed)) || (c = '\ufeff' && p.column = 0) then
      skipBlanks flow keyAllowed false rest (p.step c)
    else (keyAllowed, ⟨c :: rest, p⟩)

/-- The stream at its next token. -/
def toToken (s : Stream) : Stream :=
  let (keyAllowed, cursor) :=
    skipBlanks s.inFlow s.keyAllowed false s.cursor.rest s.cursor.position
  { s with keyAllowed, cursor }

/-! ## Structure -/

/-- A directive, which closes all collections. -/
def directive (s : Stream) : Option Stream := do
  let s ← s.unrollAll.dropCandidate
  let (token, cursor) ← directive? s.cursor.skip
  return { s.push token with keyAllowed := false, cursor }

/-- The mark between or after documents, which closes all collections. -/
def documentMark (token : Token) (s : Stream) : Option Stream := do
  let s ← s.unrollAll.dropCandidate
  return { s.push token with keyAllowed := false, cursor := s.cursor.skipMany 3 }

/-- An opening bracket. -/
def openFlow (token : Token) (s : Stream) : Option Stream := do
  let s ← s.noteCandidate
  let s := s.mark token
  return { s with keyAllowed := true, level := .empty, outer := s.level :: s.outer }

/-- A closing bracket. -/
def closeFlow (token : Token) (s : Stream) : Option Stream := do
  let s ← s.dropCandidate
  let s := match s.outer with
    | [] => s
    | level :: outer =>
      { s with level := { level with since := s.level.all ++ level.since }, outer }
  return { s.mark token with keyAllowed := false }

/-- A comma. -/
def flowEntry (s : Stream) : Option Stream := do
  let s ← s.dropCandidate
  return { s.mark .flowEntry with keyAllowed := true }

/-- The hyphen before an item. -/
def blockEntry (s : Stream) : Option Stream := do
  if !s.inFlow && !s.keyAllowed then none
  let s ← (s.roll .blockSequence).dropCandidate
  return { s.mark .blockEntry with keyAllowed := true }

/-- The question mark before a key. -/
def keyMark (s : Stream) : Option Stream := do
  if !s.inFlow && !s.keyAllowed then none
  let s ← (s.roll .blockMapping).dropCandidate
  return { s.mark .key with keyAllowed := !s.inFlow }

/-- The colon before a value. If a key may have started before it, one has. -/
def valueMark (s : Stream) : Option Stream :=
  match s.level.candidate with
  | some candidate =>
    let column := candidate.position.column
    let opens := s.opensAt column
    let marks : List Token := if opens then [.key, .blockMapping] else [.key]
    let s :=
      { s with
        level := ⟨marks ++ s.level.earlier, s.level.since, none⟩
        indents := if opens then column :: s.indents else s.indents
        keyAllowed := false }
    some (s.mark .value)
  | none => do
    if !s.inFlow && !s.keyAllowed then none
    let s := s.roll .blockMapping
    return { s.mark .value with keyAllowed := !s.inFlow }

/-! ## Scalars and names -/

/-- A token that may start a key and is followed by none. -/
def content (s : Stream) (token : Token) (cursor : Cursor) : Stream :=
  { s.push token with cursor, keyAllowed := false }

/-- An alias. -/
def aliasName (s : Stream) : Option Stream := do
  let s ← s.noteCandidate
  let (name, cursor) ← name? s.cursor.skip
  return s.content (.alias name) cursor

/-- An anchor. -/
def anchorName (s : Stream) : Option Stream := do
  let s ← s.noteCandidate
  let (name, cursor) ← name? s.cursor.skip
  return s.content (.anchor name) cursor

/-- A tag. -/
def tagName (s : Stream) : Option Stream := do
  let s ← s.noteCandidate
  let (token, cursor) ← tag? s.inFlow s.cursor
  return s.content token cursor

/-- A scalar in single quotes. -/
def singleQuoted (s : Stream) : Option Stream := do
  let s ← s.noteCandidate
  let inside := s.cursor.skip
  let (text, cursor) ← single? .none inside.rest inside.position
  return s.content (.scalar .quoted text) cursor

/-- A scalar in double quotes. -/
def doubleQuoted (s : Stream) : Option Stream := do
  let s ← s.noteCandidate
  let inside := s.cursor.skip
  let (text, cursor) ← double? .none none inside.rest inside.position
  return s.content (.scalar .quoted text) cursor

/-- A block scalar, after which a line starts. -/
def blockScalar (form : Form) (s : Stream) : Option Stream := do
  let s ← s.dropCandidate
  let (text, cursor) ← blockScalar? (form = .folded) s.innerColumn s.cursor.skip
  return { s.push (.scalar form text) with cursor, keyAllowed := true }

/-- A plain scalar. If it ended at the end of a line, a key may follow. -/
def plainScalar (s : Stream) : Option Stream := do
  let s ← s.noteCandidate
  let (text, broken, cursor) ←
    plain? s.inFlow s.innerColumn .none s.cursor.rest s.cursor.position
  return { s.content (.scalar .plain text) cursor with keyAllowed := broken }

/-! ## The next token -/

/-- The characters that stand for structure at the start of a token. -/
def isIndicator (c : Char) : Bool :=
  ['-', '?', ':', ',', '[', ']', '\x7b', '\x7d', '#', '&', '*', '!', '|', '>', '\'', '"', '%', '@',
    '\x60'].elem c

/-- Whether a plain scalar starts here. Outside of brackets a question mark or a colon may start
one. -/
def startsPlain (flow : Bool) : List Char → Bool
  | [] => false
  | c :: rest =>
    !(isSpace c || isIndicator c) || (c = '-' && !rest.head?.any isBlank) ||
      (!flow && (c = '?' || c = ':') && !atSpace rest)

/-- Reads the token that starts at the next character. -/
def next (s : Stream) : Option Stream :=
  match s.cursor.rest with
  | [] => some s
  | c :: rest =>
    if s.column = 0 && c = '%' then s.directive
    else if s.column = 0 && atDocumentMark (c :: rest) then
      s.documentMark (if c = '-' then .documentStart else .documentEnd)
    else if c = '[' then s.openFlow .flowSequence
    else if c = '\x7b' then s.openFlow .flowMapping
    else if c = ']' then s.closeFlow .flowSequenceEnd
    else if c = '\x7d' then s.closeFlow .flowMappingEnd
    else if c = ',' then s.flowEntry
    else if c = '-' && atSpace rest then s.blockEntry
    else if c = '?' && (s.inFlow || atSpace rest) then s.keyMark
    else if c = ':' && (s.inFlow || atSpace rest) then s.valueMark
    else if c = '*' then s.aliasName
    else if c = '&' then s.anchorName
    else if c = '!' then s.tagName
    else if c = '|' && !s.inFlow then s.blockScalar .literal
    else if c = '>' && !s.inFlow then s.blockScalar .folded
    else if c = '\'' then s.singleQuoted
    else if c = '"' then s.doubleQuoted
    else if startsPlain s.inFlow (c :: rest) then s.plainScalar
    else none

/-- The tokens of a stream that is at its end, where every bracket has to be closed. -/
def finish (s : Stream) : Option (List Token) := do
  let s ← s.unrollAll.dropCandidate
  if s.inFlow then none
  return s.level.all.reverse

/-- Reads tokens up to the end. Each takes up a character at least. -/
def read : Nat → Stream → Option (List Token)
  | 0, _ => none
  | fuel + 1, s => do
    let s ← s.toToken.expireAll
    let s := s.unroll s.column
    match s.cursor.rest with
    | [] => s.finish
    | _ :: _ => read fuel (← s.next)

end Stream

/-- Breaks within a document count as line feeds, whichever way they are written. -/
def normalizeBreaks : List Char → List Char
  | '\r' :: '\n' :: rest => '\n' :: normalizeBreaks rest
  | '\r' :: rest => '\n' :: normalizeBreaks rest
  | '\u0085' :: rest => '\n' :: normalizeBreaks rest
  | c :: rest => c :: normalizeBreaks rest
  | [] => []

/-- The tokens of a text. -/
def ofText? (text : List Char) : Option (List Token) :=
  if text.all isAllowed then
    let text := normalizeBreaks text
    Stream.read (text.length + 1) (.start text)
  else none

end RoleDiscovery.Yaml.Token
