import RoleDiscovery.Text.Digit
import RoleDiscovery.Yaml.Token

/-!
# Scalars on one line or several

Plain and quoted scalars may go on over several lines. A single break between two lines is read as a
space, further breaks as they are, and the blanks around them are dropped.

Results:

* `Gap`: what stands between two words, and the text that it is read as.
* `single?`, `double?`, `plain?`: the text of a scalar and the cursor after it.
-/

namespace RoleDiscovery.Yaml

/-! ## Between two words -/

/-- Blanks on one line, or a row of breaks with the first one apart. The last character read comes
first. -/
inductive Gap where
  | blanks (read : List Char)
  | breaks (first : Option Char) (others : List Char)

namespace Gap

/-- No gap. -/
def none : Gap :=
  .blanks []

/-- The gap after a break that is not part of the text. -/
def afterBreak : Gap :=
  .breaks .none []

/-- The gap with one more blank or break. -/
def push (gap : Gap) (c : Char) : Gap :=
  match gap with
  | .blanks read => if isBreak c then .breaks (some c) [] else .blanks (c :: read)
  | .breaks first others => if isBreak c then .breaks first (c :: others) else gap

/-- The text that a gap is read as. -/
def text : Gap → List Char
  | .blanks read => read.reverse
  | .breaks (some '\n') [] => [' ']
  | .breaks (some '\n') others => others.reverse
  | .breaks first others => first.toList ++ others.reverse

/-- Whether a gap goes over the end of a line. -/
def isBroken : Gap → Bool
  | .blanks _ => false
  | .breaks _ _ => true

/-- Whether nothing stands between two characters. -/
def isNone : Gap → Bool
  | .blanks [] => true
  | _ => false

end Gap

namespace Token

/-- Puts characters before the text of a scalar. -/
def before {α : Type} (cs : List Char) (result : List Char × α) : List Char × α :=
  (cs ++ result.1, result.2)

/-! ## Single quotes -/

/-- The text up to the closing quote and the cursor after it, after a gap. -/
def single? (gap : Gap) : List Char → Position → Option (List Char × Cursor)
  | [], _ => none
  | c :: rest, p =>
    if p.column = 0 ∧ atDocumentMark (c :: rest) then none
    else if isSpace c then single? (gap.push c) rest (p.step c)
    else if c = '\'' then
      match rest with
      | '\'' :: rest =>
        (single? .none rest ((p.step c).step c)).map (before (gap.text ++ ['\'']))
      | rest => some (gap.text, ⟨rest, p.step c⟩)
    else (single? .none rest (p.step c)).map (before (gap.text ++ [c]))

/-! ## Double quotes -/

/-- The character of an escape with one letter. -/
def letterEscape? (c : Char) : Option Char :=
  match c with
  | '0' => some '\x00'
  | 'a' => some '\x07'
  | 'b' => some '\x08'
  | 't' | '\t' => some '\t'
  | 'n' => some '\n'
  | 'v' => some '\x0b'
  | 'f' => some '\x0c'
  | 'r' => some '\r'
  | 'e' => some '\x1b'
  | ' ' => some ' '
  | '"' => some '"'
  | '/' => some '/'
  | '\\' => some '\\'
  | 'N' => some '\u0085'
  | '_' => some '\u00a0'
  | 'L' => some '\u2028'
  | 'P' => some '\u2029'
  | _ => none

/-- The number of digits of an escape by code point. -/
def escapeWidth? (c : Char) : Option Nat :=
  match c with
  | 'x' => some 2
  | 'u' => some 4
  | 'U' => some 8
  | _ => none

/-- The character of a code point. -/
def codePoint? (n : Nat) : Option Char :=
  if h : n.isValidChar then some (Char.ofNatAux n h) else none

/-- An escape by code point that is being read: the digits still due, and the value so far. -/
structure PartialEscape where
  due : Nat
  value : Nat

/-- The text up to the closing quote and the cursor after it. `gap` stands before the next
character; `escape` is set inside an escape by code point. -/
def double? (gap : Gap) (escape : Option PartialEscape) :
    List Char → Position → Option (List Char × Cursor)
  | [], _ => none
  | c :: rest, p =>
    match escape with
    | some escape =>
      match Text.digitValue? 16 c with
      | none => none
      | some digit =>
        let value := escape.value * 16 + digit
        if escape.due ≤ 1 then
          match codePoint? value with
          | none => none
          | some read => (double? .none none rest (p.step c)).map (before [read])
        else double? .none (some ⟨escape.due - 1, value⟩) rest (p.step c)
    | none =>
      if p.column = 0 ∧ atDocumentMark (c :: rest) then none
      else if isSpace c then double? (gap.push c) none rest (p.step c)
      else if c = '"' then some (gap.text, ⟨rest, p.step c⟩)
      else if c = '\\' then
        match rest with
        | [] => none
        | d :: rest =>
          let p := (p.step c).step d
          if isBreak d then (double? .afterBreak none rest p).map (before gap.text)
          else match letterEscape? d, escapeWidth? d with
            | some read, _ => (double? .none none rest p).map (before (gap.text ++ [read]))
            | none, some width =>
              (double? .none (some ⟨width, 0⟩) rest p).map (before gap.text)
            | none, none => none
      else (double? .none none rest (p.step c)).map (before (gap.text ++ [c]))

/-! ## Plain scalars -/

/-- The marks that end a plain scalar inside brackets. -/
def isFlowMark (c : Char) : Bool :=
  c = ',' || c = '[' || c = ']' || c = '\x7b' || c = '\x7d'

/-- Whether a plain scalar ends before its next character: at a line that is not indented enough, at
the mark of a document, at a comment or at a mark of structure. -/
def endsPlain (flow : Bool) (indent : Nat) (gap : Gap) (p : Position) : List Char → Bool
  | [] => true
  | c :: rest =>
    (gap.isBroken && !flow && p.column < indent) ||
      (p.column = 0 && atDocumentMark (c :: rest)) ||
      (c = '#' && !gap.isNone) || (c = ':' && atSpace rest) || (flow && isFlowMark c)

/-- Whether a colon stands where it can neither separate nor be part of a plain scalar. -/
def hasStrayColon (flow : Bool) : List Char → Bool
  | ':' :: c :: _ => flow && (isFlowMark c || c = '?')
  | _ => false

/-- The text of a plain scalar, whether it ended after a break, and the cursor after it. Outside of
brackets its lines are indented to a column at least. -/
def plain? (flow : Bool) (indent : Nat) (gap : Gap) :
    List Char → Position → Option (List Char × Bool × Cursor)
  | [], p => some ([], gap.isBroken, ⟨[], p⟩)
  | c :: rest, p =>
    if isSpace c then
      if c = '\t' ∧ gap.isBroken ∧ p.column < indent then none
      else plain? flow indent (gap.push c) rest (p.step c)
    else if endsPlain flow indent gap p (c :: rest) then
      some ([], gap.isBroken, ⟨c :: rest, p⟩)
    else if hasStrayColon flow (c :: rest) then none
    else (plain? flow indent .none rest (p.step c)).map (before (gap.text ++ [c]))

end Token

end RoleDiscovery.Yaml
