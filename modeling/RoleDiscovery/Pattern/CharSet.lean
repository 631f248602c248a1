import RoleDiscovery.Text.Blank
import RoleDiscovery.Text.CaseFold
import RoleDiscovery.Text.Digit
import RoleDiscovery.Text.Letter

/-!
# Sets of characters

What one character of a text may be, where a pattern leaves a choice.

Results:

* `CharSet.ofRange`, `CharSet.union`: sets of ranges and of both of two sets.
* `CharSet.folded`, `CharSet.foldedAscii`: a set with all variants of its characters in case.
* `CharSet.word`, `CharSet.ofCategory?`: words and general categories.
* `CharSet.ofAsciiName?`: the named sets of ASCII characters.
-/

namespace RoleDiscovery

/-- A set of characters. -/
abbrev CharSet := Char → Bool

namespace CharSet

/-- The characters between two of them, both included. -/
def ofRange (first last : Char) : CharSet :=
  fun c => first ≤ c && c ≤ last

/-- The characters of a list. -/
def ofList (cs : List Char) : CharSet :=
  fun c => cs.elem c

/-- The characters of either of two sets. -/
def union (a b : CharSet) : CharSet :=
  fun c => a c || b c

/-- The characters outside a set. -/
def complement (a : CharSet) : CharSet :=
  fun c => !a c

/-! ## Case -/

/-- The characters that equal one of a set but for case. -/
def folded (a : CharSet) : CharSet :=
  fun c => (Text.caseVariants c).any a

/-- The characters that equal one of a set but for the case of ASCII letters. -/
def foldedAscii (a : CharSet) : CharSet :=
  fun c => a c || a c.toLower || a c.toUpper

/-! ## Categories -/

/-- The characters of words: letters, marks, digits, connectors and the two invisible joiners. -/
def word : CharSet :=
  fun c => Text.isAlphabetic c || Text.isMark c || Text.isDecimalDigit c || Text.isConnector c ||
    c = '\u200c' || c = '\u200d'

/-- Numbers of all kinds. -/
def number : CharSet :=
  fun c => Text.isDecimalDigit c || Text.isLetterNumber c || Text.isOtherNumber c

/-- Punctuation of all kinds. -/
def punctuation : CharSet :=
  fun c => Text.isConnector c || Text.isPunctuation c

/-- Characters in none of the other categories: controls, formats and what is not assigned. -/
def other : CharSet :=
  fun c => !(Text.isLetter c || Text.isMark c || number c || punctuation c || Text.isSymbol c ||
    Text.isSeparator c)

/-- The general category of a letter in either case. -/
def ofCategory? (letter : Char) : Option CharSet :=
  match letter.toUpper with
  | 'L' => some Text.isLetter
  | 'M' => some Text.isMark
  | 'N' => some number
  | 'P' => some punctuation
  | 'S' => some Text.isSymbol
  | 'Z' => some Text.isSeparator
  | 'C' => some other
  | _ => none

/-! ## ASCII -/

/-- The blanks and line breaks of ASCII. -/
def asciiBlank : CharSet :=
  union (ofRange '\t' '\x0d') (ofList [' '])

/-- The characters of words in ASCII. -/
def asciiWord : CharSet :=
  fun c => c.isAlphanum || c = '_'

/-- The set of ASCII characters with a name. -/
def ofAsciiName? (name : String) : Option CharSet :=
  match name with
  | "alnum" => some Char.isAlphanum
  | "alpha" => some Char.isAlpha
  | "ascii" => some (ofRange '\x00' '\x7f')
  | "blank" => some (ofList ['\t', ' '])
  | "cntrl" => some (union (ofRange '\x00' '\x1f') (ofList ['\x7f']))
  | "digit" => some Char.isDigit
  | "graph" => some (ofRange '!' '~')
  | "lower" => some Char.isLower
  | "print" => some (ofRange ' ' '~')
  | "punct" => some fun c => ofRange '!' '~' c && !c.isAlphanum
  | "space" => some asciiBlank
  | "upper" => some Char.isUpper
  | "word" => some asciiWord
  | "xdigit" => some fun c => (Text.digitValue? 16 c).isSome
  | _ => none

end CharSet

end RoleDiscovery
