import RoleDiscovery.Text.Category

/-!
# Characters without a visible form

Control and format characters, separators other than the plain space, code points that stand for no
character, and the letters that only fill a place.

Results:

* `Text.isUnprintable`: membership in this class.
-/

namespace RoleDiscovery.Text

/-- Whether a character is a letter without a form of its own, which fills the place of one in a
syllable. -/
def isFiller (c : Char) : Bool :=
  c = '\u115f' || c = '\u1160' || c = '\u3164' || c = '\uffa0'

/-- Whether a character is in one of the categories of visible characters. -/
def isVisible (c : Char) : Bool :=
  isLetter c || isMark c || isDecimalDigit c || isLetterNumber c || isOtherNumber c ||
    isConnector c || isPunctuation c || isSymbol c

/-- Whether a character has no visible form. -/
def isUnprintable (c : Char) : Bool :=
  c ≠ ' ' && (isFiller c || !isVisible c)

end RoleDiscovery.Text
