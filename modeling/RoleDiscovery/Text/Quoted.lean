import RoleDiscovery.Text.Combining
import RoleDiscovery.Text.Unprintable

/-!
# Quoted texts

How a name is shown inside a message: in double quotes, on one line, with everything that would not
be seen written as an escape.

Results:

* `Text.quoted`: a text in double quotes.
* `Text.quotedPath`: a file path in double quotes, where an apostrophe is escaped as well.
-/

namespace RoleDiscovery.Text

/-- The digits of a number in base 16, lower case, without leading zeros. -/
def hexDigits (n : Nat) : List Char :=
  Nat.toDigits 16 n

/-- An escape by code point. -/
def codePointEscape (c : Char) : List Char :=
  ['\\', 'u', '\x7b'] ++ hexDigits c.toNat ++ ['\x7d']

/-- A character as it stands between the quotes. -/
def escaped (c : Char) : List Char :=
  if c = '"' then ['\\', '"']
  else if c = '\\' then ['\\', '\\']
  else if c = '\n' then ['\\', 'n']
  else if c = '\r' then ['\\', 'r']
  else if c = '\t' then ['\\', 't']
  else if c = '\x00' then ['\\', '0']
  else if ' ' ≤ c ∧ c ≤ '~' then [c]
  else if isCombining c ∨ isUnprintable c then codePointEscape c
  else [c]

/-- A text in double quotes. -/
def quoted (s : String) : String :=
  String.ofList ('"' :: s.toList.flatMap escaped ++ ['"'])

/-- A file path in double quotes. -/
def quotedPath (s : String) : String :=
  String.ofList ('"' :: (s.toList.flatMap fun c =>
    if c = '\'' then ['\\', '\''] else escaped c) ++ ['"'])

end RoleDiscovery.Text
