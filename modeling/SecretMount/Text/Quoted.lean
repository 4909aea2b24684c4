import SecretMount.Text.Hex
import SecretMount.Text.Printable

/-!
# Texts with escapes

Two ways to write a text for a reader: `Text.escaped`, in ASCII only, for a text inside a message
that brings its own quotes, and `Text.quoted`, in double quotes, which keeps every printable
character.
-/

namespace SecretMount.Text

/-- An escape by code point: the shortest lower-case hexadecimal digits in braces. -/
def codePoint (c : Char) : List Char :=
  '\\' :: 'u' :: '\x7b' :: Hex.ofNat c.toNat ++ ['\x7d']

/-- One character in ASCII: both quotes and the backslash are escaped, and so is all else outside
the range from space to tilde. -/
def escapedChar (c : Char) : List Char :=
  if c = '\t' then ['\\', 't']
  else if c = '\r' then ['\\', 'r']
  else if c = '\n' then ['\\', 'n']
  else if c = '\'' ∨ c = '"' ∨ c = '\\' then ['\\', c]
  else if 0x20 ≤ c.toNat ∧ c.toNat ≤ 0x7E then [c]
  else codePoint c

/-- The text with every character escaped that is not printable ASCII. -/
def escaped (s : String) : String :=
  String.ofList (s.toList.flatMap escapedChar)

/-- One character between double quotes. -/
def quotedChar (c : Char) : List Char :=
  if c = '\x00' then ['\\', '0']
  else if c = '\t' then ['\\', 't']
  else if c = '\r' then ['\\', 'r']
  else if c = '\n' then ['\\', 'n']
  else if c = '"' ∨ c = '\\' then ['\\', c]
  else if isPrintable c then [c]
  else codePoint c

/-- The text in double quotes, printable characters as themselves. -/
def quoted (s : String) : String :=
  String.ofList ('"' :: s.toList.flatMap quotedChar ++ ['"'])

end SecretMount.Text
