import Daybook.Text.Hex

/-!
# Writing JSON strings

A string is written between quotation marks.  The quotation mark, the backslash and the control
characters are escaped, all other characters stand for themselves.

## Main definitions

* `Json.escaped` : a character inside a string.
* `Json.quoted` : a text as a string.
-/

namespace Daybook.Json

/-- A control character as an escape with four digits. -/
def numbered (n : Nat) : List Char :=
  ['\\', 'u', '0', '0', Hex.lower (Hex.digit (n / 16)), Hex.lower (Hex.digit n)]

/-- A character as it is written inside a string. -/
def escaped (c : Char) : List Char :=
  if c = '"' then ['\\', '"']
  else if c = '\\' then ['\\', '\\']
  else if c = '\x08' then ['\\', 'b']
  else if c = '\x0c' then ['\\', 'f']
  else if c = '\n' then ['\\', 'n']
  else if c = '\r' then ['\\', 'r']
  else if c = '\t' then ['\\', 't']
  else if c.toNat < 0x20 then numbered c.toNat
  else [c]

/-- A text as a string. -/
def quoted (s : String) : List Char :=
  '"' :: s.toList.flatMap escaped ++ ['"']

end Daybook.Json
