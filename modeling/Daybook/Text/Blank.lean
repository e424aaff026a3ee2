/-!
# Blank characters

The characters that separate words without being seen, and texts freed of them at their ends.

## Main definitions

* `Text.isBlank` : the characters with the Unicode property `White_Space`.
* `Text.trimStart`, `Text.trim` : a text without the blanks at its start, or at both ends.
-/

namespace Daybook.Text

/-- Whether a character has the Unicode property `White_Space`. -/
def isBlank (c : Char) : Bool :=
  let n := c.toNat
  (9 ≤ n && n ≤ 13) || n == 0x20 || n == 0x85 || n == 0xA0 || n == 0x1680 ||
    (0x2000 ≤ n && n ≤ 0x200A) || n == 0x2028 || n == 0x2029 || n == 0x202F || n == 0x205F ||
    n == 0x3000

/-- A text without the blanks at its start. -/
def trimStart (s : List Char) : List Char :=
  s.dropWhile isBlank

/-- A text without the blanks at its end. -/
def trimEnd (s : List Char) : List Char :=
  (s.reverse.dropWhile isBlank).reverse

/-- A text without the blanks at its ends. -/
def trim (s : List Char) : List Char :=
  trimEnd (trimStart s)

end Daybook.Text
