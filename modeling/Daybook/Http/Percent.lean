import Daybook.Text.Hex
import Daybook.Text.Split
import Daybook.Text.Utf8

/-!
# Percent encoding and forms

In an address, a byte that is not a letter, a digit or one of four marks is written as a percent
sign with two hexadecimal digits.  A form is a list of names and values joined by ampersands and
equality signs, in which a plus sign stands for a space.

## Main definitions

* `Percent.encode`, `Percent.decode` : texts and bytes in an address.
* `Form.parse` : the names and values of a form.
* `Form.repeated?`, `Form.value?` : a repeated field, and the value of a field.
-/

namespace Daybook

namespace Percent

/-- Whether a byte stands for itself: an ASCII letter or digit, or one of `-`, `.`, `_` and `~`. -/
def isPlain (b : UInt8) : Bool :=
  (0x30 ≤ b && b ≤ 0x39) || (0x41 ≤ b && b ≤ 0x5A) || (0x61 ≤ b && b ≤ 0x7A) ||
    b == 0x2D || b == 0x2E || b == 0x5F || b == 0x7E

/-- A byte in an address. -/
def encodeByte (b : UInt8) : List Char :=
  if isPlain b then [Char.ofNat b.toNat]
  else ['%', Hex.upper (Hex.digit (b.toNat / 16)), Hex.upper (Hex.digit b.toNat)]

/-- A text in an address. -/
def encode (s : String) : List Char :=
  (Utf8.encode s).flatMap encodeByte

/-- The number that a byte stands for as a hexadecimal digit. -/
def hexValue? (b : UInt8) : Option Nat :=
  (Hex.value? (Char.ofNat b.toNat)).map Fin.val

/-- The byte behind a percent sign that two bytes stand for. -/
def pair? (b c : UInt8) : Option UInt8 := do
  let high ← hexValue? b
  let low ← hexValue? c
  some (UInt8.ofNat (16 * high + low))

/-- The bytes of a part of an address.  A percent sign without two hexadecimal digits after it
stands for itself. -/
def decode : Bytes → Bytes
  | [] => []
  | [b] => [b]
  | [b, c] => [b, c]
  | b :: c :: d :: rest =>
    if b = 0x25 then
      match pair? c d with
      | some e => e :: decode rest
      | none => b :: decode (c :: d :: rest)
    else b :: decode (c :: d :: rest)

end Percent

namespace Form

/-- The text of a name or a value: a plus sign is a space, percent signs are decoded, and malformed
bytes are replaced. -/
def component (bs : Bytes) : String :=
  Utf8.decodeLossy (Percent.decode (bs.map fun b => if b = 0x2B then 0x20 else b))

/-- A name and a value, which are what comes before and after the first equality sign. -/
def pair (piece : Bytes) : String × String :=
  (component (Text.before 0x3D piece), component (Text.after 0x3D piece))

/-- The names and values of a form. -/
def parse (bs : Bytes) : List (String × String) :=
  ((Text.pieces 0x26 bs).filter (!·.isEmpty)).map pair

/-- The name of the first field that repeats an earlier one or one of the names already seen, among
the fields with certain names. -/
def repeatedAfter? (names seen : List String) : List (String × String) → Option String
  | [] => none
  | (name, _) :: fields =>
    if name ∈ names then
      if name ∈ seen then some name else repeatedAfter? names (name :: seen) fields
    else repeatedAfter? names seen fields

/-- The name of the first field that repeats an earlier one, among the fields with certain names. -/
def repeated? (names : List String) (fields : List (String × String)) : Option String :=
  repeatedAfter? names [] fields

/-- The value of the first field with a name. -/
def value? (name : String) (fields : List (String × String)) : Option String :=
  fields.lookup name

end Form

end Daybook
