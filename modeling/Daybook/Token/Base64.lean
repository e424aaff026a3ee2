import Daybook.Text.Utf8

/-!
# Bytes in the URL-safe alphabet of 64 characters

Three bytes make four characters, and one or two bytes at the end make two or three.  There is no
padding.  Reading is strict: each string of bytes has one written form.

## Main definitions

* `Base64.encode` : the characters of a string of bytes.
* `Base64.decode?` : the bytes that characters denote.
-/

namespace Daybook.Base64

/-- The character with a number below 64. -/
def digit (n : Nat) : Char :=
  if n < 26 then Char.ofNat (n + 65)
  else if n < 52 then Char.ofNat (n + 71)
  else if n < 62 then Char.ofNat (n - 4)
  else if n = 62 then '-'
  else '_'

/-- The number of a character. -/
def value? (c : Char) : Option Nat :=
  if 'A' ≤ c ∧ c ≤ 'Z' then some (c.toNat - 65)
  else if 'a' ≤ c ∧ c ≤ 'z' then some (c.toNat - 71)
  else if '0' ≤ c ∧ c ≤ '9' then some (c.toNat + 4)
  else if c = '-' then some 62
  else if c = '_' then some 63
  else none

/-- The characters of a string of bytes. -/
def encode : Bytes → List Char
  | [] => []
  | [x] => [digit (x.toNat / 4), digit (x.toNat % 4 * 16)]
  | [x, y] =>
    [digit (x.toNat / 4), digit (x.toNat % 4 * 16 + y.toNat / 16), digit (y.toNat % 16 * 4)]
  | x :: y :: z :: rest =>
    digit (x.toNat / 4) :: digit (x.toNat % 4 * 16 + y.toNat / 16) ::
      digit (y.toNat % 16 * 4 + z.toNat / 64) :: digit (z.toNat % 64) :: encode rest

/-- The bytes that characters denote.  A last character may not carry bits that belong to no
byte. -/
def decode? : List Char → Option Bytes
  | [] => some []
  | [_] => none
  | [c, d] => do
    let c ← value? c
    let d ← value? d
    if d % 16 = 0 then some [UInt8.ofNat (c * 4 + d / 16)] else none
  | [c, d, e] => do
    let c ← value? c
    let d ← value? d
    let e ← value? e
    if e % 4 = 0 then
      some [UInt8.ofNat (c * 4 + d / 16), UInt8.ofNat (d % 16 * 16 + e / 4)]
    else none
  | c :: d :: e :: f :: rest => do
    let c ← value? c
    let d ← value? d
    let e ← value? e
    let f ← value? f
    let bytes ← decode? rest
    some (UInt8.ofNat (c * 4 + d / 16) :: UInt8.ofNat (d % 16 * 16 + e / 4) ::
      UInt8.ofNat (e % 4 * 64 + f) :: bytes)

end Daybook.Base64
