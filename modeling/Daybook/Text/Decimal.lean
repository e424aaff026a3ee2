/-!
# Decimal numerals

Unsigned numerals in base ten, printed with a least width and read back digit by digit.

## Main definitions

* `Decimal.digits` : the digits of a number, most significant first, without leading zeros.
* `Decimal.padded` : the digits behind as many zeros as a least width asks for.
* `Decimal.signed` : the numeral of an integer, where the sign counts toward the width.
* `Decimal.read?` : the number a non-empty list of ASCII digits denotes.
-/

namespace Daybook.Decimal

/-- The digits of a number, most significant first; zero has one digit. -/
def digits (n : Nat) : List Char :=
  Nat.toDigits 10 n

/-- The digits of a number, with zeros in front up to the given width. -/
def padded (width n : Nat) : List Char :=
  List.replicate (width - (digits n).length) '0' ++ digits n

/-- The numeral of an integer, padded after its sign; the sign takes one place of the width. -/
def signed (width : Nat) (n : Int) : List Char :=
  if n < 0 then '-' :: padded (width - 1) n.natAbs else padded width n.natAbs

/-- The numeral of an integer without padding. -/
def integer (n : Int) : List Char :=
  signed 0 n

/-- The value of an ASCII digit. -/
def digit? (c : Char) : Option Nat :=
  if '0' ≤ c ∧ c ≤ '9' then some (c.toNat - '0'.toNat) else none

/-- The number that a list of ASCII digits denotes after a number already read. -/
def readFrom? (acc : Nat) : List Char → Option Nat
  | [] => some acc
  | c :: cs => (digit? c).bind fun d => readFrom? (10 * acc + d) cs

/-- The number that a non-empty list of ASCII digits denotes. -/
def read? : List Char → Option Nat
  | [] => none
  | cs => readFrom? 0 cs

/-- An optional sign in front of a numeral; a sign alone is no numeral. -/
def readSigned? : List Char → Option Int
  | '-' :: cs => (read? cs).map fun n => -(n : Int)
  | '+' :: cs => (read? cs).map fun n => (n : Int)
  | cs => (read? cs).map fun n => (n : Int)

end Daybook.Decimal
