/-!
# Hexadecimal digits

## Main definitions

* `Hex.digit` : the last digit of a number.
* `Hex.lower`, `Hex.upper` : the digit of a number below sixteen, in small or capital letters.
* `Hex.value?` : the number that a digit in either case stands for.
-/

namespace Daybook.Hex

/-- The last of the hexadecimal digits of a number. -/
def digit (n : Nat) : Fin 16 :=
  Fin.ofNat 16 n

/-- The hexadecimal digit of a number, in small letters. -/
def lower (n : Fin 16) : Char :=
  if n.val < 10 then Char.ofNat (n.val + 48) else Char.ofNat (n.val + 87)

/-- The hexadecimal digit of a number, in capital letters. -/
def upper (n : Fin 16) : Char :=
  if n.val < 10 then Char.ofNat (n.val + 48) else Char.ofNat (n.val + 55)

/-- The number below sixteen that a hexadecimal digit stands for, in either case. -/
def value? (c : Char) : Option (Fin 16) :=
  if '0' ≤ c ∧ c ≤ '9' then some (digit (c.toNat - 48))
  else if 'a' ≤ c ∧ c ≤ 'f' then some (digit (c.toNat - 87))
  else if 'A' ≤ c ∧ c ≤ 'F' then some (digit (c.toNat - 55))
  else none

/-- A digit in small letters is read back. -/
theorem value?_lower (n : Fin 16) : value? (lower n) = some n := by
  revert n; decide

/-- A digit in capital letters is read back. -/
theorem value?_upper (n : Fin 16) : value? (upper n) = some n := by
  revert n; decide

end Daybook.Hex
