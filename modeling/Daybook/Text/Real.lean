import Daybook.Text.Decimal

/-!
# Shortest numerals of double-precision numbers

The numeral of a double-precision number has the fewest digits that read back as that number, and of
those the nearest.  It is positional for moderate magnitudes and has an exponent otherwise.

## Main definitions

* `Real.shortest` : the digits and the decimal exponent of the shortest numeral.
* `Real.ofDecimal?` : the double-precision number that a decimal fraction is taken for.
* `Real.text` : the numeral of the double-precision number that a decimal fraction is taken for.
-/

namespace Daybook.Real

/-- The multiple of a power of ten nearest to a number, if it is one of those that read back as that
number.  In quarters of the last binary place the number is `value` and the interval of the numbers
that read back goes from `low` to `high`, with its ends if `closed`; the quarter is a power of
two. -/
def onGrid? (value low high : Nat) (closed : Bool) (quarter grid : Int) : Option Nat :=
  let factor := Nat.pow 2 quarter.toNat * Nat.pow 10 (-grid).toNat
  let unit := Nat.pow 2 (-quarter).toNat * Nat.pow 10 grid.toNat
  let fits (c : Nat) : Bool :=
    c != 0 && if closed then low * factor ≤ c * unit && c * unit ≤ high * factor
      else low * factor < c * unit && c * unit < high * factor
  let below := value * factor / unit
  let rest := value * factor % unit
  match fits below, fits (below + 1) with
  | true, true =>
    if 2 * rest < unit then some below
    else if unit < 2 * rest then some (below + 1)
    else if below % 2 = 0 then some below
    else some (below + 1)
  | true, false => some below
  | false, true => some (below + 1)
  | false, false => none

/-- The nearest multiple on the coarsest grid that has one, from a power of ten downward. -/
def searchGrids (value low high : Nat) (closed : Bool) (quarter : Int) : Nat → Int → Nat × Int
  | 0, grid => (value, grid)
  | steps + 1, grid =>
    match onGrid? value low high closed quarter grid with
    | some c => (c, grid)
    | none => searchGrids value low high closed quarter steps (grid - 1)

/-- The digits and the decimal exponent of the shortest numeral of a binary fraction. -/
def shortest (significand : Nat) (exponent : Int) : Nat × Int :=
  let value := 4 * significand
  let narrow := significand = Nat.pow 2 52 ∧ -1074 < exponent
  searchGrids value (if narrow then value - 1 else value - 2) (value + 2) (significand % 2 = 0)
    (exponent - 2) 650 310

/-- An exponent as it is written: always with its sign. -/
def exponentText (exponent : Int) : List Char :=
  (if exponent < 0 then '-' else '+') :: Decimal.digits exponent.natAbs

/-- A numeral with the given digits and decimal exponent: positional between a hundred thousandth
and ten to the sixteenth, with an exponent otherwise. -/
def layout (digits : List Char) (exponent : Int) : List Char :=
  let magnitude := digits.length + exponent
  if 0 ≤ exponent ∧ magnitude ≤ 16 then
    digits ++ List.replicate exponent.toNat '0' ++ ['.', '0']
  else if 0 < magnitude ∧ magnitude ≤ 16 then
    digits.take magnitude.toNat ++ '.' :: digits.drop magnitude.toNat
  else if -5 < magnitude ∧ magnitude ≤ 0 then
    '0' :: '.' :: List.replicate (-magnitude).toNat '0' ++ digits
  else
    let tail := if digits.length = 1 then [] else '.' :: digits.drop 1
    digits.take 1 ++ tail ++ 'e' :: exponentText (magnitude - 1)

/-- A power of ten as a double-precision number. -/
def powerOfTen (exponent : Nat) : Float :=
  Float.ofScientific 1 false exponent

/-- The double-precision number that a decimal fraction is taken for: the significand, multiplied or
divided by a power of ten, each rounded.  There is none if that is too great.  Powers of ten
beyond the greatest are reached in two steps downward, and upward by zero only. -/
def ofDecimal? (significand : Nat) (exponent : Int) : Option Float :=
  let n := Float.ofNat significand
  if exponent < -308 then
    some (n / powerOfTen 308 / powerOfTen (-exponent - 308).toNat)
  else if exponent < 0 then some (n / powerOfTen (-exponent).toNat)
  else if exponent ≤ 308 then
    let x := n * powerOfTen exponent.toNat
    if x.isInf then none else some x
  else if significand = 0 then some n
  else none

/-- The numeral of the double-precision number that a decimal fraction is taken for. -/
def text (negative : Bool) (significand : Nat) (exponent : Int) : String :=
  let bits := ((ofDecimal? significand exponent).getD 0).toBits.toNat
  let fraction : Nat := bits % Nat.pow 2 52
  let place : Nat := bits / Nat.pow 2 52 % Nat.pow 2 11
  let numeral :=
    if place = 0 ∧ fraction = 0 then ['0', '.', '0']
    else
      let (c, grid) :=
        if place = 0 then shortest fraction (-1074)
        else shortest (Nat.pow 2 52 + fraction) (place - 1075)
      layout (Decimal.digits c) grid
  String.ofList (if negative then '-' :: numeral else numeral)

end Daybook.Real
