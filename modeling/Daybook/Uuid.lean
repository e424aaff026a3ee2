import Daybook.Text.Hex

/-!
# Universally unique identifiers

An identifier is a string of 32 hexadecimal digits.  It is written in five groups joined by
hyphens; on reading, the hyphens may be missing, and the grouped form may stand in braces or behind
the prefix of its uniform resource name.

## Main definitions

* `Uuid`, `Uuid.text` : an identifier and its canonical text.
* `Uuid.parse?` : the identifier that a text denotes in one of the accepted forms.
* `Uuid.version` : the digit that tells how an identifier was made.
-/

namespace Daybook

/-- An identifier of 32 hexadecimal digits, most significant first. -/
structure Uuid where
  digits : List (Fin 16)
  length_digits : digits.length = 32
deriving DecidableEq, Repr

namespace Uuid

instance : Inhabited Uuid :=
  ⟨⟨List.replicate 32 (Hex.digit 0), rfl⟩⟩

/-- The digits of an identifier as characters. -/
def chars (u : Uuid) : List Char :=
  u.digits.map Hex.lower

/-- Thirty-two characters in groups of eight, four, four, four and twelve, joined by hyphens. -/
def grouped (cs : List Char) : List Char :=
  cs.take 8 ++ '-' :: ((cs.drop 8).take 4 ++ '-' :: ((cs.drop 12).take 4 ++ '-' ::
    ((cs.drop 16).take 4 ++ '-' :: cs.drop 20)))

/-- The canonical text of an identifier. -/
def text (u : Uuid) : String :=
  String.ofList (grouped u.chars)

/-- The identifier with the given digits, if there are 32 of them. -/
def ofDigits? (ds : List (Fin 16)) : Option Uuid :=
  if h : ds.length = 32 then some ⟨ds, h⟩ else none

/-- The identifier that 32 characters denote without hyphens. -/
def ofPlain? (cs : List Char) : Option Uuid :=
  (cs.mapM Hex.value?).bind ofDigits?

/-- The characters of a text with hyphens at the places of the canonical form. -/
def ungrouped? (cs : List Char) : Option (List Char) :=
  let rest := cs.drop 8
  if cs.length = 36 ∧ rest[0]? = some '-' ∧ rest[5]? = some '-' ∧ rest[10]? = some '-' ∧
      rest[15]? = some '-' then
    some (cs.take 8 ++ (cs.drop 9).take 4 ++ (cs.drop 14).take 4 ++ (cs.drop 19).take 4 ++
      cs.drop 24)
  else none

/-- The identifier that a text in the canonical grouping denotes. -/
def ofGrouped? (cs : List Char) : Option Uuid :=
  (ungrouped? cs).bind ofPlain?

/-- The prefix of the uniform resource name of an identifier. -/
def resourcePrefix : List Char :=
  ['u', 'r', 'n', ':', 'u', 'u', 'i', 'd', ':']

/-- The identifier that a text denotes: 32 digits, the grouped form, the grouped form in braces, or
the grouped form behind the resource prefix in any case. -/
def parse? (s : String) : Option Uuid :=
  let cs := s.toList
  if cs.length = 32 then ofPlain? cs
  else if cs.length = 36 then ofGrouped? cs
  else if cs.length = 38 ∧ cs.head? = some '\x7b' ∧ cs.getLast? = some '\x7d' then
    ofGrouped? ((cs.drop 1).take 36)
  else if cs.length = 45 ∧ (cs.take 9).map Char.toLower = resourcePrefix then
    ofGrouped? (cs.drop 9)
  else none

/-- The digit that tells how an identifier was made. -/
def version (u : Uuid) : Nat :=
  (u.digits[12]?.getD (Hex.digit 0)).val

end Uuid

end Daybook
