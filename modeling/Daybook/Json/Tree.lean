import Daybook.Json.Record

/-!
# JSON values of any shape

Where the shape of a value is not fixed in advance, the value is read as a tree.

## Main definitions

* `Json.Tree` : a JSON value of any shape.
* `Json.tree` : the reader of such values up to a depth.
-/

namespace Daybook.Json

open Reader

/-- A JSON value of any shape.  The members of an object stand in order, and a key may occur several
times. -/
inductive Tree where
  | null
  | boolean (b : Bool)
  | number (n : Number)
  | text (s : String)
  | list (elements : List Tree)
  | object (members : List (String × Tree))
deriving Repr

/-- Reads a scalar whose first byte is known. -/
def scalar (first : UInt8) : Reader Tree :=
  if first = 0x6E then do skip; identifier ['u', 'l', 'l']; pure .null
  else if first = 0x74 then do skip; identifier ['r', 'u', 'e']; pure (.boolean true)
  else if first = 0x66 then do skip; identifier ['a', 'l', 's', 'e']; pure (.boolean false)
  else if first = 0x2D || isDigit first then do pure (.number (← number))
  else if first = 0x22 then do skip; pure (.text (← string))
  else failAhead (.malformed .expectedValue)

/-- Reads the members of an object.  Each takes at least a byte, so the bytes that are left can
count them. -/
def members (inner : Reader Tree) : Bytes → Bool → Reader (List (String × Tree))
  | [], _ => fail (.truncated .object)
  | _ :: steps, first => do
    if ← nextKey first then do
      skip
      let name ← string
      let t ← memberValue name inner
      let ts ← members inner steps false
      pure ((name, t) :: ts)
    else pure []

/-- Reads a value in which lists and objects are nested at most to a depth. -/
def tree : Nat → Reader Tree
  | 0 => do
    match ← aheadOfSpace with
    | none => failAhead (.truncated .value)
    | some b =>
      if b = 0x5B ∨ b = 0x7B then failAhead (.malformed .nestedTooDeeply) else scalar b
  | depth + 1 => do
    match ← aheadOfSpace with
    | none => failAhead (.truncated .value)
    | some b =>
      if b = 0x5B then do
        skip
        .list <$> closedBy (fun s => elements (tree depth) (0 :: s) 0 s) endOfList
      else if b = 0x7B then do
        skip
        .object <$> closedBy (fun s => members (tree depth) (0 :: s) true s) endOfObject
      else scalar b

/-- How deep a value may be nested that is itself a member of a record. -/
def memberDepth : Nat :=
  126

/-- The texts of a list of texts. -/
def Tree.texts? : Tree → Option (List String)
  | .list ts => ts.mapM fun
    | .text s => some s
    | _ => none
  | _ => none

end Daybook.Json
