import Daybook.Calendar.Instant
import Daybook.Json.Quoted
import Daybook.Json.Reader
import Daybook.Uuid

/-!
# Values and their JSON text

A codec writes the values of a type as compact JSON and reads them back.  Reading is more liberal
than writing: it takes any spacing and any spelling that the grammar allows.

## Main definitions

* `Json.Codec` : a writer and a reader of the values of a type.
* `Json.text`, `Json.uuid`, `Json.instant`, `Json.flag`, `Json.count`, `Json.integer` : the codecs
  of scalars.
* `Json.list` : the codec of lists.
* `Json.Codec.decode`, `Json.Codec.encode` : whole inputs.
-/

namespace Daybook.Json

open Reader

/-- How the values of a type are read and written. -/
structure Codec (α : Type) where
  read : Reader α
  write : α → List Char

variable {α : Type}

namespace Codec

/-- The value that a whole input denotes: the value is followed by nothing but blanks. -/
def decode (c : Codec α) (input : Bytes) : Except Fault α :=
  (do
    let a ← c.read
    atEnd
    pure a : Reader α) input |>.result

/-- The value at the start of an input, whatever follows it. -/
def decodeStart (c : Codec α) (input : Bytes) : Except Fault α :=
  (c.read input).result

/-- The text of a value. -/
def encode (c : Codec α) (a : α) : String :=
  String.ofList (c.write a)

end Codec

/-! ### Scalars -/

/-- Reads a string. -/
def readText (expected : String) : Reader String := do
  match ← aheadOfSpace with
  | some 0x22 => do skip; string
  | _ => wrongKind expected

/-- Strings. -/
def text : Codec String :=
  ⟨readText "a string", quoted⟩

/-- Values that are written as strings. -/
def spelled (expected reason : String) (parse? : String → Option α) (spell : α → String) :
    Codec α where
  read := do
    let s ← readText expected
    match parse? s with
    | some a => pure a
    | none => fail (.mismatched (.unreadable reason))
  write a := quoted (spell a)

/-- Identifiers. -/
def uuid : Codec Uuid :=
  spelled "a UUID string" "UUID parsing failed" Uuid.parse? Uuid.text

/-- Instants. -/
def instant : Codec Instant :=
  spelled "an RFC 3339 formatted date and time string" "input contains invalid characters"
    Instant.parse? Instant.text

/-- The truth values. -/
def flag : Codec Bool where
  read := do
    match ← aheadOfSpace with
    | some 0x74 => do skip; identifier ['r', 'u', 'e']; pure true
    | some 0x66 => do skip; identifier ['a', 'l', 's', 'e']; pure false
    | _ => wrongKind "a boolean"
  write b := if b then ['t', 'r', 'u', 'e'] else ['f', 'a', 'l', 's', 'e']

/-- The fault for a number that does not belong to a type of integers. -/
def Number.outside (n : Number) (expected : String) : Cause :=
  match n with
  | .real .. => .mismatched (.kind n.found expected)
  | _ => .mismatched (.range n.found expected)

/-- Reads a number of a type of integers. -/
def readNumber (expected : String) (accept? : Int → Option α) : Reader α := do
  match ← aheadOfSpace with
  | some b =>
    if b = 0x2D || isDigit b then do
      let n ← number
      match n with
      | .natural k => accepted n (accept? k)
      | .negative k => accepted n (accept? k)
      | .real .. => accepted n none
    else wrongKind expected
  | none => wrongKind expected
where
  /-- The number, or the fault if it does not belong to the type. -/
  accepted (n : Number) : Option α → Reader α
    | some a => pure a
    | none => fail (n.outside expected)

/-- Unsigned integers of 64 bits. -/
def count : Codec UInt64 where
  read := readNumber "an unsigned integer of 64 bits" fun n =>
    if 0 ≤ n ∧ n < UInt64.size then some (UInt64.ofNat n.toNat) else none
  write n := Decimal.digits n.toNat

/-- Signed integers of 64 bits. -/
def integer : Codec Int64 where
  read := readNumber "a signed integer of 64 bits" fun n =>
    if Int64.minValue.toInt ≤ n ∧ n ≤ Int64.maxValue.toInt then some (Int64.ofInt n) else none
  write n := Decimal.integer n.toInt

/-! ### Lists -/

/-- Whether an element follows in a list; a comma has to come before every element but the first. -/
def nextElement (first : Bool) : Reader Bool := do
  match ← aheadOfSpace with
  | none => failAhead (.truncated .list)
  | some b =>
    if b = 0x5D then pure false
    else if first then pure true
    else if b = 0x2C then do
      skip
      match ← aheadOfSpace with
      | none => failAhead (.truncated .value)
      | some 0x5D => failAhead (.malformed .trailingComma)
      | some _ => pure true
    else failAhead (.malformed .expectedListCommaOrEnd)

/-- Reads the closing bracket of a list. -/
def endOfList : Reader Unit := do
  match ← aheadOfSpace with
  | some 0x5D => skip
  | some 0x2C => do
    skip
    match ← aheadOfSpace with
    | some 0x5D => failAhead (.malformed .trailingComma)
    | _ => failAhead (.malformed .trailingCharacters)
  | some _ => failAhead (.malformed .trailingCharacters)
  | none => failAhead (.truncated .list)

/-- Reads the elements of a list from a position on.  Each takes at least a byte, so the bytes that
are left can count them. -/
def elements (read : Reader α) : Bytes → Nat → Reader (List α)
  | [], _ => fail (.truncated .list)
  | _ :: steps, i => do
    if ← nextElement (i = 0) then do
      let a ← inside (.element i) read
      let as ← elements read steps (i + 1)
      pure (a :: as)
    else pure []

/-- The written elements of a list or members of a record, with commas between them. -/
def separated : List (List Char) → List Char
  | [] => []
  | [t] => t
  | t :: ts => t ++ ',' :: separated ts

/-- Lists. -/
def list (c : Codec α) : Codec (List α) where
  read := do
    match ← aheadOfSpace with
    | some 0x5B => do
      skip
      closedBy (fun s => elements c.read (0 :: s) 0 s) endOfList
    | _ => wrongKind "a sequence"
  write as := '[' :: separated (as.map c.write) ++ [']']

end Daybook.Json
