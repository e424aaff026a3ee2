import Daybook.Json.Codec

/-!
# Records

A record is written as an object with its members in order.  On reading, the members may come in any
order and mixed with unknown ones, which are skipped; a list of the members' values in order is read
as well.

## Main definitions

* `Json.Member` : a member of a record, which may be required, optional or a list.
* `Json.record` : the codec of records with given members.
-/

namespace Daybook.Json

open Reader

/-- A member of a record.  A value may be left out on writing.  A member that is missing has the
value `absent` in an object, and `absentAtEnd` at the end of a list, if there is one. -/
structure Member where
  name : String
  Value : Type
  read : Reader Value
  write : Value → Option (List Char)
  absent : Option Value
  absentAtEnd : Option Value

namespace Member

variable {α : Type}

/-- A member that has to be present. -/
def required (name : String) (c : Codec α) : Member :=
  ⟨name, α, c.read, fun a => some (c.write a), none, none⟩

/-- Reads a value or `null`. -/
def orNull (r : Reader α) : Reader (Option α) := do
  match ← aheadOfSpace with
  | some 0x6E => do skip; identifier ['u', 'l', 'l']; pure none
  | _ => do pure (some (← r))

/-- A member that may be missing or `null`, and is left out when it has no value. -/
def optional (name : String) (c : Codec α) (mayEnd : Bool) : Member :=
  ⟨name, Option α, orNull c.read, fun a => a.map c.write, some none,
    if mayEnd then some none else none⟩

/-- A list that may be missing, and is left out when it is empty. -/
def listed (name : String) (c : Codec α) : Member :=
  ⟨name, List α, (list c).read, fun as => if as.isEmpty then none else some ((list c).write as),
    some [], some []⟩

end Member

/-- The values of the members of a record, in order. -/
def Values : List Member → Type
  | [] => Unit
  | m :: ms => m.Value × Values ms

/-- The values found so far. -/
def Drafts : List Member → Type
  | [] => Unit
  | m :: ms => Option m.Value × Drafts ms

/-- Nothing found yet. -/
def noDrafts : (ms : List Member) → Drafts ms
  | [] => ()
  | _ :: ms => (none, noDrafts ms)

/-- Reads the colon after a key, and the value. -/
def memberValue {α : Type} (name : String) (r : Reader α) : Reader α := do
  match ← aheadOfSpace with
  | some 0x3A => skip
  | some _ => failAhead (.malformed .expectedColon)
  | none => failAhead (.truncated .object)
  inside (.member name) r

/-- Reads the value of the member with a name, unless there is no such member.  A member that was
found before is a fault. -/
def readInto? : (ms : List Member) → String → Drafts ms → Option (Reader (Drafts ms))
  | [], _, _ => none
  | m :: ms, name, (d, ds) =>
    if name = m.name then
      match d with
      | some _ => some (failSomewhere (.mismatched (.duplicate name)))
      | none => some do
        let v ← memberValue name m.read
        pure (some v, ds)
    else (readInto? ms name ds).map fun r => do pure (d, ← r)

/-- Whether a key follows in an object; a comma has to come before every key but the first. -/
def nextKey (first : Bool) : Reader Bool := do
  match ← aheadOfSpace with
  | none => failAhead (.truncated .object)
  | some b =>
    if b = 0x7D then pure false
    else if first then
      if b = 0x22 then pure true else failAhead (.malformed .keyNotString)
    else if b = 0x2C then do
      skip
      match ← aheadOfSpace with
      | none => failAhead (.truncated .value)
      | some 0x22 => pure true
      | some 0x7D => failAhead (.malformed .trailingComma)
      | some _ => failAhead (.malformed .keyNotString)
    else failAhead (.malformed .expectedObjectCommaOrEnd)

/-- Reads the closing brace of an object. -/
def endOfObject : Reader Unit := do
  match ← aheadOfSpace with
  | some 0x7D => skip
  | some 0x2C => failAhead (.malformed .trailingComma)
  | some _ => failAhead (.malformed .trailingCharacters)
  | none => failAhead (.truncated .object)

/-- Reads the members of an object.  Each takes at least a byte, so the bytes that are left can
count them. -/
def readMembers (ms : List Member) : Bytes → Bool → Drafts ms → Reader (Drafts ms)
  | [], _, _ => fail (.truncated .object)
  | _ :: steps, first, ds => do
    if ← nextKey first then do
      skip
      let name ← string
      let ds ← (readInto? ms name ds).getD do
        memberValue name skipValue
        pure ds
      readMembers ms steps false ds
    else pure ds

/-- The values of the members after an object is read. -/
def complete : (ms : List Member) → Drafts ms → Reader (Values ms)
  | [], () => pure ()
  | m :: ms, (d, ds) => do
    let v ← match d <|> m.absent with
      | some v => pure v
      | none => failSomewhere (.mismatched (.missing m.name))
    let vs ← complete ms ds
    pure (v, vs)

/-- Reads the values of the members from a list. -/
def readElements (expected : String) : (ms : List Member) → Nat → Reader (Values ms)
  | [], _ => pure ()
  | m :: ms, i => do
    let found ← nextElement (i = 0)
    let v ←
      if found then inside (.element i) m.read
      else
        match m.absentAtEnd with
        | some v => pure v
        | none => failSomewhere (.mismatched (.length i expected))
    let vs ← readElements expected ms (i + 1)
    pure (v, vs)

/-- The written members of a record. -/
def writeMembers : (ms : List Member) → Values ms → List (List Char)
  | [], _ => []
  | m :: ms, (v, vs) =>
    match m.write v with
    | some t => (quoted m.name ++ ':' :: t) :: writeMembers ms vs
    | none => writeMembers ms vs

/-- The words for the values that make up a record. -/
def elementsWords (name : String) (ms : List Member) : String :=
  let plural := if ms.length = 1 then " element" else " elements"
  "struct " ++ name ++ " with " ++ String.ofList (Decimal.digits ms.length) ++ plural

/-- Reads the values of the members of a record. -/
def readValues (name : String) (ms : List Member) : Reader (Values ms) := do
  match ← aheadOfSpace with
  | some 0x7B => do
    skip
    closedBy
      (fun s => (readMembers ms (0 :: s) true (noDrafts ms)).bind (complete ms) s)
      endOfObject
  | some 0x5B => do
    skip
    closedBy (readElements (elementsWords name ms) ms 0) endOfList
  | _ => wrongKind ("struct " ++ name)

/-- Records with a name and members. -/
def record {α : Type} (name : String) (ms : List Member) (build : Values ms → α)
    (values : α → Values ms) : Codec α where
  read := do pure (build (← readValues name ms))
  write a := '\x7b' :: separated (writeMembers ms (values a)) ++ ['\x7d']

end Daybook.Json
