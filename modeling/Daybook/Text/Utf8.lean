/-!
# Texts as bytes

Texts travel as bytes in the encoding UTF-8.  Reading is strict, or it replaces each malformed part
by the replacement character U+FFFD.

## Main definitions

* `Bytes`, `Utf8.encode`, `Utf8.decode?` : byte strings, and the strict conversion of texts.
* `Utf8.fromMalformed` : the part that is not well formed, and all after it.
* `Utf8.decodeLossy` : reading that replaces what is malformed.
-/

namespace Daybook

/-- A string of bytes. -/
abbrev Bytes := List UInt8

namespace Utf8

/-- The bytes of a text. -/
def encode (s : String) : Bytes :=
  s.toUTF8.data.toList

/-- The text that bytes encode, if they are well formed. -/
def decode? (bs : Bytes) : Option String :=
  String.fromUTF8? ⟨bs.toArray⟩

/-- Encoding loses nothing. -/
theorem decode?_encode (s : String) : decode? (encode s) = some s := by
  have h : (⟨(encode s).toArray⟩ : ByteArray) = s.toByteArray := by
    simp [encode, String.toUTF8]
  simp only [decode?, h, String.fromUTF8?, s.isValidUTF8, dite_true]
  rfl

/-- How many continuation bytes a leading byte asks for, and between which bounds the first of them
lies; none for a byte that cannot lead. -/
def expected? (b : UInt8) : Option (Nat × UInt8 × UInt8) :=
  if b < 0x80 then some (0, 0x80, 0xBF)
  else if b < 0xC2 then none
  else if b < 0xE0 then some (1, 0x80, 0xBF)
  else if b = 0xE0 then some (2, 0xA0, 0xBF)
  else if b = 0xED then some (2, 0x80, 0x9F)
  else if b < 0xF0 then some (2, 0x80, 0xBF)
  else if b = 0xF0 then some (3, 0x90, 0xBF)
  else if b < 0xF4 then some (3, 0x80, 0xBF)
  else if b = 0xF4 then some (3, 0x80, 0x8F)
  else none

/-- The length of the run of continuation bytes that begins with a byte between two bounds. -/
def continuation (count : Nat) (low high : UInt8) : Bytes → Nat
  | [] => 0
  | b :: rest =>
    if count = 0 ∨ b < low ∨ high < b then 0 else 1 + continuation (count - 1) 0x80 0xBF rest

/-- The character that a well-formed sequence of bytes encodes. -/
def charOf (lead : UInt8) (tail : Bytes) : Char :=
  let bits : Nat :=
    match tail.length with
    | 0 => lead.toNat
    | 1 => lead.toNat % 32
    | 2 => lead.toNat % 16
    | _ => lead.toNat % 8
  Char.ofNat (tail.foldl (fun n b => n * 64 + b.toNat % 64) bits)

/-- The characters of bytes, where each longest start of a character that is not continued, and each
byte that starts none, becomes the replacement character.  The bytes read are dropped before the
next character; `skip` counts those still to be dropped. -/
def lossy (skip : Nat) : Bytes → List Char
  | [] => []
  | b :: rest =>
    match skip with
    | k + 1 => lossy k rest
    | 0 =>
      match expected? b with
      | none => '\uFFFD' :: lossy 0 rest
      | some (count, low, high) =>
        let found := continuation count low high rest
        if found = count then charOf b (rest.take count) :: lossy count rest
        else '\uFFFD' :: lossy found rest

/-- What is left of bytes from their first malformed part on.  `skip` counts the bytes still to be
dropped of a character that is well formed. -/
def fromMalformed (skip : Nat) : Bytes → Bytes
  | [] => []
  | b :: rest =>
    match skip with
    | k + 1 => fromMalformed k rest
    | 0 =>
      match expected? b with
      | none => b :: rest
      | some (count, low, high) =>
        if continuation count low high rest = count then fromMalformed count rest else b :: rest

/-- The text of bytes, with the replacement character for what is malformed. -/
def decodeLossy (bs : Bytes) : String :=
  (decode? bs).getD (String.ofList (lossy 0 bs))

end Utf8

end Daybook
