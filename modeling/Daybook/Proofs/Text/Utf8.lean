import Daybook.Text.Utf8
import Mathlib.Tactic.SplitIfs

/-!
# The bytes of a text

The bytes of a text are those of its characters, one after another.  An ASCII character is a byte of
its own, and no byte of another character is an ASCII character.

## Main definitions

* `Utf8.bytes` : the bytes of a list of characters.

## Main results

* `Utf8.encode_append`, `Utf8.encode_ofList` : the bytes of a text, piece by piece.
* `Utf8.bytes_cons_ascii`, `Utf8.le_of_mem_utf8EncodeChar` : the bytes of one character.
* `Utf8.mem_of_mem_bytes` : where the byte of an ASCII character comes from.
* `Utf8.encode_of_decode?` : bytes that are read as a text are the bytes of that text.
-/

namespace Daybook.Utf8

theorem encode_append (s t : String) : encode (s ++ t) = encode s ++ encode t := by
  simp only [encode, String.toUTF8_eq_toByteArray, String.toByteArray_append,
    ByteArray.toList_data_append]

theorem encode_ofList (cs : List Char) :
    encode (String.ofList cs) = cs.flatMap String.utf8EncodeChar := by
  simp [encode, List.utf8Encode]

/-- Bytes that are read as a text are the bytes of that text. -/
theorem encode_of_decode? {bs : Bytes} {s : String} (h : decode? bs = some s) : encode s = bs := by
  simp only [decode?, String.fromUTF8?] at h
  split at h
  · rw [← Option.some.inj h, encode, String.toUTF8_eq_toByteArray]
    rfl
  · cases h

/-- The bytes of a list of characters. -/
def bytes (cs : List Char) : Bytes :=
  cs.flatMap String.utf8EncodeChar

@[simp]
theorem bytes_nil : bytes [] = [] :=
  rfl

@[simp]
theorem bytes_append (cs ds : List Char) : bytes (cs ++ ds) = bytes cs ++ bytes ds :=
  List.flatMap_append

theorem bytes_cons (c : Char) (cs : List Char) :
    bytes (c :: cs) = String.utf8EncodeChar c ++ bytes cs :=
  rfl

theorem bytes_toList (s : String) : bytes s.toList = encode s := by
  rw [bytes, ← encode_ofList, String.ofList_toList]

theorem utf8EncodeChar_of_lt {c : Char} (h : c.toNat < 0x80) :
    String.utf8EncodeChar c = [UInt8.ofNat c.toNat] := by
  rw [String.utf8EncodeChar, if_pos]
  · rfl
  · exact Nat.le_of_lt_succ h

/-- An ASCII character is a byte of its own. -/
theorem bytes_cons_ascii {c : Char} (h : c.toNat < 0x80) (cs : List Char) :
    bytes (c :: cs) = UInt8.ofNat c.toNat :: bytes cs := by
  rw [bytes_cons, utf8EncodeChar_of_lt h]
  rfl

theorem bytes_append_cons_ascii {c : Char} (h : c.toNat < 0x80) (cs ds : List Char) :
    bytes (cs ++ c :: ds) = bytes cs ++ UInt8.ofNat c.toNat :: bytes ds := by
  rw [bytes_append, bytes_cons_ascii h]

/-- No byte of a character beyond ASCII is an ASCII character. -/
theorem le_of_mem_utf8EncodeChar {c : Char} (h : 0x80 ≤ c.toNat) {b : UInt8}
    (hb : b ∈ String.utf8EncodeChar c) : 0x80 ≤ b := by
  have hlt : ¬c.val.toNat ≤ 127 := by
    have : c.val.toNat = c.toNat := rfl
    omega
  simp only [String.utf8EncodeChar, if_neg hlt] at hb
  rw [UInt8.le_iff_toNat_le, show (0x80 : UInt8).toNat = 128 from rfl]
  split_ifs at hb <;> simp only [List.mem_cons, List.not_mem_nil, or_false] at hb <;>
    rcases hb with rfl | rfl | rfl | rfl <;> rw [UInt8.toNat_ofNat'] <;> omega

/-- Each byte is the number of a character. -/
theorem toNat_ofNat_toNat (b : UInt8) : (Char.ofNat b.toNat).toNat = b.toNat := by
  have hb := b.toNat_lt
  rw [Char.ofNat, dif_pos (.inl (by omega))]
  rfl

/-- The byte of an ASCII character comes from that character only. -/
theorem mem_of_mem_bytes {c : Char} (hc : c.toNat < 0x80) {cs : List Char}
    (h : UInt8.ofNat c.toNat ∈ bytes cs) : c ∈ cs := by
  obtain ⟨d, hd, hmem⟩ := List.mem_flatMap.1 h
  by_cases hascii : d.toNat < 0x80
  · rw [utf8EncodeChar_of_lt hascii, List.mem_singleton, ← UInt8.toNat_inj, UInt8.toNat_ofNat',
      UInt8.toNat_ofNat'] at hmem
    have hn : c.toNat = d.toNat := by omega
    rwa [Char.toNat_inj.1 hn]
  · have hle := le_of_mem_utf8EncodeChar (Nat.not_lt.1 hascii) hmem
    rw [UInt8.le_iff_toNat_le, UInt8.toNat_ofNat', show (0x80 : UInt8).toNat = 128 from rfl] at hle
    omega

end Daybook.Utf8
