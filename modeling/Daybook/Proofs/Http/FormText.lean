import Daybook.Http.Percent
import Daybook.Proofs.Text.Hex
import Daybook.Proofs.Text.Split

/-!
# Reading what was written in an address or a form

A byte is written as itself, as a percent sign with two digits in either case, or, if it is a space
of a form, as a plus sign.  Whatever the choice, it is read back, and none of these ways makes use
of the characters by which forms and addresses are divided.

## Main definitions

* `Percent.IsWritten`, `Form.IsWritten` : the characters of what is written.
* `Form.SpellsByte`, `Form.SpellsBytes`, `Form.SpellsField`, `Form.Spells` : the ways to write a
  byte, bytes, a field and a form.

## Main results

* `Percent.spells_encode`, `Percent.decode_encode` : what is written in an address is read back.
* `Form.component_of_spells`, `Form.parse_of_spells` : so are the names and values of a form.
-/

namespace Daybook

open Utf8

/-! ### The characters that are written -/

/-- The characters of a text in an address. -/
def Percent.IsWritten (c : Char) : Prop :=
  c.isAlphanum = true ∨ c ∈ ['-', '_', '.', '~', '%']
deriving Decidable

/-- The characters of a name or a value in a form. -/
def Form.IsWritten (c : Char) : Prop :=
  Percent.IsWritten c ∨ c ∈ ['*', '+']

/-- None of them divides a form, begins an object or is a blank. -/
theorem Form.IsWritten.bounds {c : Char} (h : IsWritten c) :
    c ∉ ['&', '=', '\x7b'] ∧ Text.isBlank c = false := by
  rcases h with (h | h) | h
  · have hn := isAlphanum_iff.1 h
    refine ⟨fun hmem => ?_, ?_⟩
    · simp only [List.mem_cons, List.not_mem_nil, or_false] at hmem
      rcases hmem with rfl | rfl | rfl <;> revert h <;> decide
    · simp only [Text.isBlank, Bool.or_eq_false_iff, Bool.and_eq_false_iff,
        decide_eq_false_iff_not, beq_eq_false_iff_ne]
      omega
  · simp only [List.mem_cons, List.not_mem_nil, or_false] at h
    rcases h with rfl | rfl | rfl | rfl | rfl <;> decide
  · simp only [List.mem_cons, List.not_mem_nil, or_false] at h
    rcases h with rfl | rfl <;> decide

/-! ### Ways to write a byte -/

namespace Form

/-- The ways to write a byte in a form. -/
inductive SpellsByte : UInt8 → List Char → Prop
  /-- A letter, a digit or one of five marks stands for itself. -/
  | itself {b : UInt8} (h : Percent.isPlain b = true ∨ b = 0x2A) : SpellsByte b [Char.ofNat b.toNat]
  /-- A plus sign stands for a space. -/
  | plus : SpellsByte 0x20 ['+']
  /-- Any byte may be written by its two digits, each in either case. -/
  | digits {c d : Char} {high low : Fin 16} (hc : Hex.value? c = some high)
      (hd : Hex.value? d = some low) :
      SpellsByte (UInt8.ofNat (16 * high.val + low.val)) ['%', c, d]

/-- The ways to write bytes. -/
inductive SpellsBytes : Bytes → List Char → Prop
  | nil : SpellsBytes [] []
  | cons {b : UInt8} {bs : Bytes} {cs ds : List Char} (hb : SpellsByte b cs)
      (hbs : SpellsBytes bs ds) : SpellsBytes (b :: bs) (cs ++ ds)

/-- A plain byte is a letter, a digit or a mark. -/
theorem isWritten_of_isPlain {b : UInt8} (h : Percent.isPlain b = true) :
    Percent.IsWritten (Char.ofNat b.toNat) := by
  have hall : ∀ n < 256, Percent.isPlain (UInt8.ofNat n) = true →
      (Char.ofNat n).isAlphanum = true ∨ Char.ofNat n ∈ ['-', '_', '.', '~', '%'] := by
    decide +kernel
  exact hall b.toNat b.toNat_lt_size (by rwa [UInt8.ofNat_toNat])

theorem SpellsByte.isWritten {b : UInt8} {cs : List Char} (h : SpellsByte b cs) :
    ∀ c ∈ cs, IsWritten c := by
  intro c hc
  cases h with
  | itself h =>
    rw [List.mem_singleton.1 hc]
    rcases h with h | rfl
    · exact .inl (isWritten_of_isPlain h)
    · exact .inr (by decide)
  | plus =>
    rw [List.mem_singleton.1 hc]
    exact .inr (by decide)
  | digits hhigh hlow =>
    simp only [List.mem_cons, List.not_mem_nil, or_false] at hc
    rcases hc with rfl | rfl | rfl
    · exact .inl (.inr (by decide))
    · exact .inl (.inl (Hex.isAlphanum_of_value? hhigh))
    · exact .inl (.inl (Hex.isAlphanum_of_value? hlow))

theorem SpellsBytes.isWritten {bs : Bytes} {cs : List Char} (h : SpellsBytes bs cs) :
    ∀ c ∈ cs, IsWritten c := by
  induction h with
  | nil => exact fun c hc => absurd hc List.not_mem_nil
  | cons hb _ ih => exact fun c hc => (List.mem_append.1 hc).elim (hb.isWritten c) (ih c)

end Form

/-! ### Reading bytes -/

namespace Percent

theorem decode_cons_of_ne {b : UInt8} (h : b ≠ 0x25) (bs : Bytes) :
    decode (b :: bs) = b :: decode bs := by
  match bs with
  | [] => rfl
  | [_] => rfl
  | _ :: _ :: _ => rw [decode, if_neg h]

/-- Bytes without a percent sign stand for themselves. -/
theorem decode_of_notMem {bs : Bytes} (h : 0x25 ∉ bs) : decode bs = bs := by
  induction bs with
  | nil => rfl
  | cons b bs ih =>
    rw [List.mem_cons, not_or] at h
    rw [decode_cons_of_ne (Ne.symm h.1), ih h.2]

theorem decode_digits {c d : Char} {high low : Fin 16} (hc : Hex.value? c = some high)
    (hd : Hex.value? d = some low) (bs : Bytes) :
    decode (0x25 :: UInt8.ofNat c.toNat :: UInt8.ofNat d.toNat :: bs) =
      UInt8.ofNat (16 * high.val + low.val) :: decode bs := by
  have hvalue {c : Char} {n : Fin 16} (h : Hex.value? c = some n) :
      hexValue? (UInt8.ofNat c.toNat) = some n.val := by
    rw [hexValue?, Hex.value?_byte h, Option.map_some]
  rw [decode, if_pos rfl]
  simp only [pair?, hvalue hc, hvalue hd, Option.bind_eq_bind, Option.bind_some]

end Percent

namespace Form

/-- A plus sign is read as a space. -/
def spaced (bs : Bytes) : Bytes :=
  bs.map fun b => if b = 0x2B then 0x20 else b

theorem spaced_append (bs bs' : Bytes) : spaced (bs ++ bs') = spaced bs ++ spaced bs' :=
  List.map_append

theorem spaced_cons_of_ne {b : UInt8} (h : b ≠ 0x2B) (bs : Bytes) :
    spaced (b :: bs) = b :: spaced bs := by
  rw [spaced, List.map_cons, if_neg h, ← spaced]

/-- No plus sign is among the digits. -/
theorem ne_plus_of_value? {c : Char} {n : Fin 16} (h : Hex.value? c = some n) :
    UInt8.ofNat c.toNat ≠ 0x2B := by
  intro he
  have hn := isAlphanum_iff.1 (Hex.isAlphanum_of_value? h)
  have hplus := congrArg UInt8.toNat he
  rw [UInt8.toNat_ofNat', show (0x2B : UInt8).toNat = 43 from rfl] at hplus
  omega

/-- A byte is read back, however it is written. -/
theorem SpellsByte.decode {b : UInt8} {cs : List Char} (h : SpellsByte b cs) (bs : Bytes) :
    Percent.decode (spaced (bytes cs) ++ bs) = b :: Percent.decode bs := by
  cases h with
  | itself h =>
    have hall : ∀ n < 256, Percent.isPlain (UInt8.ofNat n) = true ∨ UInt8.ofNat n = 0x2A →
        n < 128 ∧ n ≠ 0x2B ∧ n ≠ 0x25 := by decide +kernel
    obtain ⟨hascii, hplus, hpercent⟩ :=
      hall b.toNat b.toNat_lt_size (by rwa [UInt8.ofNat_toNat])
    have hbytes : bytes [Char.ofNat b.toNat] = [b] := by
      have hchar := toNat_ofNat_toNat b
      rw [bytes_cons_ascii (by omega), hchar, UInt8.ofNat_toNat]
      rfl
    have hne : b ≠ 0x2B := fun he => hplus (by rw [he]; rfl)
    have hne' : b ≠ 0x25 := fun he => hpercent (by rw [he]; rfl)
    rw [hbytes, spaced_cons_of_ne hne]
    exact Percent.decode_cons_of_ne hne' bs
  | plus => exact Percent.decode_cons_of_ne (by decide) bs
  | digits hc hd =>
    rw [bytes_cons_ascii (by decide), bytes_cons_ascii (Hex.lt_of_value? hc),
      bytes_cons_ascii (Hex.lt_of_value? hd), spaced_cons_of_ne (by decide),
      spaced_cons_of_ne (ne_plus_of_value? hc), spaced_cons_of_ne (ne_plus_of_value? hd)]
    exact Percent.decode_digits hc hd bs

theorem SpellsBytes.decode {bs : Bytes} {cs : List Char} (h : SpellsBytes bs cs) :
    Percent.decode (spaced (bytes cs)) = bs := by
  induction h with
  | nil => rfl
  | cons hb _ ih => rw [bytes_append, spaced_append, hb.decode, ih]

theorem component_of_spells {s : String} {cs : List Char} (h : SpellsBytes (encode s) cs) :
    component (bytes cs) = s := by
  rw [component, ← spaced, h.decode, decodeLossy, decode?_encode, Option.getD_some]

end Form

/-! ### Addresses -/

namespace Percent

theorem spellsByte_encodeByte (b : UInt8) : Form.SpellsByte b (encodeByte b) := by
  rw [encodeByte]
  split
  · next hplain => exact .itself (.inl hplain)
  · have hbyte :
        UInt8.ofNat (16 * (Hex.digit (b.toNat / 16)).val + (Hex.digit b.toNat).val) = b := by
      have hb := b.toNat_lt
      rw [← UInt8.toNat_inj, UInt8.toNat_ofNat', Hex.digit, Hex.digit, Fin.val_ofNat,
        Fin.val_ofNat]
      omega
    have hdigits := Form.SpellsByte.digits (Hex.value?_upper (Hex.digit (b.toNat / 16)))
      (Hex.value?_upper (Hex.digit b.toNat))
    rwa [hbyte] at hdigits

/-- What stands in an address could stand in a form. -/
theorem spells_encode (s : String) : Form.SpellsBytes (Utf8.encode s) (encode s) := by
  rw [encode]
  induction Utf8.encode s with
  | nil => exact .nil
  | cons b bs ih => exact .cons (spellsByte_encodeByte b) ih

theorem isWritten_of_mem_encode {s : String} {c : Char} (h : c ∈ encode s) : IsWritten c := by
  obtain ⟨b, -, hb⟩ := List.mem_flatMap.1 h
  rw [encodeByte] at hb
  split at hb
  · next hplain =>
    rw [List.mem_singleton.1 hb]
    exact Form.isWritten_of_isPlain hplain
  · simp only [List.mem_cons, List.not_mem_nil, or_false] at hb
    rcases hb with rfl | rfl | rfl
    · exact .inr (by decide)
    · exact .inl (Hex.isAlphanum_of_value? (Hex.value?_upper _))
    · exact .inl (Hex.isAlphanum_of_value? (Hex.value?_upper _))

/-- An address says what was written into it. -/
theorem decode_encode (s : String) : decode (bytes (encode s)) = Utf8.encode s := by
  have hplus : (0x2B : UInt8) ∉ bytes (encode s) := fun hmem =>
    absurd (isWritten_of_mem_encode (mem_of_mem_bytes (c := '+') (by decide) hmem)) (by decide)
  have hspaced : Form.spaced (bytes (encode s)) = bytes (encode s) := by
    refine (List.map_congr_left fun b hb => if_neg fun he => ?_).trans (List.map_id _)
    exact hplus (he ▸ hb)
  rw [← hspaced, (spells_encode s).decode]

end Percent

namespace Form

/-! ### Reading fields -/

/-- The ways to write a name and a value. -/
inductive SpellsField : String × String → List Char → Prop
  | intro {name value : String} {n v : List Char} (hn : SpellsBytes (encode name) n)
      (hv : SpellsBytes (encode value) v) : SpellsField (name, value) (n ++ '=' :: v)

/-- The ways to write a form. -/
inductive Spells : List (String × String) → List Char → Prop
  | nil : Spells [] []
  | one {field : String × String} {cs : List Char} (h : SpellsField field cs) : Spells [field] cs
  | cons {field next : String × String} {fields : List (String × String)} {cs ds : List Char}
      (h : SpellsField field cs) (hs : Spells (next :: fields) ds) :
      Spells (field :: next :: fields) (cs ++ '&' :: ds)

theorem SpellsField.isWritten {field : String × String} {cs : List Char}
    (h : SpellsField field cs) : ∀ c ∈ cs, c = '=' ∨ IsWritten c := by
  obtain ⟨hn, hv⟩ := h
  intro c hc
  rw [List.mem_append, List.mem_cons] at hc
  rcases hc with hc | rfl | hc
  · exact .inr (hn.isWritten c hc)
  · exact .inl rfl
  · exact .inr (hv.isWritten c hc)

/-- The first equality sign is the one between the name and the value. -/
theorem pair_of_spells {field : String × String} {cs : List Char} (h : SpellsField field cs) :
    pair (bytes cs) = field := by
  cases h with
  | @intro name value n v hn hv =>
    have hnone : (0x3D : UInt8) ∉ bytes n := fun hmem =>
      (hn.isWritten '=' (mem_of_mem_bytes (by decide) hmem)).bounds.1 (by decide)
    have hbytes : bytes (n ++ '=' :: v) = bytes n ++ 0x3D :: bytes v :=
      bytes_append_cons_ascii (by decide) n v
    rw [pair, hbytes, Text.before_append hnone, Text.after_append hnone, component_of_spells hn,
      component_of_spells hv]

/-- A field without the ampersands around it is a piece that is not empty. -/
theorem SpellsField.bounds {field : String × String} {cs : List Char} (h : SpellsField field cs) :
    0x26 ∉ bytes cs ∧ (bytes cs).isEmpty = false := by
  refine ⟨fun hmem => ?_, ?_⟩
  · rcases h.isWritten '&' (mem_of_mem_bytes (by decide) hmem) with he | hwritten
    · exact absurd he (by decide)
    · exact hwritten.bounds.1 (by decide)
  · obtain ⟨hn, hv⟩ := h
    rw [bytes_append_cons_ascii (by decide), List.isEmpty_eq_false_iff]
    exact List.append_ne_nil_of_right_ne_nil _ (List.cons_ne_nil _ _)

/-- The names and values of a form are read back in their order. -/
theorem parse_of_spells {fields : List (String × String)} {cs : List Char} (h : Spells fields cs) :
    parse (bytes cs) = fields := by
  induction h with
  | nil => rfl
  | one h =>
    rw [parse, Text.pieces_of_notMem h.bounds.1, List.filter_cons_of_pos (by simp [h.bounds.2]),
      List.filter_nil, List.map_singleton, pair_of_spells h]
  | @cons field next fields cs ds h _ ih =>
    have hbytes : bytes (cs ++ '&' :: ds) = bytes cs ++ 0x26 :: bytes ds :=
      bytes_append_cons_ascii (by decide) cs ds
    rw [parse, hbytes, Text.pieces_append h.bounds.1,
      List.filter_cons_of_pos (by simp [h.bounds.2]), List.map_cons, pair_of_spells h, ← parse, ih]

/-- A form has no blanks and is not taken for an object. -/
theorem Spells.bounds {fields : List (String × String)} {cs : List Char} (h : Spells fields cs) :
    ∀ c ∈ cs, Text.isBlank c = false ∧ c ≠ '\x7b' := by
  have hfield {field : String × String} {cs : List Char} (h : SpellsField field cs) :
      ∀ c ∈ cs, Text.isBlank c = false ∧ c ≠ '\x7b' := by
    intro c hc
    rcases h.isWritten c hc with rfl | hwritten
    · decide
    · exact ⟨hwritten.bounds.2, fun he => hwritten.bounds.1 (by rw [he]; decide)⟩
  induction h with
  | nil => exact fun c hc => absurd hc List.not_mem_nil
  | one h => exact hfield h
  | cons h _ ih =>
    intro c hc
    rw [List.mem_append, List.mem_cons] at hc
    rcases hc with hc | rfl | hc
    · exact hfield h c hc
    · decide
    · exact ih c hc

/-- All lists of names and values can be written. -/
theorem exists_spells : ∀ fields : List (String × String), ∃ cs, Spells fields cs
  | [] => ⟨[], .nil⟩
  | [_] => ⟨_, .one (.intro (Percent.spells_encode _) (Percent.spells_encode _))⟩
  | _ :: next :: fields =>
    let ⟨_, h⟩ := exists_spells (next :: fields)
    ⟨_, .cons (.intro (Percent.spells_encode _) (Percent.spells_encode _)) h⟩

end Form

end Daybook
