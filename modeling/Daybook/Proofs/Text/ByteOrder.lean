import Daybook.Proofs.Text.Utf8

/-!
# The order of texts

Texts are ordered by their characters, and just as well by their bytes: of two characters, the one
with the smaller number has the bytes that come first, whatever follows.

## Main results

* `Text.append_lt_append_iff` : texts are compared piece by piece.
* `Utf8.utf8EncodeChar_append_lt` : the bytes of a smaller character come first.
* `Utf8.encode_lt_iff`, `Utf8.encode_le_iff` : texts are ordered as their bytes are.
-/

namespace Daybook

/-- Texts with fronts of the same length are ordered by their fronts, and then by what follows. -/
theorem Text.append_lt_append_iff {cs ds rest rest' : List Char} (h : cs.length = ds.length) :
    cs ++ rest < ds ++ rest' ↔ cs < ds ∨ cs = ds ∧ rest < rest' := by
  induction cs generalizing ds with
  | nil =>
    obtain rfl := List.length_eq_zero_iff.1 h.symm
    simp
  | cons c cs ih =>
    cases ds with
    | nil => cases h
    | cons d ds =>
      simp only [List.cons_append, List.cons_lt_cons_iff, ih (Nat.succ.inj h), List.cons.injEq,
        and_or_left, or_assoc, and_assoc]

namespace Utf8

/-- Numbers are ordered by their digits to the base 64. -/
theorem digits_lt {m n : Nat} (h : m < n) :
    m / 64 < n / 64 ∨ m / 64 = n / 64 ∧ m % 64 < n % 64 := by
  omega

/-- The bytes of a smaller character come first, whatever follows. -/
theorem utf8EncodeChar_append_lt {c d : Char} (h : c < d) (bs bs' : Bytes) :
    String.utf8EncodeChar c ++ bs < String.utf8EncodeChar d ++ bs' := by
  have hlt : c.val.toNat < d.val.toNat := UInt32.lt_iff_toNat_lt.1 h
  have hmax : d.val.toNat < 0x110000 := by
    rcases d.valid with hd | ⟨-, hd⟩ <;> omega
  simp only [String.utf8EncodeChar]
  generalize c.val.toNat = m at hlt ⊢
  generalize d.val.toNat = n at hlt hmax ⊢
  have hthousands (k : Nat) : k / 4096 = k / 64 / 64 := by omega
  have hmost (k : Nat) : k / 262144 = k / 64 / 64 / 64 := by omega
  have hlast := digits_lt hlt
  have hthird : m / 64 < n / 64 → _ := digits_lt
  have hsecond : m / 64 / 64 < n / 64 / 64 → _ := digits_lt
  -- characters of different lengths differ in the first byte, others digit by digit
  split_ifs <;>
    simp only [List.cons_append, List.nil_append, List.cons_lt_cons_iff, UInt8.lt_iff_toNat_lt,
      ← UInt8.toNat_inj, UInt8.toNat_ofNat', hthousands, hmost] <;>
    simp (disch := omega) only [Nat.mod_eq_of_lt] <;>
    omega

theorem append_lt_append_left {bs bs' : Bytes} (h : bs < bs') (front : Bytes) :
    front ++ bs < front ++ bs' := by
  induction front with
  | nil => exact h
  | cons b front ih => exact List.cons_lt_cons_iff.2 (.inr ⟨rfl, ih⟩)

/-- Encoding keeps the order of characters. -/
theorem bytes_lt_bytes {cs ds : List Char} (h : cs < ds) : bytes cs < bytes ds := by
  induction cs generalizing ds with
  | nil =>
    cases ds with
    | nil => exact absurd h (List.lt_irrefl [])
    | cons d ds =>
      have hne : String.utf8EncodeChar d ≠ [] := by
        simp only [String.utf8EncodeChar]
        split_ifs <;> exact List.cons_ne_nil _ _
      obtain ⟨b, bs, hb⟩ := List.exists_cons_of_ne_nil hne
      rw [bytes_cons, hb]
      exact List.nil_lt_cons b _
  | cons c cs ih =>
    cases ds with
    | nil => exact absurd h (List.not_lt_nil _)
    | cons d ds =>
      rw [bytes_cons, bytes_cons]
      rcases List.cons_lt_cons_iff.1 h with hlt | ⟨rfl, hrest⟩
      · exact utf8EncodeChar_append_lt hlt _ _
      · exact append_lt_append_left (ih hrest) _

/-- Texts are ordered as their bytes are. -/
theorem encode_lt_iff {s t : String} : encode s < encode t ↔ s < t := by
  rw [← bytes_toList, ← bytes_toList, String.lt_iff]
  refine ⟨fun h => ?_, bytes_lt_bytes⟩
  refine Classical.byContradiction fun hnot => ?_
  rcases List.le_iff_lt_or_eq.1 (List.not_lt.1 hnot) with hlt | heq
  · exact List.lt_asymm h (bytes_lt_bytes hlt)
  · rw [heq] at h
    exact List.lt_irrefl _ h

theorem encode_le_iff {s t : String} : encode s ≤ encode t ↔ s ≤ t := by
  rw [← List.not_lt, ← String.not_lt, encode_lt_iff]

end Utf8

end Daybook
