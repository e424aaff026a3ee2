import Daybook.Proofs.Text.Utf8
import Daybook.Text.Hex

/-!
# Hexadecimal digits among the bytes

A hexadecimal digit is a digit or a letter, and so a byte of its own, which stands for the same
number.

## Main results

* `isAlphanum_iff` : the ASCII letters and digits, by their numbers.
* `Hex.isAlphanum_of_value?`, `Hex.value?_byte` : hexadecimal digits as characters and as bytes.
-/

namespace Daybook

theorem isAlphanum_iff {c : Char} :
    c.isAlphanum = true ↔ (48 ≤ c.toNat ∧ c.toNat ≤ 57) ∨ (65 ≤ c.toNat ∧ c.toNat ≤ 90) ∨
      (97 ≤ c.toNat ∧ c.toNat ≤ 122) := by
  have hclasses : c.isAlphanum = ((decide (65 ≤ c.val ∧ c.val ≤ 90) ||
      (97 ≤ c.val && c.val ≤ 122)) || (48 ≤ c.val && c.val ≤ 57)) :=
    rfl
  simp only [hclasses, Bool.or_eq_true, Bool.and_eq_true, decide_eq_true_eq,
    UInt32.le_iff_toNat_le]
  change ((65 ≤ c.toNat ∧ c.toNat ≤ 90) ∨ (97 ≤ c.toNat ∧ c.toNat ≤ 122)) ∨
    (48 ≤ c.toNat ∧ c.toNat ≤ 57) ↔ _
  omega

namespace Hex

variable {c : Char} {n : Fin 16}

theorem isAlphanum_of_value? (h : value? c = some n) : c.isAlphanum = true := by
  have hle {a b : Char} (hab : a ≤ b) : a.toNat ≤ b.toNat := hab
  rw [isAlphanum_iff]
  unfold value? at h
  split at h
  · next hc => exact .inl ⟨hle hc.1, hle hc.2⟩
  · split at h
    · next hc => exact .inr (.inr ⟨hle hc.1, Nat.le_trans (hle hc.2) (by decide)⟩)
    · split at h
      · next hc => exact .inr (.inl ⟨hle hc.1, Nat.le_trans (hle hc.2) (by decide)⟩)
      · cases h

theorem lt_of_value? (h : value? c = some n) : c.toNat < 0x80 := by
  have hn := isAlphanum_iff.1 (isAlphanum_of_value? h)
  omega

/-- The byte of a digit stands for the same number. -/
theorem value?_byte (h : value? c = some n) :
    value? (Char.ofNat (UInt8.ofNat c.toNat).toNat) = some n := by
  have hlt := lt_of_value? h
  have hbyte : (UInt8.ofNat c.toNat).toNat = c.toNat := by
    rw [UInt8.toNat_ofNat']
    omega
  rw [hbyte, Char.ofNat_toNat, h]

end Hex

end Daybook
