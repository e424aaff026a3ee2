import Daybook.Token.Base64

/-!
# Reading what was written in the alphabet of 64 characters

## Main results

* `Base64.decode?_encode` : bytes are read back from their characters.
* `Base64.encode_injective` : different bytes have different characters.
* `Base64.notMem_of_decode?` : what is read consists of characters that have a number.
* `Base64.inAlphabet_of_mem_encode` : only letters, digits, hyphens and underscores are written.
-/

namespace Daybook.Base64

theorem value?_digit : ∀ n < 64, value? (digit n) = some n := by
  decide

/-- Bytes are read back from their characters. -/
theorem decode?_encode (bs : Bytes) : decode? (encode bs) = some bs := by
  induction bs using encode.induct with
  | case1 => rfl
  | case2 x =>
    have hx : x.toNat < 256 := x.toNat_lt_size
    have hdigits : x.toNat / 4 * 4 + x.toNat % 4 * 16 / 16 = x.toNat := by omega
    simp only [encode, decode?, value?_digit (x.toNat / 4) (by omega),
      value?_digit (x.toNat % 4 * 16) (by omega), Option.bind_eq_bind, Option.bind_some,
      Nat.mul_mod_left, if_true, hdigits, UInt8.ofNat_toNat]
  | case3 x y =>
    have hx : x.toNat < 256 := x.toNat_lt_size
    have hy : y.toNat < 256 := y.toNat_lt_size
    have hfirst : x.toNat / 4 * 4 + (x.toNat % 4 * 16 + y.toNat / 16) / 16 = x.toNat := by omega
    have hsecond :
        (x.toNat % 4 * 16 + y.toNat / 16) % 16 * 16 + y.toNat % 16 * 4 / 4 = y.toNat := by omega
    simp only [encode, decode?, value?_digit (x.toNat / 4) (by omega),
      value?_digit (x.toNat % 4 * 16 + y.toNat / 16) (by omega),
      value?_digit (y.toNat % 16 * 4) (by omega), Option.bind_eq_bind, Option.bind_some,
      Nat.mul_mod_left, if_true, hfirst, hsecond, UInt8.ofNat_toNat]
  | case4 x y z rest ih =>
    have hx : x.toNat < 256 := x.toNat_lt_size
    have hy : y.toNat < 256 := y.toNat_lt_size
    have hz : z.toNat < 256 := z.toNat_lt_size
    have hfirst : x.toNat / 4 * 4 + (x.toNat % 4 * 16 + y.toNat / 16) / 16 = x.toNat := by omega
    have hsecond : (x.toNat % 4 * 16 + y.toNat / 16) % 16 * 16 +
        (y.toNat % 16 * 4 + z.toNat / 64) / 4 = y.toNat := by omega
    have hthird : (y.toNat % 16 * 4 + z.toNat / 64) % 4 * 64 + z.toNat % 64 = z.toNat := by omega
    simp only [encode, decode?, value?_digit (x.toNat / 4) (by omega),
      value?_digit (x.toNat % 4 * 16 + y.toNat / 16) (by omega),
      value?_digit (y.toNat % 16 * 4 + z.toNat / 64) (by omega),
      value?_digit (z.toNat % 64) (by omega), ih, Option.bind_eq_bind, Option.bind_some,
      hfirst, hsecond, hthird, UInt8.ofNat_toNat]

/-- Different bytes have different characters. -/
theorem encode_injective {bs cs : Bytes} (h : encode bs = encode cs) : bs = cs := by
  have hread := decode?_encode bs
  rw [h, decode?_encode] at hread
  exact (Option.some.inj hread).symm

/-- A character without a number is in no string that can be read. -/
theorem notMem_of_decode? {c : Char} (hc : value? c = none) {cs : List Char} {bs : Bytes}
    (h : decode? cs = some bs) : c ∉ cs := by
  have hne {d : Char} {n : Nat} (hd : value? d = some n) : c ≠ d := by
    rintro rfl
    rw [hc] at hd
    cases hd
  fun_induction decode? cs generalizing bs with
  | case1 => exact List.not_mem_nil
  | case2 => cases h
  | case3 d₁ d₂ =>
    simp only [Option.bind_eq_bind, Option.bind_eq_some_iff] at h
    obtain ⟨n₁, h₁, n₂, h₂, -⟩ := h
    simp [hne h₁, hne h₂]
  | case4 d₁ d₂ d₃ =>
    simp only [Option.bind_eq_bind, Option.bind_eq_some_iff] at h
    obtain ⟨n₁, h₁, n₂, h₂, n₃, h₃, -⟩ := h
    simp [hne h₁, hne h₂, hne h₃]
  | case5 d₁ d₂ d₃ d₄ rest ih =>
    simp only [Option.bind_eq_bind, Option.bind_eq_some_iff] at h
    obtain ⟨n₁, h₁, n₂, h₂, n₃, h₃, n₄, h₄, later, hlater, -⟩ := h
    simp [hne h₁, hne h₂, hne h₃, hne h₄, ih hlater]

/-- A letter, a digit, a hyphen or an underscore. -/
def InAlphabet (c : Char) : Prop :=
  'A' ≤ c ∧ c ≤ 'Z' ∨ 'a' ≤ c ∧ c ≤ 'z' ∨ '0' ≤ c ∧ c ≤ '9' ∨ c = '-' ∨ c = '_'

theorem inAlphabet_digit (n : Nat) : InAlphabet (digit n) := by
  by_cases h : n < 64
  · have hsmall : ∀ k < 64, InAlphabet (digit k) := by
      unfold InAlphabet
      decide
    exact hsmall n h
  · have hlast : digit n = '_' := by
      simp only [digit, if_neg (show ¬n < 26 by omega), if_neg (show ¬n < 52 by omega),
        if_neg (show ¬n < 62 by omega), if_neg (show ¬n = 62 by omega)]
    exact .inr (.inr (.inr (.inr hlast)))

/-- Only letters, digits, hyphens and underscores are written. -/
theorem inAlphabet_of_mem_encode {bs : Bytes} : ∀ c ∈ encode bs, InAlphabet c := by
  fun_induction encode bs with
  | case1 => simp
  | case2 x => simp [inAlphabet_digit]
  | case3 x y => simp [inAlphabet_digit]
  | case4 x y z rest ih => simpa [inAlphabet_digit] using ih

end Daybook.Base64
