import Daybook.Text.Decimal
import Mathlib.Algebra.Group.Nat.Defs
import Mathlib.Tactic.SplitIfs

/-!
# Reading what was written in decimal

A numeral is read back as the number it was written for, whatever its padding.  A sign in front
cannot be read as a digit.

## Main results

* `Decimal.readFrom?_of_isDigit` : the number that digits denote.
* `Decimal.read?_padded`, `Decimal.read?_signed` : what is read from a numeral.
* `Decimal.length_padded` : the places of a numeral that fits its width.
* `Decimal.padded_of_read?` : what is read is the numeral of its number.
* `Decimal.padded_lt_padded_iff` : numerals of the same width are ordered as their numbers are.
-/

namespace Daybook.Decimal

theorem digit?_of_isDigit {c : Char} (h : c.isDigit = true) :
    digit? c = some (c.toNat - '0'.toNat) := by
  simp only [Char.isDigit, Bool.and_eq_true, decide_eq_true_eq, ge_iff_le] at h
  exact if_pos h

/-- The number that digits denote after a number already read. -/
theorem readFrom?_of_isDigit {cs : List Char} (h : ∀ c ∈ cs, c.isDigit = true) (acc : Nat) :
    readFrom? acc cs = some (Nat.ofDigitChars 10 cs acc) := by
  induction cs generalizing acc with
  | nil => simp [readFrom?]
  | cons c cs ih =>
    rw [List.forall_mem_cons] at h
    rw [readFrom?, digit?_of_isDigit h.1, Option.bind_some, ih h.2, Nat.ofDigitChars_cons]

theorem read?_of_ne_nil {cs : List Char} (h : cs ≠ []) : read? cs = readFrom? 0 cs := by
  cases cs with
  | nil => exact absurd rfl h
  | cons c cs => rfl

/-- Only digits are read. -/
theorem read?_cons_of_digit?_eq_none {c : Char} (h : digit? c = none) (cs : List Char) :
    read? (c :: cs) = none := by
  rw [read?_of_ne_nil (List.cons_ne_nil c cs), readFrom?, h, Option.bind_none]

theorem isDigit_of_mem_padded {width n : Nat} : ∀ c ∈ padded width n, c.isDigit = true := by
  intro c hc
  rcases List.mem_append.1 hc with h | h
  · rw [List.eq_of_mem_replicate h]
    rfl
  · exact Nat.isDigit_of_mem_toDigits (by decide) (by decide) h

theorem padded_ne_nil (width n : Nat) : padded width n ≠ [] :=
  List.append_ne_nil_of_right_ne_nil _ Nat.toDigits_ne_nil

/-- Padding does not change what is read. -/
@[simp]
theorem read?_padded (width n : Nat) : read? (padded width n) = some n := by
  rw [read?_of_ne_nil (padded_ne_nil width n), readFrom?_of_isDigit isDigit_of_mem_padded, padded,
    digits, Nat.ofDigitChars_append, Nat.ofDigitChars_replicate_zero, Nat.mul_zero,
    Nat.ofDigitChars_ten_toDigits]

/-- A numeral without padding. -/
theorem integer_eq (n : Int) :
    integer n =
      if n < 0 then '-' :: digits n.natAbs else digits n.natAbs := by
  simp only [integer, signed, padded, Nat.zero_sub, List.replicate_zero,
    List.nil_append]

theorem integer_ne_nil (n : Int) : integer n ≠ [] := by
  rw [integer_eq]
  split_ifs
  · exact List.cons_ne_nil _ _
  · exact Nat.toDigits_ne_nil

/-- A positive number begins with a digit other than zero. -/
theorem digits_eq_cons {n : Nat} (h : 0 < n) : ∃ c cs, digits n = c :: cs ∧ c ≠ '0' := by
  induction n using Nat.strongRecOn with
  | ind n ih =>
    rw [digits, Nat.toDigits_eq_if (by decide)]
    split_ifs with hlt
    · refine ⟨n.digitChar, [], rfl, ?_⟩
      have hne : ∀ k < 10, 0 < k → Nat.digitChar k ≠ '0' := by decide
      exact hne n hlt h
    · obtain ⟨c, cs, hcs, hc⟩ := ih (n / 10) (by omega) (by omega)
      rw [digits] at hcs
      exact ⟨c, cs ++ [(n % 10).digitChar], by rw [hcs]; rfl, hc⟩

/-- A number that fits the width takes exactly so many places. -/
theorem length_padded {width n : Nat} (hpos : 0 < width) (h : n < 10 ^ width) :
    (padded width n).length = width := by
  have hdigits : (digits n).length ≤ width := (Nat.length_toDigits_le_iff (by decide) hpos).2 h
  rw [padded, List.length_append, List.length_replicate]
  omega

/-- A numeral without a sign is read as its number, and one with a sign is not read. -/
theorem read?_signed (width : Nat) (n : Int) :
    read? (signed width n) = if n < 0 then none else some n.natAbs := by
  unfold signed
  split
  · exact read?_cons_of_digit?_eq_none (by decide) _
  · exact read?_padded width n.natAbs

/-! ### Numerals of the same width -/

theorem toNat_of_isDigit {c : Char} (h : c.isDigit = true) : 48 ≤ c.toNat ∧ c.toNat ≤ 57 := by
  simp only [Char.isDigit, Bool.and_eq_true, decide_eq_true_eq, ge_iff_le] at h
  exact h

/-- Digits alone are read. -/
theorem isDigit_of_readFrom? {cs : List Char} {acc n : Nat} (h : readFrom? acc cs = some n) :
    ∀ c ∈ cs, c.isDigit = true := by
  induction cs generalizing acc with
  | nil => exact fun c hc => absurd hc List.not_mem_nil
  | cons c cs ih =>
    obtain ⟨d, hd, hrest⟩ := Option.bind_eq_some_iff.1 h
    have hc : c.isDigit = true := by
      rw [digit?] at hd
      split_ifs at hd with hdigit
      simp only [Char.isDigit, Bool.and_eq_true, decide_eq_true_eq, ge_iff_le]
      exact hdigit
    exact List.forall_mem_cons.2 ⟨hc, ih hrest⟩

/-- What is read is the number of some digits. -/
theorem read?_eq_some_iff {cs : List Char} {n : Nat} :
    read? cs = some n ↔
      cs ≠ [] ∧ (∀ c ∈ cs, c.isDigit = true) ∧ Nat.ofDigitChars 10 cs 0 = n := by
  constructor
  · intro h
    have hne : cs ≠ [] := by
      rintro rfl
      cases h
    rw [read?_of_ne_nil hne] at h
    have hdigits := isDigit_of_readFrom? h
    rw [readFrom?_of_isDigit hdigits] at h
    exact ⟨hne, hdigits, Option.some.inj h⟩
  · rintro ⟨hne, hdigits, rfl⟩
    rw [read?_of_ne_nil hne, readFrom?_of_isDigit hdigits]

/-- So many digits denote a number that has no more places. -/
theorem ofDigitChars_lt {cs : List Char} (h : ∀ c ∈ cs, c.isDigit = true) :
    Nat.ofDigitChars 10 cs 0 < 10 ^ cs.length := by
  induction cs with
  | nil => simp
  | cons c cs ih =>
    rw [List.forall_mem_cons] at h
    have hdigit : c.toNat - '0'.toNat ≤ 9 := Nat.sub_le_of_le_add (toNat_of_isDigit h.1).2
    have hrest := ih h.2
    have hfirst := Nat.mul_le_mul_left (10 ^ cs.length) hdigit
    rw [Nat.ofDigitChars_cons, Nat.ofDigitChars_eq_ofDigitChars_zero, List.length_cons,
      Nat.pow_succ, Nat.mul_zero, Nat.zero_add]
    omega

/-- Numbers are ordered by their quotients, and then by their remainders. -/
theorem mul_add_lt_mul_add_iff {p m n r r' : Nat} (hr : r < p) (hr' : r' < p) :
    p * m + r < p * n + r' ↔ m < n ∨ m = n ∧ r < r' := by
  rcases Nat.lt_trichotomy m n with hlt | rfl | hgt
  · have hle := Nat.mul_le_mul_left p (Nat.succ_le_of_lt hlt)
    rw [Nat.mul_succ] at hle
    omega
  · omega
  · have hle := Nat.mul_le_mul_left p (Nat.succ_le_of_lt hgt)
    rw [Nat.mul_succ] at hle
    omega

/-- In the same number of places, the digits of a smaller number come first. -/
theorem ofDigitChars_lt_ofDigitChars_iff {cs ds : List Char} (hcs : ∀ c ∈ cs, c.isDigit = true)
    (hds : ∀ d ∈ ds, d.isDigit = true) (hlength : cs.length = ds.length) :
    Nat.ofDigitChars 10 cs 0 < Nat.ofDigitChars 10 ds 0 ↔ cs < ds := by
  induction cs generalizing ds with
  | nil =>
    obtain rfl := List.length_eq_zero_iff.1 hlength.symm
    simp
  | cons c cs ih =>
    cases ds with
    | nil => cases hlength
    | cons d ds =>
      rw [List.forall_mem_cons] at hcs hds
      have hsame : cs.length = ds.length := Nat.succ.inj hlength
      have hclt := ofDigitChars_lt hcs.2
      rw [hsame] at hclt
      obtain ⟨hclow, -⟩ := toNat_of_isDigit hcs.1
      obtain ⟨hdlow, -⟩ := toNat_of_isDigit hds.1
      have hlt : c < d ↔ c.toNat - '0'.toNat < d.toNat - '0'.toNat := by
        rw [Char.lt_def, UInt32.lt_iff_toNat_lt]
        change c.toNat < d.toNat ↔ c.toNat - 48 < d.toNat - 48
        omega
      have heq : c = d ↔ c.toNat - '0'.toNat = d.toNat - '0'.toNat := by
        rw [← Char.toNat_inj]
        change c.toNat = d.toNat ↔ c.toNat - 48 = d.toNat - 48
        omega
      rw [Nat.ofDigitChars_cons, Nat.ofDigitChars_cons, Nat.ofDigitChars_eq_ofDigitChars_zero,
        Nat.ofDigitChars_eq_ofDigitChars_zero (l := ds), hsame, Nat.mul_zero, Nat.zero_add,
        Nat.zero_add, mul_add_lt_mul_add_iff hclt (ofDigitChars_lt hds.2), List.cons_lt_cons_iff,
        ih hcs.2 hds.2 hsame, hlt, heq]

/-- In the same number of places, the digits of a number are determined. -/
theorem eq_of_ofDigitChars_eq {cs ds : List Char} (hcs : ∀ c ∈ cs, c.isDigit = true)
    (hds : ∀ d ∈ ds, d.isDigit = true) (hlength : cs.length = ds.length)
    (h : Nat.ofDigitChars 10 cs 0 = Nat.ofDigitChars 10 ds 0) : cs = ds := by
  have hnot : ¬cs < ds := by
    rw [← ofDigitChars_lt_ofDigitChars_iff hcs hds hlength, h]
    exact Nat.lt_irrefl _
  have hnot' : ¬ds < cs := by
    rw [← ofDigitChars_lt_ofDigitChars_iff hds hcs hlength.symm, h]
    exact Nat.lt_irrefl _
  exact List.le_antisymm (List.not_lt.1 hnot') (List.not_lt.1 hnot)

theorem ofDigitChars_padded (width n : Nat) : Nat.ofDigitChars 10 (padded width n) 0 = n :=
  (read?_eq_some_iff.1 (read?_padded width n)).2.2

/-- What is read is the numeral of its number, padded to its own width. -/
theorem padded_of_read? {cs : List Char} {n : Nat} (h : read? cs = some n) :
    padded cs.length n = cs := by
  obtain ⟨hne, hdigits, rfl⟩ := read?_eq_some_iff.1 h
  exact eq_of_ofDigitChars_eq isDigit_of_mem_padded hdigits
    (length_padded (List.length_pos_iff.2 hne) (ofDigitChars_lt hdigits))
    (ofDigitChars_padded _ _)

/-- What is read has no more places than it was read from. -/
theorem lt_of_read? {cs : List Char} {n : Nat} (h : read? cs = some n) : n < 10 ^ cs.length := by
  obtain ⟨-, hdigits, rfl⟩ := read?_eq_some_iff.1 h
  exact ofDigitChars_lt hdigits

/-- Numbers that fit a width are ordered as their numerals are. -/
theorem padded_lt_padded_iff {width m n : Nat} (hpos : 0 < width) (hm : m < 10 ^ width)
    (hn : n < 10 ^ width) : padded width m < padded width n ↔ m < n := by
  rw [← ofDigitChars_lt_ofDigitChars_iff isDigit_of_mem_padded isDigit_of_mem_padded
    ((length_padded hpos hm).trans (length_padded hpos hn).symm), ofDigitChars_padded,
    ofDigitChars_padded]

/-- A number is determined by its numeral. -/
theorem padded_inj {width m n : Nat} : padded width m = padded width n ↔ m = n := by
  refine ⟨fun h => ?_, fun h => h ▸ rfl⟩
  rw [← ofDigitChars_padded width m, h, ofDigitChars_padded]

end Daybook.Decimal
