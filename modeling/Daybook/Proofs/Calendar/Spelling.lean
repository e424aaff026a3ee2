import Daybook.Calendar.Error
import Daybook.Proofs.Calendar.InstantText
import Mathlib.Data.List.TakeWhile

/-!
# The spelling of a day

A day is spelled in one way: four, two and two ASCII digits joined by hyphens.  That is all that is
left of two looser readings.  The pattern of a date knows the digits of every script, and whoever
reads it number by number may leave out digits and put signs and blanks before them; only the texts
that are spelled in the one way pass both.

## Main definitions

* `Text.DigitClass`, `Text.decimals` : the digits that a pattern knows, and those of every script.
* `Date.isPatterned` : the pattern of a date, over a class of digits.
* `Date.lenient?` : the day that a text names when it is read number by number.
* `Date.Spells` : the one way in which a day is spelled.

## Main results

* `Date.parse?_eq_lenient?` : what the pattern lets pass is read strictly.
* `Date.parse?_eq_some_iff_spells` : what is read is what is spelled.
* `Date.read_iff_spelled` : the spelling of days, and the mistake in every other text.
-/

namespace Daybook

/-! ### Digits of every script -/

namespace Text

/-- The characters that a pattern takes for digits: among them the ASCII digits, but no blank and no
sign. -/
structure DigitClass where
  contains : Char → Bool
  ascii : ∀ c, c.isDigit = true → contains c = true
  notBlank : ∀ c, contains c = true → isBlank c = false
  notSign : contains '-' = false ∧ contains '+' = false

/-- The zeros of all scripts, as of version 17 of the standard; the other digits of a script follow
its zero in order. -/
def zeros : List Nat :=
  [0x30, 0x660, 0x6F0, 0x7C0, 0x966, 0x9E6, 0xA66, 0xAE6, 0xB66, 0xBE6, 0xC66, 0xCE6, 0xD66, 0xDE6,
   0xE50, 0xED0, 0xF20, 0x1040, 0x1090, 0x17E0, 0x1810, 0x1946, 0x19D0, 0x1A80, 0x1A90, 0x1B50,
   0x1BB0, 0x1C40, 0x1C50, 0xA620, 0xA8D0, 0xA900, 0xA9D0, 0xA9F0, 0xAA50, 0xABF0, 0xFF10, 0x104A0,
   0x10D30, 0x10D40, 0x11066, 0x110F0, 0x11136, 0x111D0, 0x112F0, 0x11450, 0x114D0, 0x11650,
   0x116C0, 0x116D0, 0x116DA, 0x11730, 0x118E0, 0x11950, 0x11BF0, 0x11C50, 0x11D50, 0x11DA0,
   0x11DE0, 0x11F50, 0x16130, 0x16A60, 0x16AC0, 0x16B50, 0x16D70, 0x1CCF0, 0x1D7CE, 0x1D7D8,
   0x1D7E2, 0x1D7EC, 0x1D7F6, 0x1E140, 0x1E2F0, 0x1E4F0, 0x1E5F1, 0x1E950, 0x1FBF0]

/-- Whether a character is a digit of some script. -/
def isDecimal (c : Char) : Bool :=
  zeros.any fun n => n ≤ c.toNat && c.toNat < n + 10

theorem isDecimal_iff {c : Char} :
    isDecimal c = true ↔ ∃ n ∈ zeros, n ≤ c.toNat ∧ c.toNat < n + 10 := by
  simp only [isDecimal, List.any_eq_true, Bool.and_eq_true, decide_eq_true_eq]

/-- No digit of any script is a blank. -/
theorem isBlank_of_isDecimal {c : Char} (h : isDecimal c = true) : isBlank c = false := by
  have hnone : ∀ n ∈ zeros, ∀ k < 10, isBlank (Char.ofNat (n + k)) = false := by
    decide +kernel
  obtain ⟨n, hmem, hlow, hhigh⟩ := isDecimal_iff.1 h
  have hblank := hnone n hmem (c.toNat - n) (by omega)
  rwa [Nat.add_sub_cancel' hlow, Char.ofNat_toNat] at hblank

/-- The digits of every script. -/
def decimals : DigitClass where
  contains := isDecimal
  ascii c hc := by
    obtain ⟨hlow, hhigh⟩ := Decimal.toNat_of_isDigit hc
    exact isDecimal_iff.2 ⟨0x30, by decide, hlow, by omega⟩
  notBlank _ := isBlank_of_isDecimal
  notSign := by decide

end Text

/-! ### Reading number by number -/

namespace Instant

/-- A number takes as many digits of a field as stand at its front, when the field has just as many
places as may be taken. -/
theorem number?_of_length {limit : Nat} {cs : List Char} (h : cs.length = limit)
    (rest : List Char) :
    number? limit (cs ++ rest) =
      (Decimal.read? (cs.takeWhile Char.isDigit)).map fun n =>
        (n, cs.dropWhile Char.isDigit ++ rest) := by
  have hdrop : (cs ++ rest).drop (cs.takeWhile Char.isDigit).length =
      cs.dropWhile Char.isDigit ++ rest := by
    have hsplit : cs ++ rest =
        cs.takeWhile Char.isDigit ++ (cs.dropWhile Char.isDigit ++ rest) := by
      rw [← List.append_assoc, List.takeWhile_append_dropWhile]
    rw [hsplit, List.drop_left]
  rw [number?, ← h, List.take_left, hdrop]

end Instant

namespace Date

variable {s : String} {d : Date}

/-- A number that was read, when a hyphen follows it, and what comes after the hyphen. -/
def hyphenated? {α : Type} : Option (α × List Char) → Option (α × List Char)
  | some (n, '-' :: rest) => some (n, rest)
  | _ => none

/-- A number that was read, when nothing follows it. -/
def final? {α : Type} : Option (α × List Char) → Option α
  | some (n, []) => some n
  | _ => none

/-- The day that a text names when it is read number by number: a year, a month and a day of month
with hyphens between them, each with one digit at least and blanks before it, and a year of any
length behind a sign. -/
def lenient? (s : String) : Option Date := do
  let (year, rest) ← hyphenated? (Instant.year? s.toList)
  let (month, rest) ← hyphenated? (Instant.field? rest)
  let day ← final? (Instant.field? rest)
  ofYmd? year month day

/-- The pattern of a date: four, two and two digits of a class, joined by hyphens. -/
def isPatterned (k : Text.DigitClass) (s : String) : Bool :=
  match s.toList with
  | [y₁, y₂, y₃, y₄, '-', m₁, m₂, '-', d₁, d₂] =>
    [y₁, y₂, y₃, y₄, m₁, m₂, d₁, d₂].all k.contains
  | _ => false

/-! ### Both readings -/

/-- Only digits make up a numeral. -/
theorem read?_eq_none {cs : List Char} (h : ¬∀ c ∈ cs, c.isDigit = true) :
    Decimal.read? cs = none := by
  rw [Option.eq_none_iff_forall_ne_some]
  exact fun n hn => h (Decimal.read?_eq_some_iff.1 hn).2.1

/-- A number that a hyphen has to follow is the numeral of the whole field before the hyphen. -/
theorem hyphenated?_eq {α : Type} {cs : List Char} (h : '-' ∉ cs) (g : Nat → α)
    (rest : List Char) :
    hyphenated? ((Decimal.read? (cs.takeWhile Char.isDigit)).map fun n =>
      (g n, cs.dropWhile Char.isDigit ++ '-' :: rest)) =
        (Decimal.read? cs).map fun n => (g n, rest) := by
  by_cases hdigits : ∀ c ∈ cs, c.isDigit = true
  · rw [List.takeWhile_eq_self_iff.2 hdigits, List.dropWhile_eq_nil_iff.2 hdigits]
    cases Decimal.read? cs <;> rfl
  · -- the hyphen is looked for where the digits of the field end
    rw [read?_eq_none hdigits]
    cases Decimal.read? (cs.takeWhile Char.isDigit) with
    | none => rfl
    | some n =>
      cases hdrop : cs.dropWhile Char.isDigit with
      | nil => exact absurd (List.dropWhile_eq_nil_iff.1 hdrop) hdigits
      | cons c tail =>
        have hc : c ≠ '-' := by
          rintro rfl
          exact h ((List.dropWhile_sublist _).mem (hdrop ▸ List.mem_cons_self))
        simp [hyphenated?, hc]

/-- A number that nothing may follow is the numeral of the whole field. -/
theorem final?_eq {α : Type} (cs : List Char) (g : Nat → α) :
    final? ((Decimal.read? (cs.takeWhile Char.isDigit)).map fun n =>
      (g n, cs.dropWhile Char.isDigit)) = (Decimal.read? cs).map g := by
  by_cases hdigits : ∀ c ∈ cs, c.isDigit = true
  · rw [List.takeWhile_eq_self_iff.2 hdigits, List.dropWhile_eq_nil_iff.2 hdigits]
    cases Decimal.read? cs <;> rfl
  · rw [read?_eq_none hdigits]
    cases Decimal.read? (cs.takeWhile Char.isDigit) with
    | none => rfl
    | some n =>
      cases hdrop : cs.dropWhile Char.isDigit with
      | nil => exact absurd (List.dropWhile_eq_nil_iff.1 hdrop) hdigits
      | cons c tail => rfl

/-- A field of two places is taken for its digits. -/
theorem field?_of_length {cs : List Char} (h : cs.length = 2)
    (hblank : ∀ c ∈ cs, Text.isBlank c = false) (rest : List Char) :
    Instant.field? (cs ++ rest) =
      (Decimal.read? (cs.takeWhile Char.isDigit)).map fun n =>
        (n, cs.dropWhile Char.isDigit ++ rest) := by
  have htrim : Text.trimStart (cs ++ rest) = cs ++ rest := by
    cases cs with
    | nil => cases h
    | cons c cs => exact Text.trimStart_cons (hblank c List.mem_cons_self) _
  rw [Instant.field?, htrim, Instant.number?_of_length h]

/-- So is a year of four places without a sign. -/
theorem year?_of_length {cs : List Char} (h : cs.length = 4)
    (hblank : ∀ c ∈ cs, Text.isBlank c = false) (hminus : '-' ∉ cs) (hplus : '+' ∉ cs)
    (rest : List Char) :
    Instant.year? (cs ++ rest) =
      (Decimal.read? (cs.takeWhile Char.isDigit)).map fun n : Nat =>
        ((n : Int), cs.dropWhile Char.isDigit ++ rest) := by
  have hnumber := Instant.number?_of_length h rest
  cases cs with
  | nil => cases h
  | cons c cs =>
    rw [List.mem_cons, not_or] at hminus hplus
    rw [Instant.year?, List.cons_append, Text.trimStart_cons (hblank c List.mem_cons_self)]
    rw [List.cons_append] at hnumber
    split
    · next he => exact absurd (List.cons.inj he).1.symm hminus.1
    · next he => exact absurd (List.cons.inj he).1.symm hplus.1
    · rw [hnumber, Option.map_map]
      rfl

/-- Number by number, a text of the pattern is read as its fields are. -/
theorem lenient?_of_fields {k : Text.DigitClass} {y m n : List Char} (hy : y.length = 4)
    (hm : m.length = 2) (hn : n.length = 2) (hyear : ∀ c ∈ y, k.contains c = true)
    (hmonth : ∀ c ∈ m, k.contains c = true) (hday : ∀ c ∈ n, k.contains c = true)
    (hs : s.toList = y ++ '-' :: (m ++ '-' :: n)) :
    lenient? s =
      (Decimal.read? y).bind fun year => (Decimal.read? m).bind fun month =>
        (Decimal.read? n).bind fun day => ofYmd? year month day := by
  have hblank {cs : List Char} (hcs : ∀ c ∈ cs, k.contains c = true) :
      ∀ c ∈ cs, Text.isBlank c = false := fun c hc => k.notBlank c (hcs c hc)
  have hnot {cs : List Char} {c : Char} (hcs : ∀ c ∈ cs, k.contains c = true)
      (hc : k.contains c = false) : c ∉ cs := fun hmem =>
    Bool.false_ne_true (hc.symm.trans (hcs c hmem))
  have hlast : final? (Instant.field? n) = Decimal.read? n := by
    have hfield := field?_of_length hn (hblank hday) []
    rw [List.append_nil, List.append_nil] at hfield
    rw [hfield, final?_eq, Option.map_id']
  simp only [lenient?, hs, year?_of_length hy (hblank hyear) (hnot hyear k.notSign.1)
    (hnot hyear k.notSign.2), hyphenated?_eq (hnot hyear k.notSign.1), Option.bind_eq_bind,
    Option.bind_map, Function.comp_def, field?_of_length hm (hblank hmonth),
    hyphenated?_eq (hnot hmonth k.notSign.1), hlast]

/-- What the pattern lets pass is read strictly when it is read number by number; what is read
strictly passes. -/
theorem parse?_eq_lenient? (k : Text.DigitClass) (s : String) :
    parse? s = if isPatterned k s then lenient? s else none := by
  split_ifs with hpattern
  · unfold isPatterned at hpattern
    split at hpattern
    · next y₁ y₂ y₃ y₄ m₁ m₂ d₁ d₂ hs =>
      simp only [List.all_cons, List.all_nil, Bool.and_true, Bool.and_eq_true] at hpattern
      obtain ⟨hy₁, hy₂, hy₃, hy₄, hm₁, hm₂, hd₁, hd₂⟩ := hpattern
      rw [lenient?_of_fields (k := k) (y := [y₁, y₂, y₃, y₄]) (m := [m₁, m₂]) (n := [d₁, d₂])
        rfl rfl rfl (by simp [hy₁, hy₂, hy₃, hy₄]) (by simp [hm₁, hm₂]) (by simp [hd₁, hd₂]) hs]
      simp only [parse?, hs, Option.bind_eq_bind]
    · cases hpattern
  · -- what is read has ASCII digits in its fields, which are of every class
    rw [Option.eq_none_iff_forall_ne_some]
    intro d hd
    obtain ⟨y₁, y₂, y₃, y₄, m₁, m₂, d₁, d₂, hs, year, month, day, hyear, hmonth, hday, -⟩ :=
      parse?_eq_some_iff.1 hd
    have hclass {cs : List Char} {n : Nat} (h : Decimal.read? cs = some n) :
        ∀ c ∈ cs, k.contains c = true := fun c hc =>
      k.ascii c ((Decimal.read?_eq_some_iff.1 h).2.1 c hc)
    refine hpattern ?_
    simp only [isPatterned, hs, List.all_eq_true]
    intro c hc
    change c ∈ [y₁, y₂, y₃, y₄] ++ ([m₁, m₂] ++ [d₁, d₂]) at hc
    rw [List.mem_append, List.mem_append] at hc
    rcases hc with hc | hc | hc
    · exact hclass hyear c hc
    · exact hclass hmonth c hc
    · exact hclass hday c hc

/-! ### The spelling -/

/-- A text *spells* a day when it is four, two and two ASCII digits with hyphens between them, whose
numbers are the year, the month and the day of month of a day of the calendar. -/
def Spells (s : String) (d : Date) : Prop :=
  ∃ y m n : List Char, s.toList = y ++ '-' :: (m ++ '-' :: n) ∧
    (y.length = 4 ∧ m.length = 2 ∧ n.length = 2) ∧
      (∀ c ∈ y ++ m ++ n, c.isDigit = true) ∧
        d = ⟨Nat.ofDigitChars 10 y 0, Nat.ofDigitChars 10 m 0, Nat.ofDigitChars 10 n 0⟩ ∧ d.Valid

/-- What is read strictly is what is spelled. -/
theorem parse?_eq_some_iff_spells : parse? s = some d ↔ Spells s d := by
  rw [parse?_eq_some_iff]
  constructor
  · rintro ⟨y₁, y₂, y₃, y₄, m₁, m₂, d₁, d₂, hs, year, month, day, hyear, hmonth, hday, hd⟩
    obtain ⟨-, hydigits, rfl⟩ := Decimal.read?_eq_some_iff.1 hyear
    obtain ⟨-, hmdigits, rfl⟩ := Decimal.read?_eq_some_iff.1 hmonth
    obtain ⟨-, hddigits, rfl⟩ := Decimal.read?_eq_some_iff.1 hday
    obtain ⟨rfl, hvalid, -⟩ := ofYmd?_eq_some_iff.1 hd
    refine ⟨[y₁, y₂, y₃, y₄], [m₁, m₂], [d₁, d₂], hs, ⟨rfl, rfl, rfl⟩, ?_, rfl, hvalid⟩
    simp only [List.mem_append, or_imp, forall_and]
    exact ⟨⟨hydigits, hmdigits⟩, hddigits⟩
  · rintro ⟨y, m, n, hs, ⟨hy, hm, hn⟩, hdigits, rfl, hvalid⟩
    simp only [List.mem_append, or_imp, forall_and] at hdigits
    obtain ⟨⟨hydigits, hmdigits⟩, hndigits⟩ := hdigits
    have hread {cs : List Char} {k : Nat} (h : cs.length = k + 1)
        (hcs : ∀ c ∈ cs, c.isDigit = true) :
        Decimal.read? cs = some (Nat.ofDigitChars 10 cs 0) :=
      Decimal.read?_eq_some_iff.2 ⟨List.ne_nil_of_length_eq_add_one h, hcs, rfl⟩
    have hyear := Decimal.lt_of_read? (hread hy hydigits)
    obtain ⟨y₁, y₂, y₃, y₄, rfl⟩ := List.length_eq_four.1 hy
    obtain ⟨m₁, m₂, rfl⟩ := List.length_eq_two.1 hm
    obtain ⟨d₁, d₂, rfl⟩ := List.length_eq_two.1 hn
    refine ⟨y₁, y₂, y₃, y₄, m₁, m₂, d₁, d₂, hs, _, _, _, hread hy hydigits, hread hm hmdigits,
      hread hn hndigits, ofYmd?_eq_some_iff.2 ⟨rfl, hvalid, inRange_of_le_9999 ?_ ?_⟩⟩
    · exact Int.natCast_nonneg _
    · rw [hy] at hyear
      simp only
      omega

theorem read_eq (s : String) :
    read s = (parse? s).elim (.error (.invalidDate s)) .ok := by
  rw [read]
  cases parse? s <;> rfl

theorem read_eq_ok_iff : read s = .ok d ↔ parse? s = some d := by
  rw [read_eq]
  cases parse? s <;> simp

/-- A text that spells a day is the written form of the day, which is one of the years 0 to 9999. -/
theorem Spells.text_eq (h : Spells s d) : d.text = s ∧ 0 ≤ d.year ∧ d.year ≤ 9999 := by
  obtain ⟨hs, -, hyear⟩ := parse?_eq_some_iff_eq_text.1 (parse?_eq_some_iff_spells.2 h)
  exact ⟨hs.symm, hyear⟩

/-- Reading a day is checking the pattern, with whatever digits, and then reading number by number.
A text is read as a day just when it spells the day; it is then the written form of that day, and
every other text is a mistake that names the text.  The written forms of the days of the years 0 to
9999 are all read. -/
theorem read_iff_spelled (k : Text.DigitClass) :
    (∀ s, read s =
      if isPatterned k s then (lenient? s).elim (.error (.invalidDate s)) .ok
      else .error (.invalidDate s)) ∧
    (∀ s d, read s = .ok d ↔ Spells s d) ∧
    (∀ s d, Spells s d → d.text = s ∧ 0 ≤ d.year ∧ d.year ≤ 9999) ∧
    (∀ s, (¬∃ d, Spells s d) → read s = .error (.invalidDate s)) ∧
    (∀ s, isValidText s = true ↔ ∃ d, Spells s d) ∧
    ∀ (year : Int) (month day : Nat), 0 ≤ year → year ≤ 9999 → Valid ⟨year, month, day⟩ →
      read (textOf year month day) = .ok ⟨year, month, day⟩ := by
  refine ⟨fun s => ?_, fun s d => ?_, fun s d h => h.text_eq, fun s h => ?_, fun s => ?_,
    fun year month day hlow hhigh hvalid => ?_⟩
  · rw [read_eq, parse?_eq_lenient? k]
    split_ifs <;> rfl
  · rw [read_eq_ok_iff, parse?_eq_some_iff_spells]
  · have hnone : parse? s = none := Option.eq_none_iff_forall_ne_some.2 fun d hd =>
      h ⟨d, parse?_eq_some_iff_spells.1 hd⟩
    rw [read_eq, hnone]
    rfl
  · simp only [isValidText, Option.isSome_iff_exists, parse?_eq_some_iff_spells]
  · exact read_eq_ok_iff.2 (parse?_eq_some_iff_eq_text.2 ⟨rfl, hvalid, hlow, hhigh⟩)

/-- A leap day is read from its written form, but not with a digit of another script, which the
pattern lets pass. -/
theorem leap_day_read :
    (0 ≤ (2000 : Int) ∧ (2000 : Int) ≤ 9999 ∧ Valid ⟨2000, 2, 29⟩) ∧
      textOf 2000 2 29 = "2000-02-29" ∧ read (textOf 2000 2 29) = .ok ⟨2000, 2, 29⟩ ∧
        isPatterned Text.decimals "2000-02-2９" = true ∧
          read "2000-02-2９" = .error (.invalidDate "2000-02-2９") := by
  obtain ⟨-, -, -, hmistake, hvalid, hwritten⟩ := read_iff_spelled Text.decimals
  refine ⟨by decide, by decide, hwritten 2000 2 29 (by decide) (by decide) (by decide), by decide,
    hmistake _ ?_⟩
  rw [← hvalid]
  decide

end Date

end Daybook
