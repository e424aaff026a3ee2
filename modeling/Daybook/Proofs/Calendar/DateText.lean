import Daybook.Proofs.Calendar.Days
import Daybook.Proofs.Text.ByteOrder
import Daybook.Proofs.Text.Decimal
import Mathlib.Data.List.Basic

/-!
# Reading the text of a day

A text is the written form of at most one day, and the text that a day is given can be read as that
day only.  It is read if the day is one of the years 0 to 9999.

## Main results

* `Date.parse?_eq_some_iff` : the texts that are read as a day.
* `Date.eq_of_parse?_text` : what is read from the text of a day is that day.
* `Date.parse?_eq_some_iff_eq_text` : the texts that are read are the written forms of days.
* `Date.text_lt_text_iff` : these are ordered as the days are.
-/

namespace Daybook.Date

/-- The texts that are read as a day: ten characters, of which the fifth and the eighth are hyphens
and the others the numerals of a year, a month and a day of month. -/
theorem parse?_eq_some_iff {s : String} {d : Date} :
    parse? s = some d ↔
      ∃ y₁ y₂ y₃ y₄ m₁ m₂ d₁ d₂, s.toList = [y₁, y₂, y₃, y₄, '-', m₁, m₂, '-', d₁, d₂] ∧
        ∃ year month day : Nat, Decimal.read? [y₁, y₂, y₃, y₄] = some year ∧
          Decimal.read? [m₁, m₂] = some month ∧ Decimal.read? [d₁, d₂] = some day ∧
            ofYmd? year month day = some d := by
  constructor
  · intro h
    unfold parse? at h
    split at h
    · next hs =>
      simp only [Option.bind_eq_bind, Option.bind_eq_some_iff] at h
      obtain ⟨year, hyear, month, hmonth, day, hday, hd⟩ := h
      exact ⟨_, _, _, _, _, _, _, _, hs, year, month, day, hyear, hmonth, hday, hd⟩
    · cases h
  · rintro ⟨y₁, y₂, y₃, y₄, m₁, m₂, d₁, d₂, hs, year, month, day, hyear, hmonth, hday, hd⟩
    simp only [parse?, hs, hyear, hmonth, hday, Option.bind_eq_bind, Option.bind_some, hd]

/-- A day is made of a year, a month and a day of month if these name a day of the range. -/
theorem ofYmd?_eq_some_iff {year : Int} {month day : Nat} {d : Date} :
    ofYmd? year month day = some d ↔ d = ⟨year, month, day⟩ ∧ d.Valid ∧ d.InRange := by
  simp only [ofYmd?]
  constructor
  · intro h
    split at h
    · next hd => exact Option.some.inj h ▸ ⟨rfl, hd⟩
    · cases h
  · rintro ⟨rfl, hd⟩
    rw [if_pos hd]

/-- The years that have four digits are in the range of days. -/
theorem inRange_of_le_9999 {d : Date} (hlow : 0 ≤ d.year) (hhigh : d.year ≤ 9999) : d.InRange := by
  simp only [InRange, firstYear, lastYear]
  omega

theorem toList_text (d : Date) :
    d.text.toList =
      Decimal.signed 4 d.year ++ ('-' :: (Decimal.padded 2 d.month ++
        ('-' :: Decimal.padded 2 d.day))) := by
  rw [text, textOf, String.toList_ofList]
  simp

/-- The text of a day consists of digits and hyphens, unless its year is negative. -/
theorem isDigit_or_hyphen_of_mem_text {d : Date} (h : 0 ≤ d.year) :
    ∀ c ∈ d.text.toList, c.isDigit = true ∨ c = '-' := by
  intro c hc
  rw [toList_text, Decimal.signed, if_neg (Int.not_lt.2 h)] at hc
  simp only [List.mem_append, List.mem_cons] at hc
  rcases hc with hc | rfl | hc | rfl | hc
  · exact .inl (Decimal.isDigit_of_mem_padded c hc)
  · exact .inr rfl
  · exact .inl (Decimal.isDigit_of_mem_padded c hc)
  · exact .inr rfl
  · exact .inl (Decimal.isDigit_of_mem_padded c hc)

/-- The month and the day of month of a valid day have two places at most, -/
theorem Valid.lt_hundred {d : Date} (h : d.Valid) : d.month < 10 ^ 2 ∧ d.day < 10 ^ 2 := by
  obtain ⟨⟨-, hmonth⟩, -, hday⟩ := h
  have hlength := monthLength_le d.year d.month
  omega

/-- and their numerals take two places each. -/
theorem Valid.length_padded {d : Date} (h : d.Valid) :
    (Decimal.padded 2 d.month).length = 2 ∧ (Decimal.padded 2 d.day).length = 2 :=
  ⟨Decimal.length_padded (by decide) h.lt_hundred.1,
    Decimal.length_padded (by decide) h.lt_hundred.2⟩

/-- What is read from the text of a day is that day. -/
theorem eq_of_parse?_text {d d' : Date} (hd : d.Valid) (h : parse? d.text = some d') : d' = d := by
  obtain ⟨y₁, y₂, y₃, y₄, m₁, m₂, d₁, d₂, htext, year, month, day, hyear, hmonth, hday, hd'⟩ :=
    parse?_eq_some_iff.1 h
  obtain ⟨hmlength, hdlength⟩ := hd.length_padded
  rw [toList_text] at htext
  -- the parts of the two texts have the same lengths, so they are the same parts
  have hylength : (Decimal.signed 4 d.year).length = 4 := by
    have hlength := congrArg List.length htext
    simp only [List.length_append, List.length_cons, List.length_nil, hmlength, hdlength] at hlength
    omega
  change _ = [y₁, y₂, y₃, y₄] ++ ('-' :: ([m₁, m₂] ++ ('-' :: [d₁, d₂]))) at htext
  obtain ⟨hy, hrest⟩ := List.append_inj htext hylength
  obtain ⟨hm, hrest⟩ := List.append_inj (List.cons.inj hrest).2 hmlength
  have hday' : Decimal.padded 2 d.day = [d₁, d₂] := (List.cons.inj hrest).2
  rw [← hy, Decimal.read?_signed] at hyear
  rw [← hm, Decimal.read?_padded] at hmonth
  rw [← hday', Decimal.read?_padded] at hday
  split at hyear
  · cases hyear
  · next hsign =>
    rw [(ofYmd?_eq_some_iff.1 hd').1, ← Option.some.inj hyear, ← Option.some.inj hmonth,
      ← Option.some.inj hday, Int.natAbs_of_nonneg (Int.not_lt.1 hsign)]

/-- The texts that are read as a day are the written forms of the days of the years 0 to 9999. -/
theorem parse?_eq_some_iff_eq_text {s : String} {d : Date} :
    parse? s = some d ↔ s = d.text ∧ d.Valid ∧ 0 ≤ d.year ∧ d.year ≤ 9999 := by
  rw [parse?_eq_some_iff]
  constructor
  · rintro ⟨y₁, y₂, y₃, y₄, m₁, m₂, d₁, d₂, hs, year, month, day, hyear, hmonth, hday, hd⟩
    obtain ⟨rfl, hvalid, -⟩ := ofYmd?_eq_some_iff.1 hd
    have hlt := Decimal.lt_of_read? hyear
    simp only [List.length_cons, List.length_nil] at hlt
    refine ⟨?_, hvalid, by simp only; omega, by simp only; omega⟩
    have hpadded := Decimal.padded_of_read? hyear
    have hpadded' := Decimal.padded_of_read? hmonth
    have hpadded'' := Decimal.padded_of_read? hday
    simp only [List.length_cons, List.length_nil, Nat.zero_add] at hpadded hpadded' hpadded''
    rw [← String.toList_inj, toList_text, hs, Decimal.signed, if_neg (by simp only; omega)]
    simp only [Int.natAbs_natCast, hpadded, hpadded', hpadded'']
    rfl
  · rintro ⟨rfl, hvalid, hlow, hhigh⟩
    obtain ⟨hmlength, hdlength⟩ := hvalid.length_padded
    have hylength : (Decimal.padded 4 d.year.natAbs).length = 4 :=
      Decimal.length_padded (by decide) (by omega)
    obtain ⟨y₁, y₂, y₃, y₄, hy⟩ := List.length_eq_four.1 hylength
    obtain ⟨m₁, m₂, hm⟩ := List.length_eq_two.1 hmlength
    obtain ⟨d₁, d₂, hd⟩ := List.length_eq_two.1 hdlength
    refine ⟨y₁, y₂, y₃, y₄, m₁, m₂, d₁, d₂, ?_, d.year.natAbs, d.month, d.day, ?_, ?_, ?_, ?_⟩
    · rw [toList_text, Decimal.signed, if_neg (Int.not_lt.2 hlow), hy, hm, hd]
      rfl
    · rw [← hy, Decimal.read?_padded]
    · rw [← hm, Decimal.read?_padded]
    · rw [← hd, Decimal.read?_padded]
    · rw [Int.natAbs_of_nonneg hlow]
      exact ofYmd?_eq_some_iff.2 ⟨rfl, hvalid, inRange_of_le_9999 hlow hhigh⟩

/-- The written forms of the days of the years 0 to 9999 are read as days, and no others. -/
theorem isValidText_text_iff {d : Date} (hd : d.Valid) :
    isValidText d.text = true ↔ 0 ≤ d.year ∧ d.year ≤ 9999 := by
  rw [isValidText, Option.isSome_iff_exists]
  constructor
  · rintro ⟨d', hd'⟩
    rw [eq_of_parse?_text hd hd'] at hd'
    exact (parse?_eq_some_iff_eq_text.1 hd').2.2
  · rintro ⟨hlow, hhigh⟩
    exact ⟨d, parse?_eq_some_iff_eq_text.2 ⟨rfl, hd, hlow, hhigh⟩⟩

/-! ### The order of the texts -/

/-- The texts of the days of the years 0 to 9999 are ordered as the days are. -/
theorem text_lt_text_iff {a b : Date} (ha : a.Valid) (hb : b.Valid)
    (halow : 0 ≤ a.year) (hahigh : a.year ≤ 9999) (hblow : 0 ≤ b.year) (hbhigh : b.year ≤ 9999) :
    a.text < b.text ↔ a < b := by
  have hyear {d : Date} (hlow : 0 ≤ d.year) (hhigh : d.year ≤ 9999) :
      Decimal.signed 4 d.year = Decimal.padded 4 d.year.natAbs ∧ d.year.natAbs < 10 ^ 4 :=
    ⟨if_neg (Int.not_lt.2 hlow), by omega⟩
  obtain ⟨hay, halt⟩ := hyear halow hahigh
  obtain ⟨hby, hblt⟩ := hyear hblow hbhigh
  obtain ⟨ham, had⟩ := ha.lt_hundred
  obtain ⟨hbm, hbd⟩ := hb.lt_hundred
  have hylength := (Decimal.length_padded (by decide) halt).trans
    (Decimal.length_padded (by decide) hblt).symm
  have hmlength := ha.length_padded.1.trans hb.length_padded.1.symm
  rw [String.lt_iff, toList_text, toList_text, hay, hby, Text.append_lt_append_iff hylength,
    List.cons_lt_cons_iff, Text.append_lt_append_iff hmlength, List.cons_lt_cons_iff,
    Decimal.padded_lt_padded_iff (by decide) halt hblt,
    Decimal.padded_lt_padded_iff (by decide) ham hbm,
    Decimal.padded_lt_padded_iff (by decide) had hbd, Decimal.padded_inj, Decimal.padded_inj]
  change _ ↔ a.year < b.year ∨ a.year = b.year ∧ (a.month < b.month ∨ a.month = b.month ∧ _)
  have hhyphen : ¬ '-' < '-' := by decide
  have hnat : a.year.natAbs < b.year.natAbs ↔ a.year < b.year := by omega
  have hnat' : a.year.natAbs = b.year.natAbs ↔ a.year = b.year := by omega
  simp only [hhyphen, false_or, true_and, hnat, hnat']

end Daybook.Date
