import Daybook.Proofs.Calendar.Months

/-!
# The count of months

Months are counted from January of year 0.  The months before and after a month are those with the
numbers next to its own, also where a year begins or ends.

## Main definitions

* `Date.monthNumber`, `Date.firstOfMonth` : the number of the month of a day, and the first day of
  the month with a number.

## Main results

* `Date.firstOfMonth_monthNumber`, `Date.monthNumber_firstOfMonth` : a month is known by its number.
* `Date.startOfPreviousMonth_eq`, `Date.startOfNextMonth_eq` : the first days of the months before
  and after.
-/

namespace Daybook.Date

/-- The number of months from January of year 0 to the month of a day. -/
def monthNumber (d : Date) : Int :=
  12 * d.year + d.month - 1

/-- The first day of the month with a number. -/
def firstOfMonth (n : Int) : Date :=
  ⟨n / 12, (n % 12).toNat + 1, 1⟩

theorem valid_firstOfMonth (n : Int) : (firstOfMonth n).Valid :=
  ⟨⟨by simp [firstOfMonth], by simp only [firstOfMonth]; omega⟩, Nat.le_refl 1,
    monthLength_pos _ _⟩

theorem firstOfMonth_eq {year : Int} {month : Nat} (h1 : 1 ≤ month) (h12 : month ≤ 12) :
    firstOfMonth (12 * year + month - 1) = ⟨year, month, 1⟩ := by
  have hyear : (12 * year + month - 1) / 12 = year := by omega
  have hmonth : ((12 * year + month - 1) % 12).toNat + 1 = month := by omega
  rw [firstOfMonth, hyear, hmonth]

/-- The first day of a month has the number of the month. -/
theorem firstOfMonth_monthNumber {d : Date} (h : d.Valid) :
    firstOfMonth d.monthNumber = ⟨d.year, d.month, 1⟩ :=
  firstOfMonth_eq h.1.1 h.1.2

@[simp]
theorem monthNumber_firstOfMonth (n : Int) : (firstOfMonth n).monthNumber = n := by
  simp only [monthNumber, firstOfMonth]
  omega

/-- The months of the years 0 to 9999 are numbered from zero. -/
theorem monthNumber_bounds {d : Date} (hd : d.Valid) (hlow : 0 ≤ d.year) (hhigh : d.year ≤ 9999) :
    0 ≤ d.monthNumber ∧ d.monthNumber < 120000 := by
  have hmonth := hd.1
  rw [monthNumber]
  omega

/-- These months and those next to them are in range, and none is in the first year. -/
theorem inRange_firstOfMonth {n : Int} (hlow : -1 ≤ n) (hhigh : n ≤ 120000) :
    (firstOfMonth n).InRange ∧ firstYear < (firstOfMonth n).year := by
  simp only [InRange, firstOfMonth, firstYear, lastYear]
  omega

/-- The first day of a month is found by its year and month if it is in range. -/
theorem getD_ofYmd?_eq {n year : Int} {month : Nat} (hn : n = 12 * year + month - 1)
    (h1 : 1 ≤ month) (h12 : month ≤ 12) (hrange : (firstOfMonth n).InRange) :
    (ofYmd? year month 1).getD first = firstOfMonth n := by
  have hvalid := valid_firstOfMonth n
  rw [hn, firstOfMonth_eq h1 h12] at hrange hvalid ⊢
  rw [ofYmd?_eq_some_iff.2 ⟨rfl, hvalid, hrange⟩, Option.getD_some]

section

variable {d : Date} (hd : d.Valid)

include hd

/-- The first day of the month before. -/
theorem startOfPreviousMonth_eq (hrange : (firstOfMonth (d.monthNumber - 1)).InRange) :
    d.startOfPreviousMonth = firstOfMonth (d.monthNumber - 1) := by
  have hmonth := hd.1
  unfold startOfPreviousMonth monthNumber at *
  split_ifs
  · exact getD_ofYmd?_eq (by omega) (by decide) (by decide) hrange
  · exact getD_ofYmd?_eq (by omega) (by omega) (by omega) hrange

/-- The first day of the month after. -/
theorem startOfNextMonth_eq (hrange : (firstOfMonth (d.monthNumber + 1)).InRange) :
    d.startOfNextMonth = firstOfMonth (d.monthNumber + 1) := by
  have hmonth := hd.1
  unfold startOfNextMonth monthNumber at *
  split_ifs
  · exact getD_ofYmd?_eq (by omega) (by decide) (by decide) hrange
  · exact getD_ofYmd?_eq (by omega) (by omega) (by omega) hrange

variable (hlow : 0 ≤ d.year) (hhigh : d.year ≤ 9999)

include hlow hhigh

/-- The month before a month of the years 0 to 9999. -/
theorem startOfPreviousMonth_of_le_9999 :
    d.startOfPreviousMonth = firstOfMonth (d.monthNumber - 1) ∧
      firstYear < (firstOfMonth (d.monthNumber - 1)).year := by
  obtain ⟨hfirst, hlast⟩ := monthNumber_bounds hd hlow hhigh
  obtain ⟨hrange, hlater⟩ := inRange_firstOfMonth (n := d.monthNumber - 1) (by omega) (by omega)
  exact ⟨startOfPreviousMonth_eq hd hrange, hlater⟩

/-- The month after such a month. -/
theorem startOfNextMonth_of_le_9999 :
    d.startOfNextMonth = firstOfMonth (d.monthNumber + 1) ∧
      firstYear < (firstOfMonth (d.monthNumber + 1)).year := by
  obtain ⟨hfirst, hlast⟩ := monthNumber_bounds hd hlow hhigh
  obtain ⟨hrange, hlater⟩ := inRange_firstOfMonth (n := d.monthNumber + 1) (by omega) (by omega)
  exact ⟨startOfNextMonth_eq hd hrange, hlater⟩

end

end Daybook.Date
