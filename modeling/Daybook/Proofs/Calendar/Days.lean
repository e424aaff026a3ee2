import Daybook.Calendar.Date
import Mathlib.Tactic.SplitIfs

/-!
# The count of days

The count of days from 1 January 1970 and the days of the calendar determine each other: every
number is that of exactly one valid day, and a later day has a greater number.

## Main results

* `Date.yearOfDay_spec` : the year that a count of days falls into.
* `Date.valid_ofDayNumber`, `Date.dayNumber_ofDayNumber` : every number is that of a valid day.
* `Date.dayNumber_lt_dayNumber` : later days have greater numbers.
* `Date.ofDayNumber_lt_ofDayNumber_iff` : greater numbers are those of later days.
-/

namespace Daybook

/-! ### Years -/

/-- The number of days of a year. -/
def yearLength (year : Int) : Nat :=
  if isLeapYear year then 366 else 365

theorem daysBeforeYear_succ (year : Int) :
    daysBeforeYear (year + 1) = daysBeforeYear year + yearLength year := by
  simp only [daysBeforeYear, yearLength, isLeapYear, Bool.and_eq_true, Bool.or_eq_true, beq_iff_eq,
    bne_iff_ne]
  split_ifs <;> omega

/-- Years begin in order, each after the end of those before it. -/
theorem daysBeforeYear_succ_le {year year' : Int} (h : year < year') :
    daysBeforeYear (year + 1) ≤ daysBeforeYear year' := by
  simp only [daysBeforeYear]
  omega

/-- The year that a count of days falls into. -/
theorem Date.yearOfDay_spec (n : Int) :
    daysBeforeYear (yearOfDay n) ≤ n ∧ n < daysBeforeYear (yearOfDay n + 1) := by
  simp only [yearOfDay]
  split_ifs with hlow hhigh
  · refine ⟨?_, by simpa using hlow⟩
    simp only [daysBeforeYear] at *
    omega
  · refine ⟨hhigh, ?_⟩
    simp only [daysBeforeYear] at *
    omega
  · exact ⟨by omega, by omega⟩

/-! ### Months -/

/-- Every month has a day. -/
theorem monthLength_pos (year : Int) (month : Nat) : 1 ≤ monthLength year month := by
  unfold monthLength
  split_ifs <;> decide

/-- No month has more than 31 days. -/
theorem monthLength_le (year : Int) (month : Nat) : monthLength year month ≤ 31 := by
  unfold monthLength
  split_ifs <;> decide

theorem daysBeforeMonth_succ (year : Int) {month : Nat} (h : 1 ≤ month) :
    daysBeforeMonth year (month + 1) = daysBeforeMonth year month + monthLength year month := by
  obtain ⟨m, rfl⟩ := Nat.exists_eq_add_of_le' h
  rfl

theorem daysBeforeMonth_le (year : Int) (month : Nat) :
    daysBeforeMonth year month ≤ 31 * month := by
  induction month with
  | zero => exact Nat.le_refl 0
  | succ month ih =>
    rcases Nat.eq_zero_or_pos month with rfl | hpositive
    · exact Nat.zero_le _
    · have hlength := monthLength_le year month
      rw [daysBeforeMonth_succ year hpositive]
      omega

/-- The months of a year make up the year. -/
theorem daysBeforeMonth_thirteen (year : Int) :
    daysBeforeMonth year 13 = yearLength year := by
  cases h : isLeapYear year <;> simp [daysBeforeMonth, monthLength, yearLength, h]

/-- Months begin in order, each after the end of those before it. -/
theorem daysBeforeMonth_succ_le (year : Int) {month month' : Nat} (h1 : 1 ≤ month)
    (h : month < month') : daysBeforeMonth year (month + 1) ≤ daysBeforeMonth year month' := by
  induction h with
  | refl => exact Nat.le_refl _
  | @step m hm ih =>
    rw [daysBeforeMonth_succ year (Nat.le_trans (Nat.le_succ_of_le h1) hm)]
    omega

/-- A day of a month lies within its year. -/
theorem daysBeforeMonth_add_le {year : Int} {month day : Nat} (h1 : 1 ≤ month) (h12 : month ≤ 12)
    (hday : day ≤ monthLength year month) :
    daysBeforeMonth year month + day ≤ yearLength year := by
  have hmonth : month < 13 := by omega
  have hlast := daysBeforeMonth_succ_le year h1 hmonth
  rw [daysBeforeMonth_thirteen, daysBeforeMonth_succ year h1] at hlast
  omega

/-- The month and day of month lie the given number of days after the start of the given month. -/
theorem Date.monthAndDay_spec (year : Int) (months month rest : Nat) (h1 : 1 ≤ month)
    (hrest : daysBeforeMonth year month + rest < daysBeforeMonth year (month + months + 1)) :
    let md := monthAndDay year months month rest
    (month ≤ md.1 ∧ md.1 ≤ month + months) ∧ (1 ≤ md.2 ∧ md.2 ≤ monthLength year md.1) ∧
      daysBeforeMonth year md.1 + md.2 = daysBeforeMonth year month + rest + 1 := by
  induction months generalizing month rest with
  | zero =>
    rw [Nat.add_zero, daysBeforeMonth_succ year h1] at hrest
    simp only [monthAndDay]
    omega
  | succ months ih =>
    have hsucc := daysBeforeMonth_succ year h1
    rw [monthAndDay]
    split_ifs with hlt
    · simp only
      omega
    · have hstep := ih (month + 1) (rest - monthLength year month) (by omega) (by
        rw [show month + 1 + months + 1 = month + (months + 1) + 1 by omega, hsucc]
        omega)
      simp only at hstep ⊢
      omega

/-! ### Days -/

namespace Date

private theorem ofDayNumber_spec (n : Int) :
    (ofDayNumber n).Valid ∧ (ofDayNumber n).dayNumber = n := by
  obtain ⟨hlow, hhigh⟩ := yearOfDay_spec (n + epochDay)
  rw [daysBeforeYear_succ, ← daysBeforeMonth_thirteen] at hhigh
  obtain ⟨hmonth, hday, hcount⟩ := monthAndDay_spec (yearOfDay (n + epochDay)) 11 1
    (n + epochDay - daysBeforeYear (yearOfDay (n + epochDay))).toNat (Nat.le_refl 1) (by
      simp only [daysBeforeMonth] at hhigh ⊢
      omega)
  refine ⟨⟨hmonth, hday⟩, ?_⟩
  simp only [dayNumber, ofDayNumber]
  simp only [daysBeforeMonth] at hcount
  omega

/-- Every number of days leads to a day of the calendar. -/
theorem valid_ofDayNumber (n : Int) : (ofDayNumber n).Valid :=
  (ofDayNumber_spec n).1

@[simp]
theorem dayNumber_ofDayNumber (n : Int) : (ofDayNumber n).dayNumber = n :=
  (ofDayNumber_spec n).2

/-- Later days have greater numbers. -/
theorem dayNumber_lt_dayNumber {a b : Date} (ha : a.Valid) (hb : b.Valid) (h : a < b) :
    a.dayNumber < b.dayNumber := by
  obtain ⟨⟨ha1, ha12⟩, haday, halast⟩ := ha
  obtain ⟨⟨hb1, hb12⟩, hbday, hblast⟩ := hb
  simp only [dayNumber]
  rcases h with hyear | ⟨hyear, hmonth | ⟨hmonth, hday⟩⟩
  · have hends := daysBeforeYear_succ_le hyear
    have hwithin := daysBeforeMonth_add_le ha1 ha12 halast
    rw [daysBeforeYear_succ] at hends
    omega
  · have hends := daysBeforeMonth_succ_le a.year ha1 hmonth
    rw [daysBeforeMonth_succ _ ha1] at hends
    rw [← hyear]
    omega
  · rw [← hyear, ← hmonth]
    omega

/-- The order of days is total. -/
theorem lt_trichotomy (a b : Date) : a < b ∨ a = b ∨ b < a := by
  obtain ⟨y, m, d⟩ := a
  obtain ⟨y', m', d'⟩ := b
  change (_ ∨ _) ∨ _ ∨ (_ ∨ _)
  simp only [mk.injEq]
  omega

/-- Greater numbers are those of later days. -/
theorem ofDayNumber_lt_ofDayNumber_iff {m n : Int} : ofDayNumber m < ofDayNumber n ↔ m < n := by
  have hmono {m n : Int} (h : ofDayNumber m < ofDayNumber n) : m < n := by
    simpa using dayNumber_lt_dayNumber (valid_ofDayNumber m) (valid_ofDayNumber n) h
  refine ⟨hmono, fun h => ?_⟩
  rcases lt_trichotomy (ofDayNumber m) (ofDayNumber n) with hlt | heq | hgt
  · exact hlt
  · exact absurd (by simpa using congrArg dayNumber heq) (Int.ne_of_lt h)
  · exact absurd (hmono hgt) (Int.lt_asymm h)

end Date

end Daybook
