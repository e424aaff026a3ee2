import Daybook.Proofs.Calendar.DateText

/-!
# The days of a month

The length of a month is found as the day before the next month begins.  That is the length of the
month in the calendar, and the days of the month are those with a number up to it.

## Main definitions

* `Date.endOfMonth?` : the last day of a month, if it can be found so.

## Main results

* `Date.eq_of_dayNumber_eq`, `Date.ofDayNumber_dayNumber` : a day is determined by its number.
* `Date.same_month_pred_iff` : when the day before is in the same month.
* `Date.endOfMonth?_eq` : the day before the next month of the range.
* `lastDayOfMonth_eq` : the length of a month that begins in the range of days.
* `Date.valid_iff_le_lastDayOfMonth`, `Date.days_of_month` : the days of a month.
-/

namespace Daybook

namespace Date

variable {a b : Date}

/-- Valid days with the same number are the same. -/
theorem eq_of_dayNumber_eq (ha : a.Valid) (hb : b.Valid) (h : a.dayNumber = b.dayNumber) :
    a = b := by
  rcases lt_trichotomy a b with hlt | heq | hgt
  · exact absurd h (Int.ne_of_lt (dayNumber_lt_dayNumber ha hb hlt))
  · exact heq
  · exact absurd h.symm (Int.ne_of_lt (dayNumber_lt_dayNumber hb ha hgt))

@[simp]
theorem ofDayNumber_dayNumber (h : a.Valid) : ofDayNumber a.dayNumber = a :=
  eq_of_dayNumber_eq (valid_ofDayNumber _) h (dayNumber_ofDayNumber _)

/-- The last day of a month comes right before the first of the next month of the year. -/
theorem dayNumber_firstOfNextMonth (year : Int) {month : Nat} (h1 : 1 ≤ month) :
    (⟨year, month + 1, 1⟩ : Date).dayNumber - 1 =
      (⟨year, month, monthLength year month⟩ : Date).dayNumber := by
  simp only [dayNumber, daysBeforeMonth_succ year h1]
  omega

/-- The last day of a year comes right before the first of the next year. -/
theorem dayNumber_firstOfNextYear (year : Int) :
    (⟨year + 1, 1, 1⟩ : Date).dayNumber - 1 =
      (⟨year, 12, monthLength year 12⟩ : Date).dayNumber := by
  have hyear := daysBeforeMonth_thirteen year
  rw [daysBeforeMonth_succ year (by decide)] at hyear
  simp only [dayNumber, daysBeforeYear_succ, ← hyear, daysBeforeMonth]
  omega

/-- The day before a day of the range, when its number is known. -/
theorem pred?_eq_some (h : a.dayNumber - 1 = b.dayNumber) (hb : b.Valid) (hrange : b.InRange) :
    a.pred? = some b := by
  simp only [pred?, h, ofDayNumber_dayNumber hb, if_pos hrange]

/-- The day before a day is in the same month, unless the day is the first of its month. -/
theorem same_month_pred_iff (ha : a.Valid) :
    a.year = (ofDayNumber (a.dayNumber - 1)).year ∧
        a.month = (ofDayNumber (a.dayNumber - 1)).month ↔ a.day ≠ 1 := by
  have hday := ha.2.1
  constructor
  · have hpred := (valid_ofDayNumber (a.dayNumber - 1)).2.1
    have hnumber := dayNumber_ofDayNumber (a.dayNumber - 1)
    generalize ofDayNumber (a.dayNumber - 1) = p at hpred hnumber
    rintro ⟨hyear, hmonth⟩
    simp only [dayNumber, ← hyear, ← hmonth] at hnumber
    omega
  · intro hne
    have hpred : (⟨a.year, a.month, a.day - 1⟩ : Date).Valid :=
      ⟨ha.1, by simp only; omega, Nat.le_trans (Nat.sub_le _ _) ha.2.2⟩
    have hnumber : a.dayNumber - 1 = (⟨a.year, a.month, a.day - 1⟩ : Date).dayNumber := by
      simp only [dayNumber]
      omega
    rw [hnumber, ofDayNumber_dayNumber hpred]
    exact ⟨rfl, rfl⟩

/-- The day before a day is in the same year or in the year before. -/
theorem year_pred (ha : a.Valid) :
    a.year - 1 ≤ (ofDayNumber (a.dayNumber - 1)).year ∧
      (ofDayNumber (a.dayNumber - 1)).year ≤ a.year := by
  have hpred := valid_ofDayNumber (a.dayNumber - 1)
  have hnumber := dayNumber_ofDayNumber (a.dayNumber - 1)
  generalize ofDayNumber (a.dayNumber - 1) = p at hpred hnumber
  refine ⟨Int.not_lt.1 fun hlt => ?_, Int.not_lt.1 fun hlt => ?_⟩
  · -- the last day of the year before would lie between them
    have hlast : (⟨a.year - 1, 12, 31⟩ : Date).Valid := by simp [Valid, monthLength]
    have hbefore := dayNumber_lt_dayNumber hpred hlast (.inl hlt)
    have hafter := dayNumber_lt_dayNumber hlast ha (.inl (Int.sub_one_lt_of_le (Int.le_refl _)))
    omega
  · have hless := dayNumber_lt_dayNumber ha hpred (.inl hlt)
    omega

/-- A day between two days of the range is in the range. -/
theorem inRange_of_dayNumber_le {b' : Date} (ha : a.Valid) (hb : b.Valid) (hb' : b'.Valid)
    (hlow : b.dayNumber ≤ a.dayNumber) (hhigh : a.dayNumber ≤ b'.dayNumber) (hrange : b.InRange)
    (hrange' : b'.InRange) : a.InRange := by
  refine ⟨Int.not_lt.1 fun hlt => ?_, Int.not_lt.1 fun hlt => ?_⟩
  · have hless := dayNumber_lt_dayNumber ha hb (.inl (Int.lt_of_lt_of_le hlt hrange.1))
    omega
  · have hless := dayNumber_lt_dayNumber hb' ha (.inl (Int.lt_of_le_of_lt hrange'.2 hlt))
    omega

/-- The first day of all is in the first year. -/
theorem first_lt_of_firstYear_lt (ha : a.Valid) (hlater : firstYear < a.year) :
    first.dayNumber < a.dayNumber :=
  dayNumber_lt_dayNumber (by decide) ha (.inl hlater)

/-- The texts that are read as days are not of the first representable year. -/
theorem first_lt_of_parse? {s : String} (h : parse? s = some a) :
    first.dayNumber < a.dayNumber := by
  obtain ⟨-, hvalid, hlow, -⟩ := parse?_eq_some_iff_eq_text.1 h
  exact first_lt_of_firstYear_lt hvalid (Int.lt_of_lt_of_le (by decide) hlow)

/-- The day before a day is in the range of days, unless the day is the first of all. -/
theorem inRange_pred (ha : a.Valid) (hrange : a.InRange) (hlater : first.dayNumber < a.dayNumber) :
    (ofDayNumber (a.dayNumber - 1)).InRange := by
  have hfirst : first.Valid := by decide
  have hnumber := dayNumber_ofDayNumber (a.dayNumber - 1)
  exact inRange_of_dayNumber_le (valid_ofDayNumber _) hfirst ha (by omega) (by omega) (by decide)
    hrange

/-! ### The day before the next month -/

/-- The last day of a month, as the day before the next month begins. -/
def endOfMonth? (year : Int) (month : Nat) : Option Date :=
  (if month = 12 then ofYmd? (year + 1) 1 1 else ofYmd? year (month + 1) 1).bind pred?

theorem valid_endOfMonth (year : Int) {month : Nat} (h1 : 1 ≤ month) (h12 : month ≤ 12) :
    (⟨year, month, monthLength year month⟩ : Date).Valid :=
  ⟨⟨h1, h12⟩, monthLength_pos year month, Nat.le_refl _⟩

/-- The first day of a month of the range can be named. -/
theorem ofYmd?_one {year : Int} {month : Nat} (hlow : firstYear ≤ year) (hhigh : year ≤ lastYear)
    (h1 : 1 ≤ month) (h12 : month ≤ 12) : ofYmd? year month 1 = some ⟨year, month, 1⟩ :=
  ofYmd?_eq_some_iff.2 ⟨rfl, ⟨⟨h1, h12⟩, Nat.le_refl 1, monthLength_pos year month⟩, hlow, hhigh⟩

/-- Days after the last year cannot be named. -/
theorem ofYmd?_of_lastYear_lt {year : Int} (h : lastYear < year) (month day : Nat) :
    ofYmd? year month day = none := by
  rw [Option.eq_none_iff_forall_ne_some]
  intro d hd
  obtain ⟨rfl, -, -, hle⟩ := ofYmd?_eq_some_iff.1 hd
  exact absurd h (Int.not_lt.2 hle)

/-- In the range of days, only the last month of all is followed by no day. -/
theorem endOfMonth?_eq {year : Int} {month : Nat} (hlow : firstYear ≤ year)
    (hhigh : year ≤ lastYear) (h1 : 1 ≤ month) (h12 : month ≤ 12) :
    endOfMonth? year month =
      if year = lastYear ∧ month = 12 then none
      else some ⟨year, month, monthLength year month⟩ := by
  have hlast := valid_endOfMonth year h1 h12
  unfold endOfMonth?
  by_cases hmonth : month = 12
  · subst hmonth
    by_cases hyear : year = lastYear
    · rw [if_pos rfl, if_pos ⟨hyear, rfl⟩, ofYmd?_of_lastYear_lt (by omega), Option.bind_none]
    · rw [if_pos rfl, if_neg fun h => hyear h.1,
        ofYmd?_one (by omega) (by omega) (by decide) (by decide), Option.bind_some]
      exact pred?_eq_some (dayNumber_firstOfNextYear year) hlast ⟨hlow, hhigh⟩
  · rw [if_neg hmonth, if_neg fun h => hmonth h.2, ofYmd?_one hlow hhigh (by omega) (by omega),
      Option.bind_some]
    exact pred?_eq_some (dayNumber_firstOfNextMonth year h1) hlast ⟨hlow, hhigh⟩

/-- The December before a year of the range ends with no day if the year is the first. -/
theorem endOfMonth?_december {year : Int} (hlow : firstYear ≤ year) (hhigh : year ≤ lastYear) :
    endOfMonth? (year - 1) 12 = if year = firstYear then none else some ⟨year - 1, 12, 31⟩ := by
  by_cases hyear : year = firstYear
  · subst hyear
    decide
  · rw [if_neg hyear, endOfMonth?_eq (by omega) (by omega) (by decide) (by decide),
      if_neg fun h => by omega]
    rfl

end Date

/-- The length of a month is the number of its last day, and 31 if that day cannot be named. -/
theorem lastDayOfMonth_eq_getD (year : Int) (month : Nat) :
    lastDayOfMonth year month = ((Date.endOfMonth? year month).map Date.day).getD 31 := by
  simp only [lastDayOfMonth, Date.endOfMonth?]
  split
  · next d hlast =>
    rw [hlast]
    rfl
  · next hnone =>
    rw [hnone]
    rfl

/-- The length of a month, wherever in the range of days it is. -/
theorem lastDayOfMonth_eq {year : Int} {month : Nat} (hlow : firstYear ≤ year)
    (hhigh : year ≤ lastYear) (h1 : 1 ≤ month) (h12 : month ≤ 12) :
    lastDayOfMonth year month = monthLength year month := by
  rw [lastDayOfMonth_eq_getD, Date.endOfMonth?_eq hlow hhigh h1 h12]
  split_ifs with hlast
  · -- no day follows the last December, and December has 31 days
    rw [hlast.2]
    rfl
  · rfl

/-- The days of a month have the numbers from one to its length. -/
theorem Date.valid_iff_le_lastDayOfMonth {d : Date} (hrange : d.InRange) :
    d.Valid ↔ (1 ≤ d.month ∧ d.month ≤ 12) ∧ 1 ≤ d.day ∧
      d.day ≤ lastDayOfMonth d.year d.month := by
  refine and_congr_right fun hmonth => ?_
  rw [lastDayOfMonth_eq hrange.1 hrange.2 hmonth.1 hmonth.2]

/-- The length of a month of the range is the one it has in the calendar, and the days that can be
named in it are those with a number from one to its length.  The day that the length is read from is
missing for the last month of the range alone, and among the months before a year for the one before
the range alone; the lengths of these two months are right all the same. -/
theorem Date.days_of_month {year : Int} {month : Nat} (hyear : firstYear ≤ year ∧ year ≤ lastYear)
    (hmonth : 1 ≤ month ∧ month ≤ 12) :
    lastDayOfMonth year month = monthLength year month ∧
      (∀ day, (∃ d, ofYmd? year month day = some d) ↔
        1 ≤ day ∧ day ≤ lastDayOfMonth year month) ∧
      (endOfMonth? year month = none ↔ year = lastYear ∧ month = 12) ∧
      (endOfMonth? (year - 1) 12 = none ↔ year = firstYear) ∧
      lastDayOfMonth (year - 1) 12 = monthLength (year - 1) 12 := by
  obtain ⟨hlow, hhigh⟩ := hyear
  have hdecember := endOfMonth?_december hlow hhigh
  refine ⟨lastDayOfMonth_eq hlow hhigh hmonth.1 hmonth.2, fun day => ?_, ?_, ?_, ?_⟩
  · have hdays := valid_iff_le_lastDayOfMonth (d := ⟨year, month, day⟩) ⟨hlow, hhigh⟩
    constructor
    · rintro ⟨d, hd⟩
      obtain ⟨rfl, hvalid, -⟩ := ofYmd?_eq_some_iff.1 hd
      exact (hdays.1 hvalid).2
    · intro hday
      exact ⟨_, ofYmd?_eq_some_iff.2 ⟨rfl, hdays.2 ⟨hmonth, hday⟩, hlow, hhigh⟩⟩
  · rw [endOfMonth?_eq hlow hhigh hmonth.1 hmonth.2]
    simp
  · rw [hdecember]
    simp
  · rw [lastDayOfMonth_eq_getD, hdecember]
    split_ifs <;> rfl

/-- The last month of the range has 31 days, although no day follows it. -/
theorem Date.days_of_last_month :
    (firstYear ≤ lastYear ∧ lastYear ≤ lastYear) ∧ (1 ≤ 12 ∧ 12 ≤ 12) ∧
      endOfMonth? lastYear 12 = none ∧ lastDayOfMonth lastYear 12 = 31 ∧
      ∀ day, (∃ d, ofYmd? lastYear 12 day = some d) ↔ 1 ≤ day ∧ day ≤ 31 := by
  have hyear : firstYear ≤ lastYear ∧ lastYear ≤ lastYear := by decide
  have hmonth : 1 ≤ 12 ∧ 12 ≤ 12 := by decide
  obtain ⟨hlength, hdays, hend, -⟩ := days_of_month hyear hmonth
  have hlast : lastDayOfMonth lastYear 12 = 31 := hlength.trans (by decide)
  rw [hlast] at hdays
  exact ⟨hyear, hmonth, hend.2 ⟨rfl, rfl⟩, hlast, hdays⟩

end Daybook
