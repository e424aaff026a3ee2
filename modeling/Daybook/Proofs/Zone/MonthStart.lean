import Daybook.Proofs.Calendar.MonthCount
import Daybook.Proofs.Zone.SetBack
import Daybook.Proofs.Zone.StartOfDay

/-!
# The beginning of a month

Whether a day has begun can be told from the instant at which it begins or from the calendar.  Both
tell the same when no transition sets the day back and none skips the midnight of that day.  That is
so with the first days of months in a zone that keeps its months.

## Main definitions

* `Zone.SkipsMidnight` : a transition that leads over the midnight of a day.
* `Zone.KeepsMonths` : no transition sets the day back or skips the midnight of the first day of a
  month.

## Main results

* `Zone.exists_reading_or_skipped` : the clock shows a reading before it is past it, or skips it.
* `Zone.startOfDay_le_iff` : a day has begun when the calendar shows no earlier one.
-/

namespace Daybook.Zone

/-- A transition *skips the midnight* of a day when the clock was before it a second earlier and is
past it then. -/
def SkipsMidnight (z : Zone) (change : Transition) (d : Date) : Prop :=
  z.readingAt (change.instant - 1) < d.midnight ∧ d.midnight < z.readingAt change.instant

variable {z : Zone}

/-- From one second to the next the clock comes past a reading only by showing it, or at a
transition. -/
theorem exists_transition_of_skipped {reading t : Int} (hbefore : z.readingAt (t - 1) < reading)
    (hafter : reading < z.readingAt t) : ∃ change ∈ z.transitions, change.instant = t := by
  refine exists_transition_of_offsetAt_ne fun hoffset => ?_
  simp only [readingAt, hoffset] at hbefore hafter
  omega

/-- A clock that is not before a reading has shown it, or a transition has skipped it. -/
theorem exists_reading_or_skipped (hz : z.Regular) {reading t : Int} (h : reading ≤ z.readingAt t) :
    (∃ t' ≤ t, z.readingAt t' = reading) ∨
      ∃ change ∈ z.transitions, change.instant ≤ t ∧
        z.readingAt (change.instant - 1) < reading ∧ reading < z.readingAt change.instant := by
  have hearly : z.readingAt (reading - secondsPerDay) < reading := by
    have hoffset := (hz.isOffset_offsetAt (reading - secondsPerDay)).2
    rw [readingAt]
    omega
  have hlate : reading - secondsPerDay ≤ t := by
    have hoffset := (hz.isOffset_offsetAt t).2
    rw [readingAt] at h
    omega
  obtain ⟨n, rfl⟩ := Int.le.dest hlate
  clear hlate
  -- by induction on the seconds since an instant at which the clock was before the reading: it
  -- reaches the reading in the last of them, or it has reached it before
  induction n with
  | zero =>
    rw [Int.natCast_zero, Int.add_zero] at h
    exact absurd h (Int.not_le.2 hearly)
  | succ n ih =>
    have hlast : reading - secondsPerDay + (n + 1 : Nat) - 1 = reading - secondsPerDay + n := by
      omega
    rcases Int.lt_or_le (z.readingAt (reading - secondsPerDay + n)) reading with hbefore | hpast
    · rcases Int.lt_or_eq_of_le h with hskipped | hshown
      · rw [← hlast] at hbefore
        obtain ⟨change, hmem, hinstant⟩ := exists_transition_of_skipped hbefore hskipped
        rw [← hinstant] at hbefore hskipped
        exact .inr ⟨change, hmem, Int.le_of_eq hinstant, hbefore, hskipped⟩
      · exact .inl ⟨_, Int.le_refl _, hshown.symm⟩
    · rcases ih hpast with ⟨t', hle, ht'⟩ | ⟨change, hmem, hle, hskipped⟩
      · exact .inl ⟨t', by omega, ht'⟩
      · exact .inr ⟨change, hmem, by omega, hskipped⟩

/-- The calendar shows no day before a given one when the clock is not before its midnight. -/
theorem not_dateAt_lt_iff {d : Date} (hd : d.Valid) (t : Int) :
    ¬z.dateAt t < d ↔ d.midnight ≤ z.readingAt t := by
  have hday : d = Date.ofDayNumber d.dayNumber := (Date.ofDayNumber_dayNumber hd).symm
  rw [hday, dateAt, dateOfReading, Date.ofDayNumber_lt_ofDayNumber_iff, Date.midnight,
    Date.dayNumber_ofDayNumber, secondsPerDay]
  omega

section

variable {d : Date} (hz : z.Regular) (hd : d.Valid) (hlater : Date.first.dayNumber < d.dayNumber)
  (hskips : ∀ change ∈ z.transitions, ¬z.SkipsMidnight change d)

include hz hskips

/-- The midnight of a day that no transition skips is shown before the clock is past it. -/
theorem exists_midnight {t : Int} (h : d.midnight ≤ z.readingAt t) :
    ∃ t' ≤ t, z.readingAt t' = d.midnight := by
  rcases exists_reading_or_skipped hz h with hshown | ⟨change, hmem, -, hskipped⟩
  · exact hshown
  · exact absurd hskipped (hskips change hmem)

/-- The midnight of a day that no transition skips is not lost. -/
theorem not_losesMidnight : ¬z.LosesMidnight d := by
  intro hlost
  have hpast : d.midnight ≤ z.readingAt (d.midnight + secondsPerDay) := by
    have hoffset := (hz.isOffset_offsetAt (d.midnight + secondsPerDay)).1
    rw [readingAt]
    omega
  obtain ⟨t, -, ht⟩ := exists_midnight hz hskips hpast
  exact hlost.1 t ht

include hd hlater

/-- A day whose midnight no transition skips has begun when the calendar shows no earlier day, if no
transition sets the day back. -/
theorem startOfDay_le_iff (hback : ∀ change ∈ z.transitions, ¬z.SetsDayBack change) (t : Int) :
    z.startOfDay d ≤ t ↔ ¬z.dateAt t < d := by
  constructor
  · intro hle hbefore
    rw [← dateAt_startOfDay hz hd hlater (not_losesMidnight hz hskips)] at hbefore
    obtain ⟨change, hmem, -, hsets⟩ := exists_setsDayBack hle hbefore
    exact hback change hmem hsets
  · intro hbegun
    obtain ⟨t', hle, ht'⟩ := exists_midnight hz hskips ((not_dateAt_lt_iff hd t).1 hbegun)
    exact Int.le_trans ((readingAt_startOfDay hz hlater ⟨t', ht'⟩).2 t' ht') hle

end

/-! ### Zones that keep their months -/

/-- A zone *keeps its months* when no transition sets the day back, and none leads over a midnight
to the first day of a month, or over a day. -/
structure KeepsMonths (z : Zone) : Prop where
  not_setsDayBack : ∀ change ∈ z.transitions, ¬z.SetsDayBack change
  day_ne_one : ∀ change ∈ z.transitions,
    z.dateAt (change.instant - 1) < z.dateAt change.instant → (z.dateAt change.instant).day ≠ 1
  within_day : ∀ change ∈ z.transitions,
    z.readingAt change.instant - z.readingAt (change.instant - 1) ≤ secondsPerDay

instance (z : Zone) : Decidable z.KeepsMonths :=
  decidable_of_iff (_ ∧ _ ∧ _)
    ⟨fun ⟨h₁, h₂, h₃⟩ => ⟨h₁, h₂, h₃⟩, fun ⟨h₁, h₂, h₃⟩ => ⟨h₁, h₂, h₃⟩⟩

/-- A zone that keeps its months skips the midnight of no first day. -/
theorem KeepsMonths.not_skipsMidnight (h : z.KeepsMonths) {d : Date} (hd : d.Valid)
    (hfirst : d.day = 1) : ∀ change ∈ z.transitions, ¬z.SkipsMidnight change d := by
  rintro change hmem ⟨hbefore, hafter⟩
  have hwithin := h.within_day change hmem
  have hday : z.dateAt change.instant = d :=
    (dateAt_eq_iff hd _).2 ⟨Int.le_of_lt hafter, by omega⟩
  have hearlier : z.dateAt (change.instant - 1) < d := by
    by_contra hnot
    exact absurd ((not_dateAt_lt_iff hd _).1 hnot) (Int.not_le.2 hbefore)
  exact h.day_ne_one change hmem (hday ▸ hearlier) (hday ▸ hfirst)

section

variable (hz : z.Regular) (h : z.KeepsMonths) {n : Int}
  (hrange : firstYear < (Date.firstOfMonth n).year)

include hz h hrange

/-- In a zone that keeps its months, the calendar shows the first day of a month when the day
begins. -/
theorem dateAt_startOfMonth :
    z.dateAt (z.startOfDay (Date.firstOfMonth n)) = Date.firstOfMonth n := by
  have hvalid := Date.valid_firstOfMonth n
  exact dateAt_startOfDay hz hvalid (Date.first_lt_of_firstYear_lt hvalid hrange)
    (not_losesMidnight hz (h.not_skipsMidnight hvalid rfl))

/-- In a zone that keeps its months, a month has begun when the calendar shows no day before it. -/
theorem startOfMonth_le_iff (t : Int) :
    z.startOfDay (Date.firstOfMonth n) ≤ t ↔ ¬z.dateAt t < Date.firstOfMonth n := by
  have hvalid := Date.valid_firstOfMonth n
  exact startOfDay_le_iff hz hvalid (Date.first_lt_of_firstYear_lt hvalid hrange)
    (h.not_skipsMidnight hvalid rfl) h.not_setsDayBack t

end

end Daybook.Zone
