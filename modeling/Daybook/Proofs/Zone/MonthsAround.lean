import Daybook.Proofs.Zone.MonthStart
import Mathlib.Order.Bounds.Basic

/-!
# From month to month

The month of an instant is the one that the calendar of a zone shows.  The months before and after
it begin at the earliest midnight of their first days, if the clock shows these midnights at all.
Who goes one month on and one month back, or the other way round, comes to the beginning of the
month that they have started from.

## Main definitions

* `Zone.ShowsMidnight` : the clock shows the midnight of a day.
* `Zone.Begins` : a day begins at the earliest such instant.

## Main results

* `Date.inRange_firstOfMonth_iff`, `Date.firstOfMonth_lt_firstOfMonth_iff` : the months of the range
  of days, and their order.
* `Zone.begins_startOfDay` : the instant at which a day is taken to begin.
* `Zone.begins_startOfPreviousMonth`, `Zone.begins_startOfNextMonth` : one step to the next month.
* `Zone.Begins.startOfPreviousMonth`, `Zone.Begins.startOfNextMonth` : the step back.
* `Zone.months_around_begin` : the steps to both sides, and back.
-/

namespace Daybook

namespace Date

/-- The months of the range of days are those of its years. -/
theorem inRange_firstOfMonth_iff {n : Int} :
    (firstOfMonth n).InRange ↔ 12 * firstYear ≤ n ∧ n < 12 * (lastYear + 1) := by
  simp only [InRange, firstOfMonth]
  omega

/-- Months come in the order of their numbers. -/
theorem firstOfMonth_lt_firstOfMonth_iff {m n : Int} :
    firstOfMonth m < firstOfMonth n ↔ m < n := by
  change (_ ∨ _ ∧ (_ ∨ _ ∧ _)) ↔ _
  simp only [firstOfMonth]
  omega

/-- The first day of all is in the first month of the range. -/
theorem first_lt_firstOfMonth {n : Int} (h : 12 * firstYear < n) :
    first.dayNumber < (firstOfMonth n).dayNumber := by
  have hfirst : first = firstOfMonth (12 * firstYear) := by decide
  rw [hfirst]
  exact dayNumber_lt_dayNumber (valid_firstOfMonth _) (valid_firstOfMonth _)
    (firstOfMonth_lt_firstOfMonth_iff.2 h)

end Date

namespace Zone

/-- The clock *shows the midnight* of a day when it shows the first second of the day. -/
def ShowsMidnight (z : Zone) (d : Date) (t : Int) : Prop :=
  (z.localTime t).date = d ∧ (z.localTime t).secondOfDay = 0

/-- A day *begins* at the earliest instant at which the clock shows its midnight. -/
def Begins (z : Zone) (d : Date) (t : Int) : Prop :=
  IsLeast {t' | z.ShowsMidnight d t'} t

variable {z : Zone} {d : Date} {t n : Int}

/-- The midnight of a day as a clock reading. -/
theorem showsMidnight_iff (hd : d.Valid) : z.ShowsMidnight d t ↔ z.readingAt t = d.midnight := by
  have hdate : (z.localTime t).date = d ↔
      d.midnight ≤ z.readingAt t ∧ z.readingAt t < d.midnight + secondsPerDay :=
    dateAt_eq_iff hd t
  rw [ShowsMidnight, hdate]
  simp only [localTime, Date.midnight, secondsPerDay]
  omega

/-- When a day begins, the calendar shows it. -/
theorem Begins.dateAt_eq (h : z.Begins d t) : z.dateAt t = d :=
  h.1.1

section

variable (hz : z.Regular)

include hz

/-- A day whose midnight is shown begins when it is taken to begin, unless it is the first of
all. -/
theorem begins_startOfDay (hd : d.Valid) (hlater : Date.first.dayNumber < d.dayNumber)
    (hshown : ∃ t', z.ShowsMidnight d t') : z.Begins d (z.startOfDay d) := by
  simp only [Begins, showsMidnight_iff hd] at hshown ⊢
  exact readingAt_startOfDay hz hlater hshown

section

variable (hlow : 12 * firstYear < n) (hhigh : n < 12 * (lastYear + 1))
  (hshown : ∃ t', z.ShowsMidnight (Date.firstOfMonth n) t')

include hlow hhigh hshown

/-- One step back from the month with the number after it, a month begins. -/
theorem begins_startOfPreviousMonth (ht : (z.dateAt t).monthNumber = n + 1) :
    z.Begins (Date.firstOfMonth n) (z.startOfPreviousMonth t) := by
  have hn : (z.dateAt t).monthNumber - 1 = n := by omega
  have hrange : (Date.firstOfMonth n).InRange :=
    Date.inRange_firstOfMonth_iff.2 ⟨Int.le_of_lt hlow, hhigh⟩
  rw [startOfPreviousMonth, Date.startOfPreviousMonth_eq (z.valid_dateAt t) (hn ▸ hrange), hn]
  exact begins_startOfDay hz (Date.valid_firstOfMonth n) (Date.first_lt_firstOfMonth hlow) hshown

/-- One step on from the month with the number before it, a month begins. -/
theorem begins_startOfNextMonth (ht : (z.dateAt t).monthNumber = n - 1) :
    z.Begins (Date.firstOfMonth n) (z.startOfNextMonth t) := by
  have hn : (z.dateAt t).monthNumber + 1 = n := by omega
  have hrange : (Date.firstOfMonth n).InRange :=
    Date.inRange_firstOfMonth_iff.2 ⟨Int.le_of_lt hlow, hhigh⟩
  rw [startOfNextMonth, Date.startOfNextMonth_eq (z.valid_dateAt t) (hn ▸ hrange), hn]
  exact begins_startOfDay hz (Date.valid_firstOfMonth n) (Date.first_lt_firstOfMonth hlow) hshown

omit hshown

/-- From the beginning of the month after it, one step leads back to the beginning of a month. -/
theorem Begins.startOfPreviousMonth (h : z.Begins (Date.firstOfMonth (n + 1)) t)
    (hshown : ∃ t', z.ShowsMidnight (Date.firstOfMonth n) t') :
    z.Begins (Date.firstOfMonth n) (z.startOfPreviousMonth t) := by
  refine begins_startOfPreviousMonth hz hlow hhigh hshown ?_
  rw [h.dateAt_eq, Date.monthNumber_firstOfMonth]

/-- From the beginning of the month before it, one step leads on to the beginning of a month. -/
theorem Begins.startOfNextMonth (h : z.Begins (Date.firstOfMonth (n - 1)) t)
    (hshown : ∃ t', z.ShowsMidnight (Date.firstOfMonth n) t') :
    z.Begins (Date.firstOfMonth n) (z.startOfNextMonth t) := by
  refine begins_startOfNextMonth hz hlow hhigh hshown ?_
  rw [h.dateAt_eq, Date.monthNumber_firstOfMonth]

end

/-- In a regular zone, as all zones of the catalogue are, and at an instant whose year is neither
the first nor the last of the range, the months before and after begin at the instants that are
found for them, if the clock shows the midnights of their first days.  The calendar then shows
these days, and from there the way back leads to the beginning of the month of the instant, if the
clock shows that midnight too. -/
theorem months_around_begin (hlow : firstYear < (z.dateAt t).year)
    (hhigh : (z.dateAt t).year < lastYear) :
    let own : Date := { z.dateAt t with day := 1 }
    let before := Date.firstOfMonth (own.monthNumber - 1)
    let after := Date.firstOfMonth (own.monthNumber + 1)
    ((∃ t', z.ShowsMidnight before t') →
        z.Begins before (z.startOfPreviousMonth t) ∧
          z.dateAt (z.startOfPreviousMonth t) = before ∧
          ((∃ t', z.ShowsMidnight own t') →
            z.Begins own (z.startOfNextMonth (z.startOfPreviousMonth t)))) ∧
      ((∃ t', z.ShowsMidnight after t') →
        z.Begins after (z.startOfNextMonth t) ∧ z.dateAt (z.startOfNextMonth t) = after ∧
          ((∃ t', z.ShowsMidnight own t') →
            z.Begins own (z.startOfPreviousMonth (z.startOfNextMonth t)))) := by
  intro own before after
  have hvalid := z.valid_dateAt t
  have hown : Date.firstOfMonth (z.dateAt t).monthNumber = own :=
    Date.firstOfMonth_monthNumber hvalid
  have hnumber : (z.dateAt t).monthNumber = own.monthNumber := rfl
  have hyear : 12 * (z.dateAt t).year ≤ own.monthNumber ∧
      own.monthNumber < 12 * ((z.dateAt t).year + 1) := by
    have hmonth := hvalid.1
    simp only [own, Date.monthNumber]
    omega
  rw [hnumber] at hown
  rw [← hown]
  refine ⟨fun hshown => ?_, fun hshown => ?_⟩
  · have hbegins : z.Begins before (z.startOfPreviousMonth t) :=
      begins_startOfPreviousMonth hz (by omega) (by omega) hshown (by omega)
    exact ⟨hbegins, hbegins.dateAt_eq, hbegins.startOfNextMonth hz (by omega) (by omega)⟩
  · have hbegins : z.Begins after (z.startOfNextMonth t) :=
      begins_startOfNextMonth hz (by omega) (by omega) hshown (by omega)
    exact ⟨hbegins, hbegins.dateAt_eq, hbegins.startOfPreviousMonth hz (by omega) (by omega)⟩

end

end Zone

/-! ### Cuba

On 1 November 2015 the clock was set back by an hour when it came to one in the morning, so it
showed the midnight of that day twice. -/

namespace Sample

/-- The zone of Cuba. -/
def havana : Zone :=
  (Zone.named? "America/Havana").getD .utc

set_option maxRecDepth 100000 in
/-- The last second of October there, and the midnights of the first days of September, October
and, twice, November. -/
theorem autumn_in_havana :
    Zone.named? "America/Havana" = some havana ∧ havana.dateAt 1446350399 = ⟨2015, 10, 31⟩ ∧
      havana.ShowsMidnight ⟨2015, 9, 1⟩ 1441080000 ∧
      havana.ShowsMidnight ⟨2015, 10, 1⟩ 1443672000 ∧
      havana.ShowsMidnight ⟨2015, 11, 1⟩ 1446350400 ∧
      havana.ShowsMidnight ⟨2015, 11, 1⟩ 1446354000 := by
  have h : ((Zone.named? "America/Havana").map fun z =>
      (z.dateAt 1446350399, [1441080000, 1443672000, 1446350400, 1446354000].map fun t =>
        ((z.localTime t).date, (z.localTime t).secondOfDay))) =
      some (⟨2015, 10, 31⟩,
        [(⟨2015, 9, 1⟩, 0), (⟨2015, 10, 1⟩, 0), (⟨2015, 11, 1⟩, 0), (⟨2015, 11, 1⟩, 0)]) := by
    decide +kernel
  obtain ⟨hnamed, hreadings⟩ := Zone.named?_getD_utc h
  simp only [List.map_cons, List.map_nil, Prod.mk.injEq, List.cons.injEq] at hreadings
  obtain ⟨hdate, hseptember, hoctober, hearlier, hlater, -⟩ := hreadings
  exact ⟨hnamed, hdate, hseptember, hoctober, hearlier, hlater⟩

/-- From the last second of October, November is found to begin at the first of its two midnights,
and the steps to both sides and back end at the beginning of October. -/
theorem around_october_in_havana :
    let t := 1446350399
    havana.Regular ∧ firstYear < (havana.dateAt t).year ∧ (havana.dateAt t).year < lastYear ∧
      havana.Begins ⟨2015, 9, 1⟩ (havana.startOfPreviousMonth t) ∧
      havana.Begins ⟨2015, 11, 1⟩ (havana.startOfNextMonth t) ∧
      havana.startOfNextMonth t ≤ 1446350400 ∧ havana.ShowsMidnight ⟨2015, 11, 1⟩ 1446354000 ∧
      havana.Begins ⟨2015, 10, 1⟩ (havana.startOfNextMonth (havana.startOfPreviousMonth t)) ∧
      havana.Begins ⟨2015, 10, 1⟩ (havana.startOfPreviousMonth (havana.startOfNextMonth t)) := by
  intro t
  obtain ⟨hnamed, hdate, hseptember, hoctober, hnovember, hagain⟩ := autumn_in_havana
  have hz : havana.Regular := Zone.regular_of_named? hnamed
  have hlow : firstYear < (havana.dateAt t).year := by rw [hdate]; decide
  have hhigh : (havana.dateAt t).year < lastYear := by rw [hdate]; decide
  have haround := Zone.months_around_begin hz hlow hhigh
  have hbefore : Date.firstOfMonth (Date.monthNumber ⟨2015, 10, 1⟩ - 1) = ⟨2015, 9, 1⟩ := by decide
  have hafter : Date.firstOfMonth (Date.monthNumber ⟨2015, 10, 1⟩ + 1) = ⟨2015, 11, 1⟩ := by decide
  simp only [t, hdate, hbefore, hafter] at haround
  obtain ⟨hprevious, -, hforth⟩ := haround.1 ⟨_, hseptember⟩
  obtain ⟨hnext, -, hback⟩ := haround.2 ⟨_, hnovember⟩
  exact ⟨hz, hlow, hhigh, hprevious, hnext, hnext.2 hnovember, hagain, hforth ⟨_, hoctober⟩,
    hback ⟨_, hoctober⟩⟩

end Sample

end Daybook
