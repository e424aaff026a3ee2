import Daybook.Proofs.Service.Marks
import Daybook.Proofs.Zone.MonthStart

/-!
# The view of a month

In a zone that keeps its months, the view of a month shows the days of the month of the given day
and the first days of the months around it.  The month after it is offered once the calendar of the
zone has come to it.  So it is in the zone that is taken when none is configured.

## Main results

* `Journal.month_of_keepsMonths` : the view of a month in a zone that keeps its months.
* `Journal.month_in_tokyo` : the same in the zone of Japan, for every day that a text names.
-/

namespace Daybook

namespace Journal

section

variable {zone : Zone} (hz : zone.Regular) (hkeeps : zone.KeepsMonths) {d : Date} (hd : d.Valid)
  (hlow : 0 ≤ d.year) (hhigh : d.year ≤ 9999) (hkept : ¬zone.LosesMidnight d)

include hz hkeeps hd hlow hhigh hkept

/-- The view of the month of a day: its days, the first day of the month before it and, once the
calendar has come to it, that of the month after it. -/
theorem month_of_keepsMonths {c : Scene} (hc : c.InMemory) (s : State) (user : Uuid)
    (now : Instant) :
    let next := Date.firstOfMonth (d.monthNumber + 1)
    ∃ v, (month user zone (zone.startOfDay d) now c s).result = .ok v ∧
      v.days.map DayMark.date = (List.range' 1 (monthLength d.year d.month)).map
        (fun day => (⟨d.year, d.month, day⟩ : Date).text) ∧
      v.previousMonth = (Date.firstOfMonth (d.monthNumber - 1)).text ∧
      v.today = (zone.dateAt now.seconds).text ∧
      v.nextMonth = if zone.dateAt now.seconds < next then none else some next.text := by
  intro next
  have hrange := Date.inRange_of_le_9999 hlow hhigh
  obtain ⟨hprevious, hprevious'⟩ := Date.startOfPreviousMonth_of_le_9999 hd hlow hhigh
  obtain ⟨hnext, hnext'⟩ := Date.startOfNextMonth_of_le_9999 hd hlow hhigh
  have hreference : zone.dateAt (zone.startOfDay d) = d :=
    Zone.dateAt_startOfDay hz hd
      (Date.first_lt_of_firstYear_lt hd (Int.lt_of_lt_of_le (by decide) hlow)) hkept
  have hstart : zone.startOfNextMonth (zone.startOfDay d) = zone.startOfDay next := by
    rw [Zone.startOfNextMonth, hreference, hnext]
  refine ⟨_, month_of_inMemory hc s user zone _ now, ?_, ?_, rfl, ?_⟩
  · simp only [State.monthAt, State.marksAt, hreference, dates_marksOf,
      lastDayOfMonth_eq hrange.1 hrange.2 hd.1.1 hd.1.2]
  · rw [State.monthAt, Zone.startOfPreviousMonth, hreference, hprevious,
      Zone.dateAt_startOfMonth hz hkeeps hprevious']
  · -- the month after has begun when the calendar shows no day before it
    have hbegun : zone.startOfDay next ≤ now.seconds ↔ ¬zone.dateAt now.seconds < next :=
      Zone.startOfMonth_le_iff hz hkeeps hnext' now.seconds
    have hshown : zone.dateAt (zone.startOfDay next) = next :=
      Zone.dateAt_startOfMonth hz hkeeps hnext'
    simp only [State.monthAt, hstart, hshown, hbegun, ite_not]

end

set_option maxRecDepth 100000 in
/-- The zone of Japan keeps its months, and its clock was never behind universal time. -/
theorem tokyo_keepsMonths {zone : Zone} (hzone : Zone.named? "Asia/Tokyo" = some zone) :
    zone.KeepsMonths ∧ ∀ t, 0 ≤ zone.offsetAt t := by
  have hall : (Zone.named? "Asia/Tokyo").all (fun z => decide (z.KeepsMonths ∧
      0 ≤ z.initial ∧ ∀ change ∈ z.transitions, 0 ≤ change.offset)) = true := by decide +kernel
  rw [hzone, Option.all_some] at hall
  obtain ⟨hkeeps, hinitial, hchanges⟩ := of_decide_eq_true hall
  exact ⟨hkeeps, Zone.offsetAt_of_forall hinitial hchanges⟩

/-- In the zone of Japan, and in memory, the view of the month of a day is found.  It lists the days
of the month, it leads to the first day of the month before, and it leads to the first day of the
month after when the calendar of the zone has come to it. -/
theorem month_in_tokyo {zone : Zone} (hzone : Zone.named? "Asia/Tokyo" = some zone) {c : Scene}
    (hc : c.InMemory) (s : State) (user : Uuid) {date : String} {d : Date}
    (hdate : Date.parse? date = some d) (now : Instant) :
    let next := Date.firstOfMonth (d.monthNumber + 1)
    ∃ v, (month user zone (zone.startOfDay d) now c s).result = .ok v ∧
      v.days.map DayMark.date = (List.range' 1 (monthLength d.year d.month)).map
        (fun day => (⟨d.year, d.month, day⟩ : Date).text) ∧
      v.previousMonth = (Date.firstOfMonth (d.monthNumber - 1)).text ∧
      v.today = (zone.dateAt now.seconds).text ∧
      v.nextMonth = if zone.dateAt now.seconds < next then none else some next.text := by
  obtain ⟨-, hd, hlow, hhigh⟩ := Date.parse?_eq_some_iff_eq_text.1 hdate
  obtain ⟨hkeeps, hahead⟩ := tokyo_keepsMonths hzone
  have hkept : ¬zone.LosesMidnight d := fun hlost => Int.not_lt.2 (hahead _) hlost.2
  exact month_of_keepsMonths (Zone.regular_of_named? hzone) hkeeps hd hlow hhigh hkept hc s user now

end Journal

namespace Sample

/-- The zone of Japan. -/
def tokyo : Zone :=
  (Zone.named? "Asia/Tokyo").getD .utc

set_option maxRecDepth 100000 in
/-- The year 2014 began there at 15:00 of the day before, universal time. -/
theorem new_year_in_tokyo :
    Zone.named? "Asia/Tokyo" = some tokyo ∧ tokyo.dateAt 1388502000 = ⟨2014, 1, 1⟩ :=
  Zone.named?_getD_utc (f := fun z => z.dateAt 1388502000) (by decide +kernel)

/-- In that moment January is offered after December. -/
theorem january_after_december :
    let now : Instant := ⟨1388502000, 0, by decide, by decide⟩
    Zone.named? "Asia/Tokyo" = some tokyo ∧ memory.InMemory ∧
      Date.parse? "2013-12-31" = some ⟨2013, 12, 31⟩ ∧
      ∃ v, (Journal.month (supply 0) tokyo (tokyo.startOfDay ⟨2013, 12, 31⟩) now memory
          .initial).result = .ok v ∧
        v.days.length = 31 ∧ v.previousMonth = "2013-11-01" ∧ v.today = "2014-01-01" ∧
        v.nextMonth = some "2014-01-01" := by
  intro now
  obtain ⟨hzone, htoday⟩ := new_year_in_tokyo
  have hdate : Date.parse? "2013-12-31" = some ⟨2013, 12, 31⟩ := by decide
  have hmemory := draws_memory.inMemory
  obtain ⟨v, hv, hdays, hprevious, hshown, hnext⟩ :=
    Journal.month_in_tokyo hzone hmemory .initial (supply 0) hdate now
  rw [htoday] at hshown hnext
  refine ⟨hzone, hmemory, hdate, v, hv, ?_, hprevious, hshown, hnext⟩
  rw [← List.length_map (f := DayMark.date), hdays]
  rfl

end Sample

end Daybook
