import Daybook.Proofs.Service.Marks

/-!
# Days to come

The marks of a month tell which of its days are still to come.  A day in the month of today is
compared with today by its number, any other by its year and month.  Together this is the order of
the calendar, so no day before a day that has come is to come, whatever month or zone it is shown
in, and none is to come again as time goes on.

## Main definitions

* `Journal.Shows` : a mark that is shown for a day.

## Main results

* `Journal.isFuture_iff` : a day is to come when it is after today.
* `Journal.days_to_come` : the days that are marked as still to come.
-/

namespace Daybook

/-- A day that is not before one is not before those that are not after that one. -/
theorem Date.not_lt_trans {a b c : Date} (hab : ¬a < b) (hbc : ¬b < c) : ¬a < c := by
  change ¬(_ ∨ _ ∧ (_ ∨ _)) at hab hbc ⊢
  omega

/-- As time goes on, the day is never an earlier one. -/
theorem Instant.not_date_lt {now now' : Instant} (h : now.seconds ≤ now'.seconds) :
    ¬now'.date < now.date := by
  rw [date, date, Date.ofDayNumber_lt_ofDayNumber_iff]
  omega

namespace Journal

variable {c : Scene} {s : State} {user : Uuid} {zone : Zone} {reference : Int} {now : Instant}

/-- A day is to come when it is after today. -/
theorem isFuture_iff {d today : Date} :
    isFuture d.year d.month d.day today = true ↔ today < d := by
  change _ ↔ (_ ∨ _ ∧ (_ ∨ _))
  rw [isFuture]
  split_ifs <;> simp only [decide_eq_true_eq] <;> omega

/-- The marks that are found are those of the days of the month.  What the store finds decides only
which of them are written. -/
theorem eq_marksOf_of_ok {ms : List DayMark}
    (h : (marks user zone reference now c s).result = .ok ms) :
    ∃ written, ms =
      marksOf (zone.dateAt reference).year (zone.dateAt reference).month written now.date := by
  obtain ⟨es, -, hes⟩ := Action.exists_of_bind_eq_ok h
  exact ⟨es.map Entry.date, (Except.ok.inj hes).symm⟩

/-- A mark is *shown* for a day of the month of an instant when it stands in the place of that day
among the marks that are found, whatever is kept and wherever it is kept. -/
def Shows (user : Uuid) (zone : Zone) (reference : Int) (now : Instant) (day : Date)
    (mark : DayMark) : Prop :=
  ∃ c s ms i, (marks user zone reference now c s).result = .ok ms ∧ ms[i]? = some mark ∧
    day = ⟨(zone.dateAt reference).year, (zone.dateAt reference).month, i + 1⟩

/-- A mark names its day, and tells whether it is after today. -/
theorem Shows.isFuture_iff {day : Date} {mark : DayMark}
    (h : Shows user zone reference now day mark) :
    mark.date = day.text ∧ (mark.isFuture = true ↔ now.date < day) := by
  obtain ⟨c, s, ms, i, hms, hmark, rfl⟩ := h
  obtain ⟨written, rfl⟩ := eq_marksOf_of_ok hms
  rw [marksOf, List.getElem?_map, Option.map_eq_some_iff] at hmark
  obtain ⟨day, hday, rfl⟩ := hmark
  obtain ⟨hlt, heq⟩ := List.getElem?_eq_some_iff.1 hday
  have hnumber : day = i + 1 := by
    rw [← heq, List.getElem_range']
    omega
  rw [hnumber]
  exact ⟨rfl, Journal.isFuture_iff (d := ⟨_, _, i + 1⟩)⟩

/-- In memory, there is a mark for each day of a month.  A mark tells that its day is to come when
the day is after today, by universal time.  Once it tells that the day has come, so do those of all
days that are not after it, in the same and in other months, zones and journals, then and at every
later time. -/
theorem days_to_come (user : Uuid) (zone : Zone) (reference : Int) (now : Instant) :
    let d := zone.dateAt reference
    (∀ c s, c.InMemory → ∃ ms, (marks user zone reference now c s).result = .ok ms ∧
      ms.length = lastDayOfMonth d.year d.month) ∧
    ∀ day mark, Shows user zone reference now day mark →
      mark.date = day.text ∧ (mark.isFuture = true ↔ now.date < day) ∧
      ∀ user' zone' reference' now' day' mark', Shows user' zone' reference' now' day' mark' →
        now.seconds ≤ now'.seconds → ¬day < day' →
          mark.isFuture = false → mark'.isFuture = false := by
  intro d
  refine ⟨fun c s hc => ⟨_, marks_of_inMemory hc s user zone reference now, ?_⟩, ?_⟩
  · rw [State.marksAt, marksOf, List.length_map, List.length_range']
  · intro day mark hmark
    obtain ⟨hdate, hfuture⟩ := hmark.isFuture_iff
    refine ⟨hdate, hfuture, fun _ _ _ now' day' mark' hmark' hlater hle hpast => ?_⟩
    have hcome : ¬now.date < day := by
      rw [← hfuture, hpast]
      exact Bool.false_ne_true
    have hcome' : ¬now'.date < day' :=
      Date.not_lt_trans (Instant.not_date_lt hlater) (Date.not_lt_trans hcome hle)
    rwa [← hmark'.isFuture_iff.2, Bool.not_eq_true] at hcome'

end Journal

namespace Sample

/-- On 8 November 2010, that day has come and the next is to come. -/
theorem november_shown :
    memory.InMemory ∧
      (∃ mark, Journal.Shows (supply 0) .utc 1288569600 memory.now ⟨2010, 11, 8⟩ mark ∧
        mark.date = "2010-11-08" ∧ mark.isFuture = false) ∧
      ∃ mark, Journal.Shows (supply 0) .utc 1288569600 memory.now ⟨2010, 11, 9⟩ mark ∧
        mark.date = "2010-11-09" ∧ mark.isFuture = true := by
  have hmemory := draws_memory.inMemory
  obtain ⟨hfound, hshown⟩ := Journal.days_to_come (supply 0) .utc 1288569600 memory.now
  obtain ⟨ms, hms, hlength⟩ := hfound memory .initial hmemory
  have hlength' : ms.length = 30 := hlength.trans (by decide)
  have hmonth : Zone.utc.dateAt 1288569600 = ⟨2010, 11, 1⟩ := by decide
  have hmark (i : Nat) (hi : i < 30) :
      Journal.Shows (supply 0) .utc 1288569600 memory.now ⟨2010, 11, i + 1⟩
        (ms.get ⟨i, hlength' ▸ hi⟩) :=
    ⟨memory, .initial, ms, i, hms, List.getElem?_eq_getElem _, by rw [hmonth]⟩
  obtain ⟨hdate, hpast, -⟩ := hshown _ _ (hmark 7 (by decide))
  obtain ⟨hdate', hfuture, -⟩ := hshown _ _ (hmark 8 (by decide))
  refine ⟨hmemory, ⟨_, hmark 7 (by decide), hdate, ?_⟩, _, hmark 8 (by decide), hdate', ?_⟩
  · rw [← Bool.not_eq_true, hpast]
    decide
  · rw [hfuture]
    decide

end Sample

end Daybook
