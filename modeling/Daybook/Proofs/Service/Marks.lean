import Daybook.Proofs.Calendar.Months
import Daybook.Proofs.Service.Change
import Daybook.Proofs.Store.Ledger

/-!
# The marks of a month

The days of a month are numbered up to its length, and their texts are in order.  A range of dates
from the first to the last of them takes in the entries of exactly these days, so each day is marked
as written when there is an entry under its text.

## Main definitions

* `State.marksAt`, `State.monthAt` : the marks of the days of a month and its view, for a user.

## Main results

* `Journal.marks_of_inMemory`, `Journal.month_of_inMemory` : the marks and the view of a month.
* `Journal.sorted_marksOf` : the texts of the marks increase.
* `Journal.mem_dates_iff`, `Journal.mem_marksOf_iff` : the texts of the marks are those of the days
  of the month, and those that are read as such a day.
* `State.hasEntry_iff` : which days are marked as written.
-/

namespace Daybook

/-! ### The days of a month -/

namespace Journal

variable {d : Date} {written : List String} {today : Date}

/-- The texts of the days of a month. -/
theorem dates_marksOf :
    (marksOf d.year d.month written today).map DayMark.date =
      (List.range' 1 (lastDayOfMonth d.year d.month)).map fun day =>
        (⟨d.year, d.month, day⟩ : Date).text := by
  rw [marksOf, List.map_map]
  rfl

section

variable (hd : d.Valid) (hrange : d.InRange)

include hd hrange

/-- The days of a month are numbered up to its length. -/
theorem valid_iff_mem_range' (day : Nat) :
    (⟨d.year, d.month, day⟩ : Date).Valid ↔
      day ∈ List.range' 1 (lastDayOfMonth d.year d.month) := by
  have hmonth := hd.1
  have hday : (⟨d.year, d.month, day⟩ : Date).InRange := hrange
  rw [Date.valid_iff_le_lastDayOfMonth hday, List.mem_range'_1]
  simp only
  omega

/-- The texts of the marks are those of the days of the month. -/
theorem mem_dates_iff (date : String) :
    date ∈ (marksOf d.year d.month written today).map DayMark.date ↔
      ∃ day, (⟨d.year, d.month, day⟩ : Date).Valid ∧
        (⟨d.year, d.month, day⟩ : Date).text = date := by
  simp only [dates_marksOf, List.mem_map, valid_iff_mem_range' hd hrange]

/-- The text of a day is among them when the day is in the month. -/
theorem mem_dates_iff_of_parse? {date : String} {d' : Date} (h : Date.parse? date = some d') :
    date ∈ (marksOf d.year d.month written today).map DayMark.date ↔
      d'.year = d.year ∧ d'.month = d.month := by
  rw [mem_dates_iff hd hrange]
  constructor
  · rintro ⟨day, hvalid, rfl⟩
    rw [Date.eq_of_parse?_text hvalid h]
    exact ⟨rfl, rfl⟩
  · rintro ⟨hyear, hmonth⟩
    obtain ⟨rfl, hvalid, -⟩ := Date.parse?_eq_some_iff_eq_text.1 h
    rw [← hyear, ← hmonth]
    exact ⟨d'.day, hvalid, rfl⟩

end

section

variable (hd : d.Valid) (hlow : 0 ≤ d.year) (hhigh : d.year ≤ 9999)

include hd hlow hhigh

/-- The texts of the days of a month increase. -/
theorem sorted_marksOf :
    ((marksOf d.year d.month written today).map DayMark.date).Pairwise (· < ·) := by
  rw [dates_marksOf, List.pairwise_map]
  refine (List.pairwise_lt_range' 1).imp_of_mem fun {day day'} hmem hmem' hlt => ?_
  have hrange := Date.inRange_of_le_9999 hlow hhigh
  have hvalid := (valid_iff_mem_range' hd hrange day).2 hmem
  have hvalid' := (valid_iff_mem_range' hd hrange day').2 hmem'
  exact (Date.text_lt_text_iff hvalid hvalid' hlow hhigh hlow hhigh).2
    (.inr ⟨rfl, .inr ⟨rfl, hlt⟩⟩)

/-- The texts of the marks are those that are read as a day of the month. -/
theorem mem_marksOf_iff (date : String) :
    date ∈ (marksOf d.year d.month written today).map DayMark.date ↔
      ∃ day, Date.parse? date = some ⟨d.year, d.month, day⟩ := by
  rw [mem_dates_iff hd (Date.inRange_of_le_9999 hlow hhigh)]
  simp only [Date.parse?_eq_some_iff_eq_text]
  constructor
  · rintro ⟨day, hvalid, rfl⟩
    exact ⟨day, rfl, hvalid, hlow, hhigh⟩
  · rintro ⟨day, rfl, hvalid, -⟩
    exact ⟨day, hvalid, rfl⟩

end

end Journal

/-! ### Which days are written -/

/-- The marks of the days of a month, for a user. -/
def State.marksAt (s : State) (user : Uuid) (d today : Date) : List DayMark :=
  Journal.marksOf d.year d.month
    ((s.entries.inRange user (some (Date.textOf d.year d.month 1))
      (some (Date.textOf d.year d.month (lastDayOfMonth d.year d.month)))).map Entry.date) today

/-- Among filed entries, a date is that of an entry in a range when there is an entry under it, and
the range takes it in. -/
theorem Entries.Filed.mem_dates_inRange_iff {es : Entries} (h : es.Filed) (user : Uuid)
    (first last : Option String) (date : String) :
    date ∈ (es.inRange user first last).map Entry.date ↔
      isWithin first last date = true ∧ (es.find? user date).isSome = true := by
  simp only [List.mem_map, inRange_eq, mem_rangeOf_iff, Table.mem_values_iff,
    Option.isSome_iff_exists]
  constructor
  · rintro ⟨e, ⟨⟨k, hk⟩, rfl, hwithin⟩, rfl⟩
    obtain rfl := h k e hk
    exact ⟨hwithin, e, hk⟩
  · rintro ⟨hwithin, e, he⟩
    obtain ⟨huser, hdate⟩ := Prod.mk.inj (h _ e he)
    exact ⟨e, ⟨⟨_, he⟩, huser, hdate ▸ hwithin⟩, hdate⟩

/-- A day of a month is marked as written when there is an entry under its text. -/
theorem State.hasEntry_iff {s : State} (hs : s.entries.Filed) (user : Uuid) {d : Date}
    (today : Date) (hd : d.Valid) (hlow : 0 ≤ d.year) (hhigh : d.year ≤ 9999) {mark : DayMark}
    (hmark : mark ∈ s.marksAt user d today) :
    mark.hasEntry = true ↔ (s.entries.find? user mark.date).isSome = true := by
  have hvalid {day : Nat} (hday : day ∈ List.range' 1 (lastDayOfMonth d.year d.month)) :
      (⟨d.year, d.month, day⟩ : Date).Valid :=
    (Journal.valid_iff_mem_range' hd (Date.inRange_of_le_9999 hlow hhigh) day).2 hday
  have hle {day day' : Nat} (hday : day ∈ List.range' 1 (lastDayOfMonth d.year d.month))
      (hday' : day' ∈ List.range' 1 (lastDayOfMonth d.year d.month)) (h : day ≤ day') :
      Date.textOf d.year d.month day ≤ Date.textOf d.year d.month day' := by
    rw [← String.not_lt]
    intro hlt
    have hlt' := (Date.text_lt_text_iff (hvalid hday') (hvalid hday) hlow hhigh hlow hhigh).1 hlt
    rcases hlt' with h' | ⟨-, h' | ⟨-, h'⟩⟩ <;> simp only at h' <;> omega
  obtain ⟨day, hday, rfl⟩ := List.mem_map.1 hmark
  simp only [List.contains_iff_mem, hs.mem_dates_inRange_iff, and_iff_right_iff_imp,
    Entries.isWithin, Option.all_some, Bool.and_eq_true, decide_eq_true_eq]
  intro _
  have hends := List.mem_range'_1.1 hday
  exact ⟨hle (List.mem_range'_1.2 (by omega)) hday hends.1,
    hle hday (List.mem_range'_1.2 (by omega)) (by omega)⟩

/-! ### The view of a month -/

/-- The view of the month of an instant, for a user. -/
def State.monthAt (s : State) (user : Uuid) (zone : Zone) (reference : Int) (now : Instant) :
    MonthView where
  days := s.marksAt user (zone.dateAt reference) now.date
  today := Journal.today zone now
  previousMonth := (zone.dateAt (zone.startOfPreviousMonth reference)).text
  nextMonth :=
    if zone.startOfNextMonth reference ≤ now.seconds then
      some (zone.dateAt (zone.startOfNextMonth reference)).text
    else none

namespace Journal

variable {c : Scene} (hc : c.InMemory) (s : State) (user : Uuid) (zone : Zone) (reference : Int)
  (now : Instant)

include hc

/-- In memory, the marks of a month are found. -/
theorem marks_of_inMemory :
    (marks user zone reference now c s).result =
      .ok (s.marksAt user (zone.dateAt reference) now.date) := by
  have hfind (first last : Option String) :
      (Action.entriesInRange user first last).during .loadDates c s =
        ⟨.ok (s.entries.inRange user first last), s.called, []⟩ := by
    simp only [Action.during, Action.mapError,
      Action.entriesInRange_of_service (hc.entries s.calls), Except.mapError]
  unfold marks
  rw [Action.bind_of_ok (congrArg Outcome.result (hfind _ _)), hfind]
  rfl

/-- In memory, the view of a month is found. -/
theorem month_of_inMemory :
    (month user zone reference now c s).result = .ok (s.monthAt user zone reference now) := by
  unfold month
  rw [Action.bind_of_ok (marks_of_inMemory hc s user zone reference now)]
  rfl

end Journal

end Daybook
