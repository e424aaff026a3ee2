import Daybook.Journal.Month
import Daybook.Service.Action
import Daybook.Zone.Basic

/-!
# Reading and writing the journal

An entry may be written on its own day only.  A month is shown around an instant of a zone.

## Main definitions

* `Journal.find`, `Journal.save` : the entry of a day, and its replacement.
* `Journal.marks` : one mark for each day of a month.
* `Journal.month` : the view of a month.
-/

namespace Daybook

/-- The reasons for which an entry is not written. -/
inductive SaveError where
  /-- Its day is not today. -/
  | notEditable
  /-- The store has failed. -/
  | store (e : StoreError)
deriving DecidableEq, Repr

/-- The words for the reason of a refusal. -/
def SaveError.message : SaveError → String
  | .notEditable => "Past entries are not editable"
  | .store e => e.message

namespace Journal

/-- The entry of a user and a date. -/
def find (user : Uuid) (date : String) : Action StoreError (Option Entry) :=
  (Action.getEntry user date).during (.loadEntry date)

/-- Replaces the text of a user's entry, whose date has to be today's. -/
def save (user : Uuid) (date body today : String) : Action SaveError Entry :=
  if date = today then
    ((Action.upsertEntry user date body).during (.saveEntry date)).mapError .store
  else Action.fail .notEditable

/-! ### Months -/

/-- Whether a day of a month comes after today in the calendar: within the same month by its day, in
other months by the month. -/
def isFuture (year : Int) (month day : Nat) (today : Date) : Bool :=
  if year = today.year ∧ month = today.month then decide (today.day < day)
  else decide (today.year < year ∨ today.year = year ∧ today.month < month)

/-- The marks of the days of a month, in order.  The days of a calendar month are numbered from
one. -/
def marksOf (year : Int) (month : Nat) (written : List String) (today : Date) : List DayMark :=
  (List.range' 1 (lastDayOfMonth year month)).map fun day =>
    let date := Date.textOf year month day
    ⟨date, written.contains date, isFuture year month day today⟩

/-- The marks of the days of the month of an instant.  What is in the future is told by the calendar
of universal time. -/
def marks (user : Uuid) (zone : Zone) (reference : Int) (now : Instant) :
    Action StoreError (List DayMark) := do
  let d := zone.dateAt reference
  let first := Date.textOf d.year d.month 1
  let last := Date.textOf d.year d.month (lastDayOfMonth d.year d.month)
  let es ← (Action.entriesInRange user (some first) (some last)).during .loadDates
  pure (marksOf d.year d.month (es.map Entry.date) now.date)

/-- The date of today in a zone. -/
def today (zone : Zone) (now : Instant) : String :=
  (zone.dateAt now.seconds).text

/-- The view of the month of an instant.  The next month is offered once it has begun. -/
def month (user : Uuid) (zone : Zone) (reference : Int) (now : Instant) :
    Action StoreError MonthView := do
  let days ← marks user zone reference now
  let previous := zone.startOfPreviousMonth reference
  let next := zone.startOfNextMonth reference
  pure
    { days := days
      today := today zone now
      previousMonth := (zone.dateAt previous).text
      nextMonth := if next ≤ now.seconds then some (zone.dateAt next).text else none }

end Journal

end Daybook
