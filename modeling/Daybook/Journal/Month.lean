import Daybook.Json.Record

/-!
# What is shown of a month

A month is shown as one mark for each day, with links to the months around it.

## Main definitions

* `DayMark` : whether a day has an entry, and whether it lies in the future.
* `MonthView` : the marks of a month, today's date, and the months before and after.
-/

namespace Daybook

open Json

/-- What is shown of a day in its month. -/
structure DayMark where
  date : String
  hasEntry : Bool
  isFuture : Bool
deriving DecidableEq, Repr

/-- The JSON text of a day's mark. -/
def DayMark.codec : Codec DayMark :=
  record "DateEntry" [.required "date" text, .required "has_entry" flag, .required "is_future" flag]
    (fun (date, hasEntry, isFuture, _) => ⟨date, hasEntry, isFuture⟩)
    (fun m => (m.date, m.hasEntry, m.isFuture, ()))

/-- What is shown of a month.  The month after it is missing while it has not begun. -/
structure MonthView where
  days : List DayMark
  today : String
  previousMonth : String
  nextMonth : Option String
deriving DecidableEq, Repr

namespace MonthView

/-- The members of the view of a month. -/
def members : List Member :=
  [.required "entry_dates" (list DayMark.codec), .required "today" text,
   .required "previous_month" text, .optional "next_month" text false]

/-- The JSON text of the view of a month. -/
def codec : Codec MonthView :=
  record "EntryDatesResponse" members
    (fun (days, today, previousMonth, nextMonth, _) => ⟨days, today, previousMonth, nextMonth⟩)
    (fun v => (v.days, v.today, v.previousMonth, v.nextMonth, ()))

end MonthView

end Daybook
