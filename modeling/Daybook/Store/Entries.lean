import Daybook.Journal.Entry
import Daybook.Store.Table

/-!
# The entries that are kept

## Main definitions

* `Entries` : the entries by user and date.
* `Entries.inRange` : a user's entries between two dates.
* `Entries.upsert` : the entries after a text was put under a user and a date.
-/

namespace Daybook

/-- The entries by user and date. -/
abbrev Entries := Table (Uuid × String) Entry

namespace Entries

/-- The entry of a user and a date. -/
def find? (es : Entries) (user : Uuid) (date : String) : Option Entry :=
  es.get? (user, date)

/-- Whether a date lies between two bounds, both included; a missing bound excludes nothing. -/
def isWithin (first last : Option String) (date : String) : Bool :=
  first.all (fun d => decide (d ≤ date)) && last.all fun d => decide (date ≤ d)

/-- The entries of a user between two dates, in the order of their dates. -/
def inRange (es : Entries) (user : Uuid) (first last : Option String) : List Entry :=
  (es.values.filter fun e => e.userId == user && isWithin first last e.date).mergeSort
    fun e₁ e₂ => decide (e₁.date ≤ e₂.date)

/-- Whether an entry for a user and a date is new. -/
def isNew (es : Entries) (user : Uuid) (date : String) : Bool :=
  (es.find? user date).isNone

/-- The entry of a user and a date with a new text, and the entries with it.  A first entry takes
the given identifier. -/
def upsert (es : Entries) (id : Uuid) (now : Instant) (user : Uuid) (date body : String) :
    Entry × Entries :=
  let former := (es.find? user date).getD (Entry.blank id user date now)
  let e : Entry := { former with body := body, updatedAt := now }
  (e, es.insert (user, date) e)

end Entries

end Daybook
