import Daybook.Calendar.Date

/-!
# Mistakes in naming a day or a zone

## Main definitions

* `DateError`, `DateError.message` : a mistake, and the words for it.
* `Date.read` : the day that a text names, or the mistake.
-/

namespace Daybook

/-- What is wrong with a date or a time zone. -/
inductive DateError where
  | invalidDate (text : String)
  | unknownZone (name : String)
deriving DecidableEq, Repr

/-- The words for what is wrong with a date or a time zone. -/
def DateError.message : DateError → String
  | .invalidDate text => "Invalid date: " ++ text
  | .unknownZone name => "Unknown timezone: " ++ name

/-- The day that a text names. -/
def Date.read (s : String) : Except DateError Date :=
  match Date.parse? s with
  | some d => .ok d
  | none => .error (.invalidDate s)

end Daybook
