import Daybook.Calendar.Date

/-!
# Time zones

A zone assigns to every instant an offset from universal time.  It starts with one offset and
changes it at finitely many instants.  Instants are counted in seconds from the beginning of
1 January 1970, universal time.

## Main definitions

* `Zone`, `Zone.offsetAt` : a zone, and the offset in force at an instant.
* `Zone.localTime`, `Zone.dateAt` : the clock and calendar reading of an instant.
* `Zone.firstReading?` : the earliest instant at which the clock shows a given time.
* `Zone.startOfDay` : the instant at which a day begins.
-/

namespace Daybook

/-- The number of seconds of a day. -/
def secondsPerDay : Int :=
  86400

/-- From an instant on, the local clock runs ahead of universal time by an offset in seconds. -/
structure Transition where
  instant : Int
  offset : Int
deriving DecidableEq, Repr, Inhabited

/-- The offset before the first transition, and the transitions in order of time. -/
structure Zone where
  initial : Int
  transitions : List Transition
deriving DecidableEq, Repr, Inhabited

/-- What the clock and the calendar of a zone show at an instant. -/
structure LocalTime where
  date : Date
  secondOfDay : Nat
  offset : Int
  instant : Int
deriving DecidableEq, Repr, Inhabited

namespace Zone

/-- The offset at an instant, when the given offset is in force before the given transitions. -/
def offsetFrom (offset : Int) : List Transition → Int → Int
  | [], _ => offset
  | next :: later, t => if t < next.instant then offset else offsetFrom next.offset later t

/-- The offset in force at an instant. -/
def offsetAt (z : Zone) (t : Int) : Int :=
  offsetFrom z.initial z.transitions t

/-- The clock reading at an instant, in seconds from the local beginning of 1 January 1970. -/
def readingAt (z : Zone) (t : Int) : Int :=
  t + z.offsetAt t

/-- The day that a clock reading belongs to. -/
def dateOfReading (reading : Int) : Date :=
  Date.ofDayNumber (reading / secondsPerDay)

/-- What the zone's clock and calendar show at an instant. -/
def localTime (z : Zone) (t : Int) : LocalTime :=
  let reading := z.readingAt t
  ⟨dateOfReading reading, (reading % secondsPerDay).toNat, z.offsetAt t, t⟩

/-- The day that the zone's calendar shows at an instant. -/
def dateAt (z : Zone) (t : Int) : Date :=
  dateOfReading (z.readingAt t)

/-- The earliest instant with a given clock reading, among those not before the start of the span
in which an offset holds; the spans after it follow from the transitions. -/
def firstReadingFrom? (start : Option Int) (offset : Int) :
    List Transition → Int → Option Int
  | [], reading =>
    let t := reading - offset
    if start.all (· ≤ t) then some t else none
  | next :: later, reading =>
    let t := reading - offset
    if start.all (· ≤ t) ∧ t < next.instant then some t
    else firstReadingFrom? (some next.instant) next.offset later reading

/-- The earliest instant at which the zone's clock shows a given reading.  There is none when the
clock was set forward past that reading. -/
def firstReading? (z : Zone) (reading : Int) : Option Int :=
  firstReadingFrom? none z.initial z.transitions reading

/-- The first representable instant. -/
def firstInstant : Int :=
  Date.first.dayNumber * secondsPerDay

/-- The instant at which a day begins: the earliest local midnight.  A day whose midnight the clock
skips, or whose midnight comes before all representable instants, begins at midnight of universal
time. -/
def startOfDay (z : Zone) (d : Date) : Int :=
  let midnight := d.dayNumber * secondsPerDay
  match z.firstReading? midnight with
  | some t => if firstInstant ≤ t then t else midnight
  | none => midnight

/-- The beginning of the month before the month of an instant. -/
def startOfPreviousMonth (z : Zone) (t : Int) : Int :=
  z.startOfDay (z.dateAt t).startOfPreviousMonth

/-- The beginning of the month after the month of an instant. -/
def startOfNextMonth (z : Zone) (t : Int) : Int :=
  z.startOfDay (z.dateAt t).startOfNextMonth

/-- The zone whose clock shows universal time. -/
def utc : Zone :=
  ⟨0, []⟩

end Zone

end Daybook
