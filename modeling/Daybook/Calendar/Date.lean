import Daybook.Text.Decimal

/-!
# Days of the Gregorian calendar

A `Date` names a day of the proleptic Gregorian calendar, in which year 0 precedes year 1.  Days
are counted from 1 January 1970, and the text of a day is its year, month and day of month joined
by hyphens.

## Main definitions

* `Date`, `Date.Valid` : a day, and the condition that its month and day of month exist.
* `Date.dayNumber`, `Date.ofDayNumber` : the count of days from 1 January 1970, in both directions.
* `Date.ofYmd?` : a day of the representable range of years.
* `Date.text`, `Date.parse?` : the written form of a day, and its strict reader.
* `lastDayOfMonth` : the length of a month, found as the day before the next month begins.
-/

namespace Daybook

/-- A day by its year, its month and its day of month, the latter two counted from one. -/
structure Date where
  year : Int
  month : Nat
  day : Nat
deriving DecidableEq, Repr, Inhabited

/-- A year is a leap year when four divides it, unless it is a century that 400 does not divide. -/
def isLeapYear (year : Int) : Bool :=
  year % 4 == 0 && (year % 100 != 0 || year % 400 == 0)

/-- The number of days of a month of the Gregorian calendar. -/
def monthLength (year : Int) (month : Nat) : Nat :=
  if month = 2 then
    if isLeapYear year then 29 else 28
  else if month = 4 ∨ month = 6 ∨ month = 9 ∨ month = 11 then 30
  else 31

/-- The number of days from 1 January of year 0 to 1 January of a year. -/
def daysBeforeYear (year : Int) : Int :=
  365 * year + (year - 1) / 4 - (year - 1) / 100 + (year - 1) / 400 + 1

/-- The number of days of a year that precede one of its months. -/
def daysBeforeMonth (year : Int) : Nat → Nat
  | 0 => 0
  | 1 => 0
  | m + 2 => daysBeforeMonth year (m + 1) + monthLength year (m + 1)

/-- The number of days from 1 January of year 0 to 1 January 1970. -/
def epochDay : Int :=
  719528

/-- The first representable year. -/
def firstYear : Int :=
  -262143

/-- The last representable year. -/
def lastYear : Int :=
  262142

namespace Date

/-- A day is valid when its month exists and its day of month lies in that month. -/
def Valid (d : Date) : Prop :=
  (1 ≤ d.month ∧ d.month ≤ 12) ∧ 1 ≤ d.day ∧ d.day ≤ monthLength d.year d.month

instance (d : Date) : Decidable d.Valid :=
  inferInstanceAs (Decidable (_ ∧ _))

/-- A day is representable when its year lies in the supported range. -/
def InRange (d : Date) : Prop :=
  firstYear ≤ d.year ∧ d.year ≤ lastYear

instance (d : Date) : Decidable d.InRange :=
  inferInstanceAs (Decidable (_ ∧ _))

/-- The number of days from 1 January 1970 to a day. -/
def dayNumber (d : Date) : Int :=
  daysBeforeYear d.year + daysBeforeMonth d.year d.month + d.day - 1 - epochDay

/-- The year that contains a day, counted from 1 January of year 0.  The average length of a year
gives the year up to one, and the two neighbours are tried. -/
def yearOfDay (n : Int) : Int :=
  let guess := 400 * n / 146097
  if n < daysBeforeYear guess then guess - 1
  else if daysBeforeYear (guess + 1) ≤ n then guess + 1
  else guess

/-- The month and day of month that lie a number of days after the start of a month, looking
through at most the given number of further months. -/
def monthAndDay (year : Int) : Nat → Nat → Nat → Nat × Nat
  | 0, month, rest => (month, rest + 1)
  | months + 1, month, rest =>
    if rest < monthLength year month then (month, rest + 1)
    else monthAndDay year months (month + 1) (rest - monthLength year month)

/-- The day that lies a number of days after 1 January 1970. -/
def ofDayNumber (n : Int) : Date :=
  let day := n + epochDay
  let year := yearOfDay day
  let (month, dayOfMonth) := monthAndDay year 11 1 (day - daysBeforeYear year).toNat
  ⟨year, month, dayOfMonth⟩

/-- The day with the given year, month and day of month, if it is valid and representable. -/
def ofYmd? (year : Int) (month day : Nat) : Option Date :=
  let d : Date := ⟨year, month, day⟩
  if d.Valid ∧ d.InRange then some d else none

/-- The day before a day, if it is representable. -/
def pred? (d : Date) : Option Date :=
  let p := ofDayNumber (d.dayNumber - 1)
  if p.InRange then some p else none

/-- The first representable day. -/
def first : Date :=
  ⟨firstYear, 1, 1⟩

/-- Days are ordered by year, then by month, then by day of month. -/
protected def lt (a b : Date) : Prop :=
  a.year < b.year ∨ a.year = b.year ∧ (a.month < b.month ∨ a.month = b.month ∧ a.day < b.day)

instance : LT Date :=
  ⟨Date.lt⟩

instance (a b : Date) : Decidable (a < b) :=
  inferInstanceAs (Decidable (_ ∨ _))

/-- The text of a year, month and day: at least four, two and two places, joined by hyphens. -/
def textOf (year : Int) (month day : Nat) : String :=
  String.ofList
    (Decimal.signed 4 year ++ '-' :: Decimal.padded 2 month ++ '-' :: Decimal.padded 2 day)

/-- The written form of a day. -/
def text (d : Date) : String :=
  textOf d.year d.month d.day

/-- The day written in exactly ten characters: four, two and two ASCII digits joined by hyphens,
naming a day of the calendar. -/
def parse? (s : String) : Option Date :=
  match s.toList with
  | [y₁, y₂, y₃, y₄, '-', m₁, m₂, '-', d₁, d₂] => do
    let year ← Decimal.read? [y₁, y₂, y₃, y₄]
    let month ← Decimal.read? [m₁, m₂]
    let day ← Decimal.read? [d₁, d₂]
    ofYmd? year month day
  | _ => none

/-- Whether a text is the written form of a day. -/
def isValidText (s : String) : Bool :=
  (parse? s).isSome

end Date

/-- The length of a month, found as the day of month of the day before the following month begins.
Where that day does not exist the length is taken to be 31. -/
def lastDayOfMonth (year : Int) (month : Nat) : Nat :=
  let following := if month = 12 then Date.ofYmd? (year + 1) 1 1 else Date.ofYmd? year (month + 1) 1
  match following.bind Date.pred? with
  | some d => d.day
  | none => 31

/-- The first day of the month before a day's month. -/
def Date.startOfPreviousMonth (d : Date) : Date :=
  let (year, month) := if d.month = 1 then (d.year - 1, 12) else (d.year, d.month - 1)
  (Date.ofYmd? year month 1).getD Date.first

/-- The first day of the month after a day's month. -/
def Date.startOfNextMonth (d : Date) : Date :=
  let (year, month) := if d.month = 12 then (d.year + 1, 1) else (d.year, d.month + 1)
  (Date.ofYmd? year month 1).getD Date.first

end Daybook
