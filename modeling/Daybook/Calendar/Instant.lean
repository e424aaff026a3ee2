import Daybook.Calendar.Date
import Daybook.Text.Blank

/-!
# Instants and their text

An `Instant` is a moment of universal time with a fraction in nanoseconds, which may run on for a
second after any second.  Its text is a date, a time of day and the letter `Z`.  Other texts are
read as well: any offset from universal time, blanks around the fields, one-digit fields, and a leap
second at the end of a minute.

## Main definitions

* `Instant`, `Instant.of?`, `Instant.atSecond` : a representable moment.
* `Instant.text` : its text, with no fraction, or one of three, six or nine places.
* `Instant.parse?` : the moment that a text denotes.
-/

namespace Daybook

/-- The first second of the first representable year. -/
def firstSecond : Int :=
  -8334601228800

/-- The last second of the last representable year. -/
def lastSecond : Int :=
  8210266876799

/-- A moment of universal time: seconds from the beginning of 1 January 1970, and nanoseconds.  A
leap second counts as a second thousand million nanoseconds of the second before it.  It belongs at
the end of a minute, but nothing keeps it from other places. -/
structure Instant where
  seconds : Int
  nanos : Nat
  seconds_inRange : firstSecond ≤ seconds ∧ seconds ≤ lastSecond
  nanos_inRange : nanos < 2000000000
deriving DecidableEq, Repr

namespace Instant

/-- The moment with the given seconds and nanoseconds, if it is representable. -/
def of? (seconds : Int) (nanos : Nat) : Option Instant :=
  if hs : firstSecond ≤ seconds ∧ seconds ≤ lastSecond then
    if hn : nanos < 2000000000 then
      some ⟨seconds, nanos, hs, hn⟩
    else none
  else none

/-- The beginning of a second. -/
def atSecond (seconds : Int) (h : firstSecond ≤ seconds ∧ seconds ≤ lastSecond) : Instant :=
  ⟨seconds, 0, h, by decide⟩

@[simp]
theorem seconds_atSecond (seconds : Int) (h : firstSecond ≤ seconds ∧ seconds ≤ lastSecond) :
    (atSecond seconds h).seconds = seconds :=
  rfl

@[simp]
theorem nanos_atSecond (seconds : Int) (h : firstSecond ≤ seconds ∧ seconds ≤ lastSecond) :
    (atSecond seconds h).nanos = 0 :=
  rfl

/-- The beginning of 1 January 1970. -/
def epoch : Instant :=
  atSecond 0 (by decide)

instance : Inhabited Instant :=
  ⟨epoch⟩

/-- The day of universal time that contains a moment. -/
def date (t : Instant) : Date :=
  Date.ofDayNumber (t.seconds / 86400)

/-! ### Writing -/

/-- The year of a moment: four digits, or a sign and at least four digits outside those years. -/
def yearText (year : Int) : List Char :=
  if 0 ≤ year ∧ year ≤ 9999 then Decimal.padded 4 year.natAbs
  else (if year < 0 then '-' else '+') :: Decimal.padded 4 year.natAbs

/-- The fraction of a second: nothing when it is zero, otherwise milli-, micro- or nanoseconds. -/
def fractionText (nanos : Nat) : List Char :=
  if nanos = 0 then []
  else if nanos % 1000000 = 0 then '.' :: Decimal.padded 3 (nanos / 1000000)
  else if nanos % 1000 = 0 then '.' :: Decimal.padded 6 (nanos / 1000)
  else '.' :: Decimal.padded 9 nanos

/-- The text of a moment, in universal time.  A leap second is written as the second after the one
that it follows, which is second sixty at the end of a minute. -/
def chars (t : Instant) : List Char :=
  let d := t.date
  let s := (t.seconds % 86400).toNat
  let leap := t.nanos / 1000000000
  yearText d.year ++ '-' :: Decimal.padded 2 d.month ++ '-' :: Decimal.padded 2 d.day ++
    'T' :: Decimal.padded 2 (s / 3600) ++ ':' :: Decimal.padded 2 (s / 60 % 60) ++
    ':' :: Decimal.padded 2 (s % 60 + leap) ++ fractionText (t.nanos % 1000000000) ++ ['Z']

/-- The text of a moment. -/
def text (t : Instant) : String :=
  String.ofList t.chars

/-! ### Reading -/

/-- The number that a run of one to `limit` digits denotes, and what follows the run. -/
def number? (limit : Nat) (s : List Char) : Option (Nat × List Char) :=
  let run := (s.take limit).takeWhile Char.isDigit
  (Decimal.read? run).map fun n => (n, s.drop run.length)

/-- A field of at most two digits, after blanks. -/
def field? (s : List Char) : Option (Nat × List Char) :=
  number? 2 (Text.trimStart s)

/-- A year, after blanks: at most four digits, or a sign and any number of digits. -/
def year? (s : List Char) : Option (Int × List Char) :=
  match Text.trimStart s with
  | '-' :: r => (number? r.length r).map fun (n, rest) => (-(n : Int), rest)
  | '+' :: r => (number? r.length r).map fun (n, rest) => ((n : Int), rest)
  | r => (number? 4 r).map fun (n, rest) => ((n : Int), rest)

/-- What follows a separator, after blanks. -/
def separator? (c : Char) (s : List Char) : Option (List Char) :=
  match Text.trimStart s with
  | d :: rest => if d = c then some rest else none
  | [] => none

/-- The nanoseconds of a fraction, of whose digits the first nine count, and what follows. -/
def fraction? (s : List Char) : Option (Nat × List Char) :=
  match s with
  | '.' :: r =>
    let run := r.takeWhile Char.isDigit
    let counted := run.take 9
    (Decimal.read? counted).map fun n => (n * Nat.pow 10 (9 - counted.length), r.drop run.length)
  | _ => some (0, s)

/-- The seconds that two digits of hours and two digits of minutes amount to, with colons or blanks
between them, and what follows. -/
def hoursAndMinutes? (s : List Char) : Option (Int × List Char) :=
  match s with
  | h₁ :: h₂ :: r => do
    let hours ← Decimal.read? [h₁, h₂]
    match r.dropWhile fun c => c == ':' || Text.isBlank c with
    | m₁ :: m₂ :: rest =>
      let minutes ← Decimal.read? [m₁, m₂]
      if minutes < 60 then some (hours * 3600 + minutes * 60, rest) else none
    | _ => none
  | _ => none

/-- An offset from universal time in seconds: the letters `UTC` or `Z` in either case, or a sign
with hours and minutes.  The sign may be a typographic minus. -/
def offset? (s : List Char) : Option (Int × List Char) :=
  if (s.take 3).map Char.toUpper = ['U', 'T', 'C'] then some (0, s.drop 3)
  else
    match s with
    | 'Z' :: rest => some (0, rest)
    | 'z' :: rest => some (0, rest)
    | '+' :: rest => hoursAndMinutes? rest
    | '-' :: rest => (hoursAndMinutes? rest).map fun (n, r) => (-n, r)
    | '−' :: rest => (hoursAndMinutes? rest).map fun (n, r) => (-n, r)
    | _ => none

/-- The moment with the given local date, time of day and offset.  A sixtieth second is the leap
second of its minute. -/
def ofFields? (year : Int) (month day hour minute second nanos : Nat) (offset : Int) :
    Option Instant := do
  let d ← Date.ofYmd? year month day
  if hour < 24 ∧ minute < 60 ∧ second ≤ 60 ∧ -86400 < offset ∧ offset < 86400 then
    let leap := second / 60
    let seconds : Int := hour * 3600 + minute * 60 + (second - leap : Nat)
    of? (d.dayNumber * 86400 + seconds - offset) (nanos + leap * 1000000000)
  else none

/-- The moment that a text denotes. -/
def parse? (s : String) : Option Instant := do
  let (year, r) ← year? s.toList
  let r ← separator? '-' r
  let (month, r) ← field? r
  let r ← separator? '-' r
  let (day, r) ← field? r
  let r ← match r with
    | 'T' :: rest => some rest
    | 't' :: rest => some rest
    | ' ' :: rest => some rest
    | _ => none
  let (hour, r) ← field? r
  let r ← separator? ':' r
  let (minute, r) ← field? r
  let r ← separator? ':' r
  let (second, r) ← field? r
  let (nanos, r) ← fraction? r
  let (offset, r) ← offset? (Text.trimStart r)
  if Text.trimStart r = [] then ofFields? year month day hour minute second nanos offset else none

end Instant

end Daybook
