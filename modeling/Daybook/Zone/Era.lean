import Daybook.Zone.Basic

/-!
# Eras and recurring changes of the clock

The history of a zone is written as a list of eras.  In each era the clock keeps a standard offset,
plus a saving that is constant or follows rules recurring every year.  An era ends at a stated
local time, the last one never.  Unrolling the rules year by year gives the transitions of a
`Zone`.

## Main definitions

* `Rule`, `Era` : a recurring change of the saving, and a stretch of a zone's history.
* `Era.unroll` : the spans of one era.
* `Zone.ofEras` : the zone of a history.
-/

namespace Daybook

/-- The days of the week, beginning with Monday. -/
inductive Weekday where
  | mon | tue | wed | thu | fri | sat | sun
deriving DecidableEq, Repr

/-- The position of a day in the week, Monday being zero. -/
def Weekday.index : Weekday → Int
  | .mon => 0
  | .tue => 1
  | .wed => 2
  | .thu => 3
  | .fri => 4
  | .sat => 5
  | .sun => 6

/-- A day of a month: by number, the last of a weekday, or the first of a weekday on or after a
number, or the last on or before it. -/
inductive DayRule where
  | on (day : Nat)
  | last (weekday : Weekday)
  | onOrAfter (weekday : Weekday) (day : Nat)
  | onOrBefore (weekday : Weekday) (day : Nat)
deriving DecidableEq, Repr

/-- The number of days from 1 January 1970 to the day that a rule picks in a month. -/
def DayRule.dayNumber (year : Int) (month : Nat) : DayRule → Int
  | .on day => Date.dayNumber ⟨year, month, day⟩
  | .last w => backTo w (Date.dayNumber ⟨year, month, monthLength year month⟩)
  | .onOrAfter w day =>
    let n := Date.dayNumber ⟨year, month, day⟩
    n + (w.index - weekdayIndex n) % 7
  | .onOrBefore w day => backTo w (Date.dayNumber ⟨year, month, day⟩)
where
  /-- 1 January 1970 was a Thursday. -/
  weekdayIndex (n : Int) : Int := (n + 3) % 7
  /-- The last day of the given weekday that is not after the given day. -/
  backTo (w : Weekday) (n : Int) : Int := n - (weekdayIndex n - w.index) % 7

/-- The clock that a time of day is read from. -/
inductive Clock where
  | wall
  | standard
  | universal
deriving DecidableEq, Repr

/-- By how much a clock is ahead of universal time, given the standard offset and the saving. -/
def Clock.ahead (offset saving : Int) : Clock → Int
  | .wall => offset + saving
  | .standard => offset
  | .universal => 0

/-- In each year of a range, at a time of a day, the saving becomes the given number of seconds. -/
structure Rule where
  firstYear : Int
  lastYear : Int
  month : Nat
  day : DayRule
  time : Int
  clock : Clock
  saving : Int
deriving DecidableEq, Repr

/-- The instant at which a rule takes effect in a year, under the offset and saving in force. -/
def Rule.instant (r : Rule) (year offset saving : Int) : Int :=
  r.day.dayNumber year r.month * secondsPerDay + r.time - r.clock.ahead offset saving

/-- The saving during an era: constant, or following recurring rules. -/
inductive Saving where
  | fixed (seconds : Int)
  | recurring (rules : List Rule)
deriving DecidableEq, Repr

/-- The local time at which an era ends. -/
structure Until where
  year : Int
  month : Nat
  day : DayRule
  time : Int
  clock : Clock
deriving DecidableEq, Repr

/-- The instant that an end of era denotes, under the offset and saving in force. -/
def Until.instant (u : Until) (offset saving : Int) : Int :=
  u.day.dayNumber u.year u.month * secondsPerDay + u.time - u.clock.ahead offset saving

/-- A stretch of a zone's history with one standard offset. -/
structure Era where
  offset : Int
  saving : Saving
  ends : Option Until
deriving DecidableEq, Repr

/-- From an instant on, a standard offset and a saving are in force. -/
structure Span where
  start : Int
  offset : Int
  saving : Int
deriving DecidableEq, Repr

/-- The offset from universal time during a span. -/
def Span.total (s : Span) : Int :=
  s.offset + s.saving

namespace Era

/-- The year from which rules are unrolled. -/
def firstYear : Int :=
  1800

/-- The number of years for which rules are unrolled. -/
def yearCount : Nat :=
  300

/-- The earliest of some rules, by a key, and the others in their order.  Of rules with the same key
the first is taken. -/
def earliest? (key : Rule → Int) : List Rule → Option (Rule × List Rule)
  | [] => none
  | r :: rs =>
    match earliest? key rs with
    | none => some (r, [])
    | some (m, others) => if key r ≤ key m then some (r, rs) else some (m, r :: others)

/-- How far an era is unrolled: the saving in force, the saving with which the era opens if it is
known, whether a span at the opening is still missing, and the spans found, latest first. -/
structure Unrolled where
  saving : Int
  opening : Int
  openingKnown : Bool
  needsOpening : Bool
  spans : List Span

/-- Applies the rules of one year in the order in which they take effect, as long as the era lasts.
The list shrinks with each rule, so its length bounds the number of steps. -/
def applyRules (era : Era) (start : Int) (year : Int) : Nat → List Rule → Unrolled → Unrolled
  | 0, _, u => u
  | steps + 1, rules, u =>
    match earliest? (fun r => r.instant year era.offset u.saving) rules with
    | none => u
    | some (r, others) =>
      let t := r.instant year era.offset u.saving
      if era.ends.any fun e => e.instant era.offset u.saving ≤ t then u
      else
        let needsOpening := u.needsOpening && t != start
        let u := { u with saving := r.saving, needsOpening }
        if needsOpening && decide (t < start) then
          applyRules era start year steps others
            { u with opening := r.saving, openingKnown := true }
        else
          let openingKnown :=
            u.openingKnown || (needsOpening && decide (u.opening = r.saving))
          applyRules era start year steps others
            { u with openingKnown, spans := ⟨t, era.offset, r.saving⟩ :: u.spans }

/-- Applies recurring rules in each of a number of years, up to the year in which the era ends. -/
def applyYears (era : Era) (start : Int) (rules : List Rule) : Nat → Int → Unrolled → Unrolled
  | 0, _, u => u
  | years + 1, year, u =>
    if era.ends.any fun e => e.year < year then u
    else
      let active := rules.filter fun r => r.firstYear ≤ year ∧ year ≤ r.lastYear
      applyYears era start rules years (year + 1)
        (applyRules era start year active.length active u)

/-- The spans of an era that opens at an instant, or that is the first of its zone, and the saving
at its end.  An era opens with a span of its own unless a rule takes effect at that very instant;
before the first rule the saving is that of the latest rule before the opening. -/
def unroll (era : Era) (start : Option Int) : List Span × Int :=
  match era.saving with
  | .fixed s => (start.toList.map fun t => ⟨t, era.offset, s⟩, s)
  | .recurring rules =>
    let u := applyYears era (start.getD 0) rules yearCount firstYear
      ⟨0, 0, false, start.isSome, []⟩
    let opening : List Span :=
      match start with
      | some t => if u.needsOpening && u.openingKnown then [⟨t, era.offset, u.opening⟩] else []
      | none => []
    (u.spans.reverse ++ opening, u.saving)

/-- The spans of successive eras, the first of which opens at the given instant. -/
def unrollAll (start : Option Int) : List Era → List Span
  | [] => []
  | era :: eras =>
    let (spans, saving) := era.unroll start
    spans ++ unrollAll (era.ends.map fun e => e.instant era.offset saving) eras

/-- Spans in order of time, with one more put in its place: before those that start later, and
before those that start at the same instant. -/
def insertSpan (s : Span) : List Span → List Span
  | [] => [s]
  | a :: rest => if s.start ≤ a.start then s :: a :: rest else a :: insertSpan s rest

/-- Spans in order of time.  Those that start at the same instant keep their order. -/
def inOrder : List Span → List Span
  | [] => []
  | s :: rest => insertSpan s (inOrder rest)

/-- Joins spans in order of time, given those kept so far, latest first.  A span that the next one
would begin on the wall clock no later than it began itself gives way to that next one, and a span
without a change of offset is dropped. -/
def join : List Span → List Span → List Span
  | kept, [] => kept.reverse
  | [], s :: rest => join [s] rest
  | [a], s :: rest => join (if a.total = s.total then [a] else [s, a]) rest
  | a :: b :: kept, s :: rest =>
    if s.start + a.total ≤ a.start + b.total then
      join (⟨a.start, s.offset, s.saving⟩ :: b :: kept) rest
    else join (if a.total = s.total then a :: b :: kept else s :: a :: b :: kept) rest

/-- The transitions that spans in order of time amount to, after the given offset. -/
def changes (offset : Int) : List Span → List Transition
  | [] => []
  | s :: rest =>
    if s.total = offset then changes offset rest else ⟨s.start, s.total⟩ :: changes s.total rest

end Era

/-- The zone of a history.  Before the first transition it keeps the offset of the first era, or, if
that era follows rules, of the first span without saving. -/
def Zone.ofEras (eras : List Era) : Zone :=
  let spans := Era.inOrder (Era.unrollAll none eras)
  let initial :=
    match eras with
    | ⟨offset, .fixed s, _⟩ :: _ => offset + s
    | _ => ((spans.find? fun s => s.saving == 0).map Span.total).getD 0
  ⟨initial, Era.changes initial (Era.join [] spans)⟩

end Daybook
