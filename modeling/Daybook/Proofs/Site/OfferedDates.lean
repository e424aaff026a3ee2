import Daybook.Proofs.Site.Calendar
import Daybook.Proofs.Site.EditableDay
import Daybook.Proofs.Zone.Eventful

/-!
# The dates that are offered

The root leads to a date, and the calendar of a day names today, the days of a month and the months
around it.  All of these are texts that are read as days again, so the user can ask for each of
them, with one exception: January of the year 0 names the month before it, and no text is read as a
day of that month.

## Main results

* `Zone.isValidText_previousMonth_iff`, `Zone.isValidText_nextMonth` : the months around a day.
* `Site.offered_dates_valid` : the dates that users are offered.
* `Sample.january_of_year_zero` : the date that leads nowhere.
-/

namespace Daybook

namespace Zone

section

variable {z : Zone} (hz : z.Regular) (h : ∀ change ∈ z.transitions, IsEventful change.instant)
  {d : Date} (hd : d.Valid) (hlow : 0 ≤ d.year) (hhigh : d.year ≤ 9999)

include hz h hd hlow hhigh

/-- A day of the years 0 to 9999 is taken for a day of these years. -/
theorem year_dateAt_startOfDay :
    0 ≤ (z.dateAt (z.startOfDay d)).year ∧ (z.dateAt (z.startOfDay d)).year ≤ 9999 := by
  have hlater : firstYear < d.year := Int.lt_of_lt_of_le (by decide) hlow
  rcases dateAt_startOfDay_eq_or hz h hd hlater with hsame | hyear
  · rw [hsame]
    exact ⟨hlow, hhigh⟩
  · omega

/-- The month before the month of a day is named by the text of a day, unless the month is January
of the year 0. -/
theorem isValidText_previousMonth_iff :
    Date.isValidText (z.dateAt (z.startOfPreviousMonth (z.startOfDay d))).text = true ↔
      ¬(d.year = 0 ∧ d.month = 1) := by
  have hfirst : firstYear < d.year := Int.lt_of_lt_of_le (by decide) hlow
  obtain ⟨hlow', hhigh'⟩ := year_dateAt_startOfDay hz h hd hlow hhigh
  obtain ⟨hstart, hlater⟩ :=
    Date.startOfPreviousMonth_of_le_9999 (z.valid_dateAt (z.startOfDay d)) hlow' hhigh'
  have hprevious := Date.valid_firstOfMonth ((z.dateAt (z.startOfDay d)).monthNumber - 1)
  have hmonth := hd.1
  rw [startOfPreviousMonth, hstart, Date.isValidText_text_iff (z.valid_dateAt _)]
  rcases Int.lt_or_le d.year 1699 with hearly | hlate
  · -- in early years no other days are taken for the day and for the first day of the month before
    have hsame := dateAt_startOfDay_of_year hz h hd hfirst (.inl hearly)
    rw [hsame] at hlater hprevious ⊢
    have hyear : (Date.firstOfMonth (d.monthNumber - 1)).year < 1699 := by
      simp only [Date.firstOfMonth, Date.monthNumber]
      omega
    rw [dateAt_startOfDay_of_year hz h hprevious hlater (.inl hyear)]
    simp only [Date.firstOfMonth, Date.monthNumber]
    omega
  · have hreferenceYear : 1698 ≤ (z.dateAt (z.startOfDay d)).year := by
      rcases dateAt_startOfDay_eq_or hz h hd hfirst with hsame | hyear
      · rw [hsame]
        omega
      · exact hyear.1
    refine iff_of_true ?_ (by omega)
    rcases dateAt_startOfDay_eq_or hz h hprevious hlater with hsame | hyear
    · rw [hsame]
      have hreferenceMonth := (z.valid_dateAt (z.startOfDay d)).1
      simp only [Date.firstOfMonth, Date.monthNumber]
      omega
    · omega

/-- When the month after the month of a day has begun, it is named by the text of a day. -/
theorem isValidText_nextMonth {t : Int} (hnow : (z.dateAt t).year ≤ 9999)
    (hbegun : z.startOfNextMonth (z.startOfDay d) ≤ t) :
    Date.isValidText (z.dateAt (z.startOfNextMonth (z.startOfDay d))).text = true := by
  obtain ⟨hlow', hhigh'⟩ := year_dateAt_startOfDay hz h hd hlow hhigh
  have hreference := z.valid_dateAt (z.startOfDay d)
  obtain ⟨hstart, hlater⟩ := Date.startOfNextMonth_of_le_9999 hreference hlow' hhigh'
  have hnext := Date.valid_firstOfMonth ((z.dateAt (z.startOfDay d)).monthNumber + 1)
  rw [startOfNextMonth, hstart] at hbegun ⊢
  rw [Date.isValidText_text_iff (z.valid_dateAt _)]
  rcases dateAt_startOfDay_eq_or hz h hnext hlater with hsame | hyear
  · rw [hsame]
    have hyear : (Date.firstOfMonth ((z.dateAt (z.startOfDay d)).monthNumber + 1)).year ≤ 9999 := by
      by_contra hafter
      have hshown := not_dateAt_lt_of_startOfDay_le hz h hnext (by omega) hbegun
      exact hshown (.inl (by omega))
    have hfirst := (Date.monthNumber_bounds hreference hlow' hhigh').1
    refine ⟨?_, hyear⟩
    simp only [Date.firstOfMonth]
    omega
  · omega

end

end Zone

namespace Site

variable {site : Site} {c : Scene} {s : State} {user : User}

/-- The root leads to the text of a day. -/
theorem AsksFor.valid_root {r : Request} (h : site.AsksFor c s r .get .root user) (hc : c.InMemory)
    (hlow : 0 ≤ (site.zone.dateAt c.now.seconds).year)
    (hhigh : (site.zone.dateAt c.now.seconds).year ≤ 9999) :
    ∃ date, (site.respond c s r).1.status = 302 ∧
      (site.respond c s r).1.location = some ("/entries/" ++ date) ∧
      Date.isValidText date = true := by
  obtain ⟨hstatus, hlocation⟩ := (redirects_iff_today hc h).2 rfl
  have hvalid := (Date.isValidText_text_iff (site.zone.valid_dateAt c.now.seconds)).2 ⟨hlow, hhigh⟩
  exact ⟨_, hstatus, hlocation, hvalid⟩

/-- All dates that a user is offered are texts that are read as days, in every zone of the catalogue
and at every time at which the calendar of the zone shows one of the years 0 to 9999: the date that
the root leads to, and those that the calendar of a day names, with the exception that the calendar
of January of the year 0 names the month before it. -/
theorem offered_dates_valid (site : Site) {name : String}
    (hzone : Zone.named? name = some site.zone) (c : Scene) (s : State) (user : User)
    (hc : c.InMemory) (hlow : 0 ≤ (site.zone.dateAt c.now.seconds).year)
    (hhigh : (site.zone.dateAt c.now.seconds).year ≤ 9999) :
    (∀ r, site.AsksFor c s r .get .root user →
        ∃ date, (site.respond c s r).1.status = 302 ∧
          (site.respond c s r).1.location = some ("/entries/" ++ date) ∧
          Date.isValidText date = true) ∧
      ∀ r date d, site.AsksAbout c s r .get .calendar user date → Date.parse? date = some d →
        ∃ v, (site.respond c s r).1.status = 200 ∧ (site.respond c s r).1.content = .month v ∧
          (∀ mark ∈ v.days, Date.isValidText mark.date = true) ∧
          Date.isValidText v.today = true ∧
          (∀ next ∈ v.nextMonth, Date.isValidText next = true) ∧
          (Date.isValidText v.previousMonth = true ↔ ¬(d.year = 0 ∧ d.month = 1)) := by
  have hz := Zone.regular_of_named? hzone
  have h := Zone.isEventful_of_named? hzone
  refine ⟨fun r hasks => hasks.valid_root hc hlow hhigh, fun r date d hasks hdate => ?_⟩
  obtain ⟨-, hd, hlow', hhigh'⟩ := Date.parse?_eq_some_iff_eq_text.1 hdate
  obtain ⟨hstatus, hcontent⟩ := hasks.shown_month hc hdate
  refine ⟨_, hstatus, hcontent, fun mark hmark => ?_, ?_, fun next hnext => ?_, ?_⟩
  · obtain ⟨hearliest, hlatest⟩ := Zone.year_dateAt_startOfDay hz h hd hlow' hhigh'
    obtain ⟨day, hday⟩ := (Journal.mem_marksOf_iff (site.zone.valid_dateAt _) hearliest hlatest
      mark.date).1 (List.mem_map_of_mem hmark)
    exact Option.isSome_iff_exists.2 ⟨_, hday⟩
  · exact (Date.isValidText_text_iff (site.zone.valid_dateAt _)).2 ⟨hlow, hhigh⟩
  · simp only [State.monthAt] at hnext
    split_ifs at hnext with hbegun
    · cases hnext
      exact Zone.isValidText_nextMonth hz h hd hlow' hhigh' hhigh hbegun
    · cases hnext
  · exact Zone.isValidText_previousMonth_iff hz h hd hlow' hhigh'

end Site

/-! ### The visitor and the year 0 -/

namespace Sample

/-- The visitor asks for the calendar of a day. -/
def calendarOf (date : String) : Request :=
  { submission with method := .get, path := "/entries/" ++ date ++ "/calendar", body := [] }

theorem asks_calendarOf (date : String)
    (hroute : Route.ofPath? (calendarOf date).path = some (.page (.calendar date)))
    (hdecoded : Site.dateIn? date = some date) :
    ∃ u, (site .utc).AsksAbout (scene sentAt) ((site .utc).after .initial [arrivedAgain])
      (calendarOf date) .get .calendar u date := by
  obtain ⟨u, howner, -⟩ := userOf?_visitor .utc (r := calendarOf date) rfl account_visitor
  exact ⟨u, date, ⟨rfl, hroute, howner⟩, hdecoded⟩

theorem named?_utc : Zone.named? "UTC" = some (site .utc).zone := by
  rw [zone_site]
  decide +kernel

/-- In November 2010 all dates that the visitor is offered are texts of days. -/
theorem november_offers_days :
    Zone.named? "UTC" = some (site .utc).zone ∧ (scene sentAt).InMemory ∧
      0 ≤ ((site .utc).zone.dateAt (scene sentAt).now.seconds).year ∧
      ((site .utc).zone.dateAt (scene sentAt).now.seconds).year ≤ 9999 ∧
      Date.parse? "2010-11-06" = some ⟨2010, 11, 6⟩ ∧
      ∃ u v, (site .utc).AsksAbout (scene sentAt) ((site .utc).after .initial [arrivedAgain])
          (calendarOf "2010-11-06") .get .calendar u "2010-11-06" ∧
        ((site .utc).respond (scene sentAt) ((site .utc).after .initial [arrivedAgain])
          (calendarOf "2010-11-06")).1.content = .month v ∧
        Date.isValidText v.today = true ∧ Date.isValidText v.previousMonth = true := by
  obtain ⟨u, hasks⟩ := asks_calendarOf "2010-11-06" (by decide) (by decide)
  have hlow : 0 ≤ ((site .utc).zone.dateAt (scene sentAt).now.seconds).year := by decide
  have hhigh : ((site .utc).zone.dateAt (scene sentAt).now.seconds).year ≤ 9999 := by decide
  obtain ⟨v, -, hcontent, -, htoday, -, hprevious⟩ :=
    ((site .utc).offered_dates_valid named?_utc (scene sentAt) _ u (inMemory_scene sentAt) hlow
      hhigh).2 _ _ _ hasks parse?_submitted
  exact ⟨named?_utc, inMemory_scene sentAt, hlow, hhigh, parse?_submitted, u, v, hasks, hcontent,
    htoday, hprevious.2 (by decide)⟩

/-- The calendar of a day in January of the year 0 is shown, and it names the month before by a text
that is not read as a day. -/
theorem january_of_year_zero :
    Zone.named? "UTC" = some (site .utc).zone ∧ Date.isValidText "0000-01-15" = true ∧
      ∃ v, ((site .utc).respond (scene sentAt) ((site .utc).after .initial [arrivedAgain])
          (calendarOf "0000-01-15")).1.content = .month v ∧
        v.previousMonth = "-001-12-01" ∧ Date.isValidText v.previousMonth = false := by
  obtain ⟨u, hasks⟩ := asks_calendarOf "0000-01-15" (by decide) (by decide)
  have hdate : Date.parse? "0000-01-15" = some ⟨0, 1, 15⟩ := by decide
  obtain ⟨-, hcontent⟩ := hasks.shown_month (inMemory_scene sentAt) hdate
  have hprevious : (Zone.utc.dateAt (Zone.utc.startOfPreviousMonth
      (Zone.utc.startOfDay ⟨0, 1, 15⟩))).text = "-001-12-01" := by decide
  exact ⟨named?_utc, by decide, _, hcontent, hprevious,
    (congrArg Date.isValidText hprevious).trans (by decide)⟩

end Sample

end Daybook
