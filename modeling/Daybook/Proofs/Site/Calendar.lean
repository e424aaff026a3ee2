import Daybook.Proofs.Site.Pages
import Daybook.Proofs.Site.ReadYourWrites
import Daybook.Proofs.Zone.StartOfDay

/-!
# The calendar and the entries

The calendar lists the days of a month and marks those that have an entry.  It agrees with the
reader of dates about which days these are, and with the store and the pages about which of them are
written.  The calendar of a day is that of the month of the day, unless the day is the first of its
month and the clock of the zone loses its midnight: then it is that of the month before.

## Main results

* `Site.marks_agree` : the marks of a month, the texts that name its days, and the entries.
* `Site.calendar_of_day` : which month is shown for a day.
* `Sample.october_taken_for_september` : a day that is not listed in its own calendar.
-/

namespace Daybook

namespace Site

/-- The marks of a month carry, in increasing order, exactly the texts that are read as a day of the
month, and each of them says whether an entry is found under its text and shown as saved to the user
who asks for it.  The store is in memory, and the month is one of the years 0 to 9999. -/
theorem marks_agree (site : Site) (freshId : Nat → Uuid) (s : State) (c : Scene) (user : Uuid)
    (reference : Int) (now : Instant) (hs : s.Reachable freshId) (hc : c.InMemory)
    (hlow : 0 ≤ (site.zone.dateAt reference).year)
    (hhigh : (site.zone.dateAt reference).year ≤ 9999) :
    let d := site.zone.dateAt reference
    ∃ marks, (Journal.marks user site.zone reference now c s).result = .ok marks ∧
      (marks.map DayMark.date).Pairwise (· < ·) ∧
      (∀ date, date ∈ marks.map DayMark.date ↔
        ∃ day, Date.parse? date = some ⟨d.year, d.month, day⟩) ∧
      ∀ mark ∈ marks,
        (mark.hasEntry = true ↔
            ∃ e, (Action.getEntry user mark.date c s).result = .ok (some e)) ∧
          ∀ (c' : Scene) (r : Request) (u : User), c'.InMemory → u.id = user →
            site.AsksAbout c' s r .get .entry u mark.date →
              (site.respond c' s r).1.status = 200 ∧
                ∃ p, (site.respond c' s r).1.content = .page p ∧ p.saved = mark.hasEntry := by
  intro d
  have hd : d.Valid := Date.valid_ofDayNumber _
  have hdates (date : String) : date ∈ (s.marksAt user d now.date).map DayMark.date ↔
      ∃ day, Date.parse? date = some ⟨d.year, d.month, day⟩ :=
    Journal.mem_marksOf_iff hd hlow hhigh date
  refine ⟨_, Journal.marks_of_inMemory hc s user site.zone reference now,
    Journal.sorted_marksOf hd hlow hhigh, hdates, fun mark hmark => ?_⟩
  have hentry := State.hasEntry_iff hs.filed user now.date hd hlow hhigh hmark
  refine ⟨?_, ?_⟩
  · rw [hentry, Action.getEntry_of_service (hc.entries s.calls), Option.isSome_iff_exists]
    simp
  · rintro c' r u hc' rfl hasks
    obtain ⟨day, hday⟩ := (hdates mark.date).1 (List.mem_map_of_mem hmark)
    obtain ⟨hstatus, hcontent⟩ := hasks.shown hc' hday
    refine ⟨hstatus, _, hcontent, ?_⟩
    rw [State.saved_pageAt, Bool.eq_iff_iff, hentry]

end Site

/-! ### November 2010 -/

namespace Sample

/-- A text was put for 6 November 2010. -/
def written : State :=
  ((EntryCall.upsert (supply 15) "2010-11-06" "evening").action memory .initial).state

/-- Its day is marked in the calendar of the month. -/
theorem written_marked :
    written.Reachable supply ∧ memory.InMemory ∧
      0 ≤ (Zone.utc.dateAt memory.now.seconds).year ∧
      (Zone.utc.dateAt memory.now.seconds).year ≤ 9999 ∧
      ∃ marks, (Journal.marks (supply 15) .utc memory.now.seconds memory.now memory
          written).result = .ok marks ∧
        ∃ mark ∈ marks, mark.date = "2010-11-06" ∧ mark.hasEntry = true := by
  have hreach : written.Reachable supply := .entries _ draws_memory .initial
  have hlow : 0 ≤ (Zone.utc.dateAt memory.now.seconds).year := by decide
  have hhigh : (Zone.utc.dateAt memory.now.seconds).year ≤ 9999 := by decide
  obtain ⟨marks, hmarks, -, hdates, hentries⟩ := (site .utc).marks_agree supply written memory
    (supply 15) memory.now.seconds memory.now hreach draws_memory.inMemory hlow hhigh
  have hmonth : (⟨(Zone.utc.dateAt memory.now.seconds).year,
      (Zone.utc.dateAt memory.now.seconds).month, 6⟩ : Date) = ⟨2010, 11, 6⟩ := by decide
  obtain ⟨mark, hmem, hdate⟩ :=
    List.mem_map.1 ((hdates "2010-11-06").2 ⟨6, hmonth ▸ parse?_submitted⟩)
  refine ⟨hreach, draws_memory.inMemory, hlow, hhigh, marks, hmarks, mark, hmem, hdate,
    (hentries mark hmem).1.2 ?_⟩
  rw [hdate, written, EntryCall.action_upsert draws_memory.inMemory]
  exact ⟨_, rfl⟩

end Sample

namespace Site

/-! ### The calendar of a day -/

section

variable {site : Site} {c : Scene} {s : State} {r : Request} {user : User} {date : String}
  {d : Date}

/-- In memory, the calendar of a day is shown, and the day is listed in it unless it is the first of
its month and the clock loses its midnight. -/
theorem AsksAbout.listed_iff (h : site.AsksAbout c s r .get .calendar user date) (hc : c.InMemory)
    (hz : site.zone.Regular) (hdate : Date.parse? date = some d) :
    ∃ v, (site.respond c s r).1.status = 200 ∧ (site.respond c s r).1.content = .month v ∧
      (date ∈ v.days.map DayMark.date ↔ ¬(site.zone.LosesMidnight d ∧ d.day = 1)) := by
  obtain ⟨-, hvalid, hlow, hhigh⟩ := Date.parse?_eq_some_iff_eq_text.1 hdate
  have hrange := Date.inRange_of_le_9999 hlow hhigh
  have hlater := Date.first_lt_of_parse? hdate
  obtain ⟨hstatus, hcontent⟩ := h.shown_month hc hdate
  refine ⟨_, hstatus, hcontent, ?_⟩
  by_cases hlost : site.zone.LosesMidnight d
  · have hreference := Zone.dateAt_startOfDay_of_losesMidnight hz hlost
    simp only [State.monthAt, hreference, hlost, true_and]
    exact (Journal.mem_dates_iff_of_parse? (Date.valid_ofDayNumber _)
      (Date.inRange_pred hvalid hrange hlater) hdate).trans (Date.same_month_pred_iff hvalid)
  · have hreference := Zone.dateAt_startOfDay hz hvalid hlater hlost
    simp only [State.monthAt, hreference, hlost, false_and, not_false_eq_true, iff_true]
    exact (Journal.mem_dates_iff_of_parse? hvalid hrange hdate).2 ⟨rfl, rfl⟩

end

/-- The month that is shown for a date is that of the date, and the date is listed in it, for every
zone of the catalogue and every text of a day, with one exception: where the clock skips the
midnight of the day and is behind universal time, the day before is taken for it, and then the first
day of a month is not listed. -/
theorem calendar_of_day (site : Site) (name date : String) (d : Date)
    (hzone : Zone.named? name = some site.zone) (hdate : Date.parse? date = some d) :
    (¬site.zone.LosesMidnight d →
        (site.zone.dateAt (site.zone.startOfDay d)).text = date) ∧
      (site.zone.LosesMidnight d →
        site.zone.dateAt (site.zone.startOfDay d) = Date.ofDayNumber (d.dayNumber - 1)) ∧
      ∀ (c : Scene) (s : State) (r : Request) (user : User), c.InMemory →
        site.AsksAbout c s r .get .calendar user date →
          ∃ v, (site.respond c s r).1.status = 200 ∧
            (site.respond c s r).1.content = .month v ∧
            (date ∈ v.days.map DayMark.date ↔ ¬(site.zone.LosesMidnight d ∧ d.day = 1)) := by
  have hz := Zone.regular_of_named? hzone
  obtain ⟨hs, hvalid, -⟩ := Date.parse?_eq_some_iff_eq_text.1 hdate
  refine ⟨fun hkept => ?_, Zone.dateAt_startOfDay_of_losesMidnight hz,
    fun c s r user hc hasks => hasks.listed_iff hc hz hdate⟩
  rw [Zone.dateAt_startOfDay hz hvalid (Date.first_lt_of_parse? hdate) hkept, hs]

end Site

/-! ### Paraguay

The clock was set forward at midnight on 1 October 2023, from four hours behind universal time to
three. -/

namespace Sample

/-- The zone of Paraguay. -/
def asuncion : Zone :=
  (Zone.named? "America/Asuncion").getD .utc

set_option maxRecDepth 100000 in
/-- The zone is known.  No instant reads as that midnight, and later the day begins. -/
theorem asuncion_set_forward :
    Zone.named? "America/Asuncion" = some asuncion ∧
      asuncion.firstReading? 1696118400 = none ∧ asuncion.offsetAt 1696118400 = -14400 ∧
      asuncion.dateAt 1696132800 = ⟨2023, 10, 1⟩ := by
  have h : ((Zone.named? "America/Asuncion").map fun z =>
      (z.firstReading? 1696118400, z.offsetAt 1696118400, z.dateAt 1696132800)) =
        some (none, -14400, ⟨2023, 10, 1⟩) := by decide +kernel
  obtain ⟨hnamed, hreadings⟩ := Zone.named?_getD_utc h
  obtain ⟨hnone, hrest⟩ := Prod.mk.inj hreadings
  exact ⟨hnamed, hnone, Prod.mk.inj hrest⟩

theorem named?_asuncion : Zone.named? "America/Asuncion" = some (site asuncion).zone := by
  rw [zone_site]
  exact asuncion_set_forward.1

theorem regular_asuncion : (site asuncion).zone.Regular :=
  Zone.regular_of_named? named?_asuncion

theorem parse?_october : Date.parse? "2023-10-01" = some ⟨2023, 10, 1⟩ := by
  decide

/-- At midnight of universal time it is eight in the evening. -/
theorem losesMidnight_asuncion : (site asuncion).zone.LosesMidnight ⟨2023, 10, 1⟩ := by
  obtain ⟨-, hnone, hoffset, -⟩ := asuncion_set_forward
  have hmidnight : (⟨2023, 10, 1⟩ : Date).midnight = 1696118400 := by decide
  have hz := regular_asuncion
  rw [zone_site] at hz ⊢
  rw [Zone.LosesMidnight, hmidnight, hoffset]
  exact ⟨(Zone.firstReading?_eq_none_iff hz).1 hnone, by decide⟩

/-- The visitor asks for the calendar of that day. -/
def october : Request :=
  { submission with method := .get, path := "/entries/2023-10-01/calendar", body := [] }

theorem asks_october :
    ∃ u, (site asuncion).AsksAbout (scene sentAt) ((site .utc).after .initial [arrivedAgain])
      october .get .calendar u "2023-10-01" := by
  obtain ⟨u, howner, -⟩ := userOf?_visitor asuncion (r := october) rfl account_visitor
  exact ⟨u, "2023-10-01", ⟨rfl, by decide, howner⟩, by decide⟩

/-- The day occurs, but the last day of September is taken for it, and the calendar that is shown
for the day does not list it. -/
theorem october_taken_for_september :
    Zone.named? "America/Asuncion" = some asuncion ∧
      Date.parse? "2023-10-01" = some ⟨2023, 10, 1⟩ ∧ asuncion.dateAt 1696132800 = ⟨2023, 10, 1⟩ ∧
      (asuncion.dateAt (asuncion.startOfDay ⟨2023, 10, 1⟩)).text = "2023-09-30" ∧
      ∃ v, ((site asuncion).respond (scene sentAt) ((site .utc).after .initial [arrivedAgain])
          october).1.content = .month v ∧
        "2023-10-01" ∉ v.days.map DayMark.date := by
  obtain ⟨hnamed, -, -, hoccurs⟩ := asuncion_set_forward
  have hbefore := Zone.dateAt_startOfDay_of_losesMidnight regular_asuncion losesMidnight_asuncion
  obtain ⟨u, hasks⟩ := asks_october
  obtain ⟨v, -, hcontent, hlisted⟩ :=
    hasks.listed_iff (inMemory_scene sentAt) regular_asuncion parse?_october
  refine ⟨hnamed, parse?_october, hoccurs, ?_, v, hcontent,
    fun hmem => hlisted.1 hmem ⟨losesMidnight_asuncion, rfl⟩⟩
  rw [zone_site] at hbefore
  rw [hbefore]
  decide

/-- The zone loses the midnight, and the calendar shows the day before. -/
theorem asuncion_shows_day_before :
    Zone.named? "America/Asuncion" = some (site asuncion).zone ∧
      Date.parse? "2023-10-01" = some ⟨2023, 10, 1⟩ ∧
      (site asuncion).zone.LosesMidnight ⟨2023, 10, 1⟩ ∧
      (site asuncion).zone.dateAt ((site asuncion).zone.startOfDay ⟨2023, 10, 1⟩) =
        Date.ofDayNumber ((⟨2023, 10, 1⟩ : Date).dayNumber - 1) := by
  have h := (site asuncion).calendar_of_day "America/Asuncion" "2023-10-01" ⟨2023, 10, 1⟩
    named?_asuncion parse?_october
  exact ⟨named?_asuncion, parse?_october, losesMidnight_asuncion, h.2.1 losesMidnight_asuncion⟩

end Sample

end Daybook
