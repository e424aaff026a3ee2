import Daybook.Proofs.Site.Pages
import Daybook.Proofs.Site.ReadYourWrites
import Mathlib.Tactic.TFAE

/-!
# The editable day

At any time one day can be edited.  It is today in the zone of the site: the day whose page says so,
the only one whose page for editing is shown and for which texts are taken, and the one to which
users are sent from the root.

## Main definitions

* `Site.IsEditable` : the day is shown as one that may be written.

## Main results

* `Site.shows_iff_today`, `Site.edits_iff_today`, `Site.saves_iff_today`,
  `Site.redirects_iff_today` : each of the pages compares the date with today.
* `Site.one_editable_day` : all pages agree on the one editable day.
-/

namespace Daybook

/-- A page is shown, and it says that it may be written. -/
def Response.ShowsEditable (r : Response) : Prop :=
  r.status = 200 ∧ ∃ p, r.content = .page p ∧ p.editable = true

namespace Site

/-- The day of a date is shown to a user as one that may be written. -/
def IsEditable (site : Site) (c : Scene) (s : State) (user : User) (date : String) : Prop :=
  ∃ r, site.AsksAbout c s r .get .entry user date ∧ (site.respond c s r).1.ShowsEditable

variable {site : Site} {c : Scene} {s : State} {r : Request} {user : User} {date : String}

/-! ### Today -/

/-- Today is the text of a day, unless its year is out of the range of texts. -/
theorem parse?_today (hlow : 0 ≤ (site.zone.dateAt c.now.seconds).year)
    (hhigh : (site.zone.dateAt c.now.seconds).year ≤ 9999) :
    Date.parse? (Journal.today site.zone c.now) = some (site.zone.dateAt c.now.seconds) :=
  Date.parse?_eq_some_iff_eq_text.2 ⟨rfl, Date.valid_ofDayNumber _, hlow, hhigh⟩

section

variable (hc : c.InMemory) {today : Date}
  (htoday : Date.parse? (Journal.today site.zone c.now) = some today)

include hc htoday

/-- The page that says that it may be written is that of today. -/
theorem shows_iff_today (h : site.AsksAbout c s r .get .entry user date) :
    (site.respond c s r).1.ShowsEditable ↔ date = Journal.today site.zone c.now := by
  cases hdate : Date.parse? date with
  | none =>
    obtain ⟨p, hp⟩ := site.showEntry_of_none (c := c) s.called user hdate
    have hne : date ≠ Journal.today site.zone c.now := by
      rintro rfl
      rw [hdate] at htoday
      cases htoday
    simp only [Response.ShowsEditable, h.respond_entry hc, refresh_status, hp, answer, hne,
      p.response_status_ne, false_and]
  | some d =>
    obtain ⟨hstatus, hcontent⟩ := h.shown hc hdate
    simp [Response.ShowsEditable, hstatus, hcontent]

/-- The page for editing is shown for today. -/
theorem edits_iff_today (h : site.AsksAbout c s r .get .editing user date) :
    (site.respond c s r).1.status = 200 ↔ date = Journal.today site.zone c.now := by
  rw [h.respond_editing hc, refresh_status]
  by_cases hdate : date = Journal.today site.zone c.now
  · rw [site.editEntry_of_today s.called user hc (hdate ▸ htoday) hdate]
    exact iff_of_true rfl hdate
  · obtain ⟨p, hp⟩ := site.editEntry_of_ne (c := c) s.called user hdate
    rw [hp]
    exact iff_of_false p.response_status_ne hdate

/-- Texts are taken for today. -/
theorem saves_iff_today (h : site.AsksAbout c s r .post .entry user date) {sent : Submission}
    (hsent : submission r = .ok sent) :
    (site.respond c s r).1.status = 200 ↔ date = Journal.today site.zone c.now := by
  rw [h.respond_saving hc, refresh_status]
  constructor
  · intro hstatus
    rcases site.saveEntry_cases user r date c s.called with ⟨⟨p, hp⟩, -⟩ | ⟨_, _, -, -, hdate, -⟩
    · rw [hp] at hstatus
      exact absurd hstatus p.response_status_ne
    · exact hdate
  · intro hdate
    have hvalid : Date.isValidText date = true := Option.isSome_iff_exists.2 ⟨_, hdate ▸ htoday⟩
    obtain ⟨e, hok, -⟩ := site.saveEntry_of_inMemory user hc hvalid hsent hdate s.called
    rw [hok]
    rfl

end

/-- Users are sent from the root to the page of today. -/
theorem redirects_iff_today (hc : c.InMemory) (h : site.AsksFor c s r .get .root user) :
    (site.respond c s r).1.status = 302 ∧
        (site.respond c s r).1.location = some ("/entries/" ++ date) ↔
      date = Journal.today site.zone c.now := by
  rw [h.respond_get hc, refresh_status, refresh_location]
  change 302 = 302 ∧ some ("/entries/" ++ Journal.today site.zone c.now) = _ ↔ _
  simp [eq_comm]

/-! ### Other pages of the same moment -/

/-- All months that are shown name today. -/
theorem today_of_month (hc : c.InMemory) {raw : String}
    (h : site.AsksFor c s r .get (.calendar raw) user) {v : MonthView}
    (hv : (site.respond c s r).1.content = .month v) : v.today = Journal.today site.zone c.now := by
  rw [h.respond_get hc, refresh_content] at hv
  simp only [pageMethods] at hv
  cases hraw : dateIn? raw with
  | none =>
    rw [pathDate_of_none hraw] at hv
    cases hv
  | some date =>
    rw [pathDate_of_some hraw] at hv
    cases hdate : Date.parse? date with
    | none =>
      obtain ⟨p, hp⟩ := site.showCalendar_of_none (c := c) s.called user hdate
      rw [hp] at hv
      cases p <;> cases hv
    | some d =>
      rw [site.showCalendar_of_parse? s.called user hc hdate] at hv
      cases hv
      rfl

/-- The page of today and the page for editing it show the same entry. -/
theorem pages_of_today (hc : c.InMemory) {today : Date} {r' : Request}
    (htoday : Date.parse? (Journal.today site.zone c.now) = some today)
    (h : site.AsksAbout c s r .get .entry user (Journal.today site.zone c.now))
    (h' : site.AsksAbout c s r' .get .editing user (Journal.today site.zone c.now)) :
    ∃ p, (site.respond c s r).1.content = .page p ∧ (site.respond c s r').1.content = .page p := by
  refine ⟨_, (h.shown hc htoday).2, ?_⟩
  rw [h'.respond_editing hc, refresh_content, site.editEntry_of_today s.called user hc htoday rfl]
  simp [answer, Response.of]

/-! ### The one editable day -/

/-- All pages agree on the one editable day.  In a state and at a time, for a user who is logged in,
these are the same for every date: its page says that it may be written, its page for editing is
shown, the root leads to it, and a submission for it is answered with success, if its payload is
announced as JSON, within the limit and can be decoded, as all JSON texts can that submit a text.
That is so for exactly one date.  All months name this date as today, and its page and its page for
editing show the same text, saved or not. -/
theorem one_editable_day (site : Site) (c : Scene) (s : State) (r : Request) (user : User)
    (hc : c.InMemory) (howner : site.userOf? r c.now s.users = some user)
    (hlow : 0 ≤ (site.zone.dateAt c.now.seconds).year)
    (hhigh : (site.zone.dateAt c.now.seconds).year ≤ 9999) :
    (∀ (date : String) (view edit root : Request),
        site.AsksAbout c s view .get .entry user date →
        site.AsksAbout c s edit .get .editing user date → site.AsksFor c s root .get .root user →
          [(site.respond c s view).1.ShowsEditable, (site.respond c s edit).1.status = 200,
            (site.respond c s root).1.status = 302 ∧
              (site.respond c s root).1.location = some ("/entries/" ++ date)].TFAE ∧
          ∀ send : Request, site.AsksAbout c s send .post .entry user date →
            announcesJson send = true → send.body.length ≤ bodyLimit →
            (∃ sent, Submission.codec.decodeStart send.body = .ok sent) →
              ((site.respond c s send).1.status = 200 ↔
                (site.respond c s view).1.ShowsEditable)) ∧
      (∀ (text : String) (payload : Bytes), Submission.Spells text payload →
        Submission.codec.decodeStart payload = .ok ⟨text⟩) ∧
      (∃! date, site.IsEditable c s user date) ∧
      ∀ date, site.IsEditable c s user date →
        (∀ (calendar : Request) (raw : String) (v : MonthView),
            site.AsksFor c s calendar .get (.calendar raw) user →
              (site.respond c s calendar).1.content = .month v → v.today = date) ∧
          ∀ view edit : Request, site.AsksAbout c s view .get .entry user date →
            site.AsksAbout c s edit .get .editing user date →
              ∃ p q : Page, (site.respond c s view).1.content = .page p ∧
                (site.respond c s edit).1.content = .page q ∧
                p.body = q.body ∧ p.saved = q.saved ∧ p.charCount = q.charCount := by
  have htoday := parse?_today hlow hhigh
  have htoday_of {date : String} (h : site.IsEditable c s user date) :
      date = Journal.today site.zone c.now := by
    obtain ⟨view, hview, hshows⟩ := h
    exact (shows_iff_today hc htoday hview).1 hshows
  refine ⟨?_, fun _ _ h => h.decodeStart,
    ⟨Journal.today site.zone c.now, ?_, fun date h => htoday_of h⟩, ?_⟩
  · intro date view edit root hview hedit hroot
    constructor
    · refine List.tfae_of_forall (date = Journal.today site.zone c.now) _ ?_
      simp only [List.forall_mem_cons]
      exact ⟨shows_iff_today hc htoday hview, edits_iff_today hc htoday hedit,
        redirects_iff_today hc hroot, fun _ h => absurd h List.not_mem_nil⟩
    · intro send hsend hjson hlimit ⟨sent, hdecoded⟩
      have hsent := submission_of_decodeStart hjson hlimit hdecoded
      exact (saves_iff_today hc htoday hsend hsent).trans (shows_iff_today hc htoday hview).symm
  · -- the request of the same session for the page of today
    let view : Request :=
      { r with method := .get, path := "/entries/" ++ Journal.today site.zone c.now }
    have hview : site.AsksAbout c s view .get .entry user (Journal.today site.zone c.now) :=
      ⟨_, ⟨rfl, ofPath?_text hlow, howner⟩, dateIn?_text hlow⟩
    exact ⟨view, hview, (shows_iff_today hc htoday hview).2 rfl⟩
  · intro date h
    obtain rfl := htoday_of h
    refine ⟨fun calendar raw v hcalendar hv => today_of_month hc hcalendar hv,
      fun view edit hview hedit => ?_⟩
    obtain ⟨p, hp, hp'⟩ := pages_of_today hc htoday hview hedit
    exact ⟨p, p, hp, hp', rfl, rfl, rfl⟩

end Site

/-! ### The visitor at the start -/

namespace Sample

/-- The visitor asks for a path by some method, with a payload. -/
def asking (method : Method) (path payload : String) : Request :=
  { submission with method := method, path := path, body := Utf8.encode payload }

/-- A request of the visitor, after the arrival, is answered by a response with some property. -/
def Answered (r : Request) (P : Response → Prop) : Prop :=
  P ((site .utc).respond (scene sentAt) ((site .utc).after .initial [arrivedAgain]) r).1

theorem userOf?_asking (method : Method) (path payload : String) (us : Users) :
    (site .utc).userOf? (asking method path payload) sentAt us =
      (site .utc).userOf? submission sentAt us :=
  rfl

/-- The visitor may edit 7 November, and the root leads there.  For the day before, no page says
that it may be edited, the page for editing is not shown, and the payload is not taken. -/
theorem visitor_edits_today :
    (Answered (asking .get "/entries/2010-11-07" "") Response.ShowsEditable ∧
        Answered (asking .get "/entries/2010-11-07/edit" "") (·.status = 200) ∧
        Answered (asking .post "/entries/2010-11-07" spacedPayload) (·.status = 200) ∧
        Answered (asking .get "/" "") (·.location = some "/entries/2010-11-07")) ∧
      ¬Answered (asking .get "/entries/2010-11-06" "") Response.ShowsEditable ∧
        ¬Answered (asking .get "/entries/2010-11-06/edit" "") (·.status = 200) ∧
        ¬Answered (asking .post "/entries/2010-11-06" spacedPayload) (·.status = 200) := by
  obtain ⟨user, howner, -⟩ := userOf?_visitor .utc (r := submission) rfl account_visitor
  obtain ⟨hdays, hpayloads, -⟩ := (site .utc).one_editable_day (scene sentAt)
    ((site .utc).after .initial [arrivedAgain]) submission user (inMemory_scene _) howner
    (by decide) (by decide)
  have hasks {method : Method} {path payload : String} {p : PageRoute}
      (hroute : Route.ofPath? path = some (.page p)) :
      (site .utc).AsksFor (scene sentAt) ((site .utc).after .initial [arrivedAgain])
        (asking method path payload) method p user :=
    ⟨rfl, hroute, (userOf?_asking ..).trans howner⟩
  have hroot : (site .utc).AsksFor (scene sentAt) ((site .utc).after .initial [arrivedAgain])
      (asking .get "/" "") .get .root user := hasks (by decide)
  have hjson : Site.announcesJson submission = true := by decide
  have hlimit : (Utf8.encode spacedPayload).length ≤ Site.bodyLimit := by decide
  -- for a day with its two paths, the root decides, and the other requests follow it
  have hagree (date path editPath : String)
      (hpath : Route.ofPath? path = some (.page (.entry date)))
      (hedit : Route.ofPath? editPath = some (.page (.editing date)))
      (hdate : Site.dateIn? date = some date) :
      (Answered (asking .get path "") Response.ShowsEditable ↔
          date = Journal.today .utc sentAt) ∧
        (Answered (asking .get editPath "") (·.status = 200) ↔
          date = Journal.today .utc sentAt) ∧
        (Answered (asking .post path spacedPayload) (·.status = 200) ↔
          date = Journal.today .utc sentAt) := by
    obtain ⟨hpages, hsend⟩ := hdays date _ _ _ ⟨date, hasks hpath, hdate⟩
      ⟨date, hasks hedit, hdate⟩ hroot
    obtain ⟨hview, hrest⟩ := List.tfae_cons_cons.1 hpages
    obtain ⟨hedits, -⟩ := List.tfae_cons_cons.1 hrest
    have hleads := hedits.trans (Site.redirects_iff_today (inMemory_scene _) hroot)
    have hshows := hview.trans hleads
    have hsaves := hsend (asking .post path spacedPayload) ⟨date, hasks hpath, hdate⟩ hjson
      hlimit ⟨_, hpayloads _ _ spells_spaced⟩
    exact ⟨hshows, hleads, hsaves.trans hshows⟩
  have htoday : "2010-11-07" = Journal.today .utc sentAt := by decide
  have hyesterday : "2010-11-06" ≠ Journal.today .utc sentAt := by decide
  constructor
  · obtain ⟨hview, hedit, hsend⟩ := hagree "2010-11-07" "/entries/2010-11-07"
      "/entries/2010-11-07/edit" (by decide) (by decide) (by decide)
    have hleads := (Site.redirects_iff_today (inMemory_scene _) hroot).2 htoday
    exact ⟨hview.2 htoday, hedit.2 htoday, hsend.2 htoday, hleads.2.trans (by decide)⟩
  · obtain ⟨hview, hedit, hsend⟩ := hagree "2010-11-06" "/entries/2010-11-06"
      "/entries/2010-11-06/edit" (by decide) (by decide) (by decide)
    exact ⟨mt hview.1 hyesterday, mt hedit.1 hyesterday, mt hsend.1 hyesterday⟩

end Sample

end Daybook
