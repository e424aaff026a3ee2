import Daybook.Proofs.Http.FormText
import Daybook.Proofs.Service.Marks
import Daybook.Proofs.Site.Effect

/-!
# What users are shown

With a store in memory, this is what a user who is logged in is answered, page by page.  The page of
a day is shown when the date in the path is the written form of a day, and it is that of the entry
that is kept, or of an empty one.

## Main definitions

* `Site.AsksFor`, `Site.AsksAbout` : a user who is logged in asks for a page, or for a page of a
  date.
* `State.pageAt` : the page of a user's day.

## Main results

* `Site.dateIn?_text`, `Site.ofPath?_text` : the written form of a day as part of a path.
* `Site.AsksFor.respond_get`, `Site.AsksFor.respond_post` : the responses to those who are logged
  in.
* `Site.showEntry_of_parse?`, `Site.editEntry_of_today` : what is shown of a day.
* `Site.showCalendar_of_parse?` : what is shown of the month of a day.
-/

namespace Daybook

/-! ### The addresses of days -/

namespace Site

section

variable {d : Date}

/-- The text of a day stands for itself in a path. -/
theorem dateIn?_text (h : 0 ≤ d.year) : dateIn? d.text = some d.text := by
  have hnot : 0x25 ∉ Utf8.encode d.text := by
    rw [← Utf8.bytes_toList]
    intro hmem
    have hc := Date.isDigit_or_hyphen_of_mem_text h '%' (Utf8.mem_of_mem_bytes (by decide) hmem)
    revert hc
    decide
  rw [dateIn?, Percent.decode_of_notMem hnot, Utf8.decode?_encode]

/-- The path that ends with the text of a day leads to the page of the day. -/
theorem ofPath?_text (h : 0 ≤ d.year) :
    Route.ofPath? ("/entries/" ++ d.text) = some (.page (.entry d.text)) := by
  have hslash : '/' ∉ d.text.toList := by
    intro hmem
    have hc := Date.isDigit_or_hyphen_of_mem_text h '/' hmem
    revert hc
    decide
  have hne : d.text.isEmpty = false := by
    rw [Bool.eq_false_iff]
    intro he
    have hlist := congrArg String.toList (String.isEmpty_iff.1 he)
    rw [Date.toList_text] at hlist
    simp at hlist
  have hpath : ("/entries/" ++ d.text).toList =
      '/' :: ("entries".toList ++ '/' :: d.text.toList) := by
    rw [String.toList_append]
    rfl
  rw [Route.ofPath?, hpath]
  simp only
  rw [Text.pieces_append (by decide), Text.pieces_of_notMem hslash]
  simp [Route.ofSegments?, Route.ofEntrySegments?, hne]

end

/-! ### Those who are logged in -/

/-- A user who is logged in asks for a page by some method. -/
structure AsksFor (site : Site) (c : Scene) (s : State) (r : Request) (method : Method)
    (p : PageRoute) (user : User) : Prop where
  method_eq : r.method = method
  route : Route.ofPath? r.path = some (.page p)
  owner : site.userOf? r c.now s.users = some user

/-- A user who is logged in asks for a page of a date, which may be encoded in the path. -/
def AsksAbout (site : Site) (c : Scene) (s : State) (r : Request) (method : Method)
    (page : String → PageRoute) (user : User) (date : String) : Prop :=
  ∃ raw, site.AsksFor c s r method (page raw) user ∧ dateIn? raw = some date

namespace AsksFor

variable {site : Site} {c : Scene} {s : State} {r : Request} {p : PageRoute} {user : User}

/-- A page is read by those who are logged in, and their session is refreshed. -/
theorem respond_get (h : site.AsksFor c s r .get p user) (hc : c.InMemory) :
    (site.respond c s r).1 = site.refresh (site.session r c.now) c.now
      (answer ((site.pageMethods r p).get user c s.called).result) := by
  have hhandle := site.handle_page h.route (hc.users s.calls) h.owner
  rw [site.respond_of_handle (congrArg Outcome.result hhandle)]
  simp only [pageAction, h.method_eq, Methods.chosen, Methods.dressed]

/-- So is a submission made. -/
theorem respond_post {raw : String} (h : site.AsksFor c s r .post (.entry raw) user)
    (hc : c.InMemory) :
    (site.respond c s r).1 = site.refresh (site.session r c.now) c.now
      (answer (pathDate raw (site.saveEntry user r) c s.called).result) := by
  have hhandle := (congrFun (congrFun (site.handle_submission h.method_eq h.route) c) s).trans
    (site.guard_of_user (hc.users s.calls) h.owner _)
  rw [site.respond_of_handle (congrArg Outcome.result hhandle)]

end AsksFor

/-! ### Pages of days -/

/-- The first thing that is looked at is the date. -/
theorem checkDate_bind_of_some {α : Type} {date : String} {d : Date}
    (h : Date.parse? date = some d) (f : Date → Action Problem α) (c : Scene) (s : State) :
    (checkDate date >>= f) c s = f d c s := by
  have hread : (Date.read date).mapError Problem.ofDateError = .ok d := by
    simp only [Date.read, h, Except.mapError]
  rw [checkDate, hread, Action.ofExcept_ok_bind]

theorem checkDate_bind_of_none {α : Type} {date : String} (h : Date.parse? date = none)
    (f : Date → Action Problem α) (c : Scene) (s : State) :
    (checkDate date >>= f) c s = ⟨.error (.ofDateError (.invalidDate date)), s, []⟩ := by
  have hread : (Date.read date).mapError Problem.ofDateError =
      .error (.ofDateError (.invalidDate date)) := by
    simp only [Date.read, h, Except.mapError]
  rw [checkDate, hread, Action.ofExcept_error_bind]

end Site

/-- The page of a user's day: that of the entry that is kept, or of an empty one with the identifier
that is drawn next. -/
def State.pageAt (s : State) (c : Scene) (user : Uuid) (date : String) (editable : Bool) : Page :=
  match s.entries.find? user date with
  | some e => .ofEntry e editable true
  | none => .ofEntry (Entry.blank (c.freshId s.drawn) user date c.now) editable false

namespace State

variable (s : State) (c : Scene) (user : Uuid) (date : String) (editable : Bool)

@[simp]
theorem pageAt_called : s.called.pageAt c user date editable = s.pageAt c user date editable :=
  rfl

@[simp]
theorem editable_pageAt : (s.pageAt c user date editable).editable = editable := by
  unfold pageAt
  split <;> rfl

/-- The page of a day with an entry is that of the entry. -/
theorem pageAt_of_kept {e : Entry} (he : s.entries.find? user date = some e) :
    s.pageAt c user date editable = .ofEntry e editable true := by
  rw [pageAt, he]

@[simp]
theorem saved_pageAt :
    (s.pageAt c user date editable).saved = (s.entries.find? user date).isSome := by
  unfold pageAt
  split <;> simp [Page.ofEntry, *]

end State

namespace Site

variable (site : Site) {c : Scene} (s : State) (user : User) {date : String}

/-- In memory, the page of a day is found. -/
theorem pageOf_of_inMemory (hc : c.InMemory) (date : String) (editable : Bool) :
    (pageOf user date editable c s).result =
      .ok (.of 200 (.page (s.pageAt c user.id date editable))) := by
  have hfind : (Journal.find user.id date).mapError Problem.ofStoreError c s =
      ⟨.ok (s.entries.find? user.id date), s.called, []⟩ := by
    simp only [Journal.find, Action.during, Action.mapError,
      Action.getEntry_of_service (hc.entries s.calls), Except.mapError]
  unfold pageOf
  rw [Action.bind_of_ok (congrArg Outcome.result hfind), hfind]
  simp only [State.pageAt]
  cases s.entries.find? user.id date <;> rfl

/-- The page of a day is shown; it may be written on that very day. -/
theorem showEntry_of_parse? (hc : c.InMemory) {d : Date} (h : Date.parse? date = some d) :
    (site.showEntry user date c s).result =
      .ok (.of 200
        (.page (s.pageAt c user.id date (date = Journal.today site.zone c.now)))) := by
  rw [showEntry, checkDate_bind_of_some h, Action.now_bind, pageOf_of_inMemory s user hc]

/-- On that day it is shown to be edited too. -/
theorem editEntry_of_today (hc : c.InMemory) {d : Date} (h : Date.parse? date = some d)
    (htoday : date = Journal.today site.zone c.now) :
    (site.editEntry user date c s).result =
      .ok (.of 200 (.page (s.pageAt c user.id date true))) := by
  rw [editEntry, checkDate_bind_of_some h, Action.now_bind, if_pos htoday,
    pageOf_of_inMemory s user hc]

/-- On other days it is not. -/
theorem editEntry_of_ne (hne : date ≠ Journal.today site.zone c.now) :
    ∃ p, (site.editEntry user date c s).result = .error p := by
  cases h : Date.parse? date with
  | none => exact ⟨_, by rw [editEntry, checkDate_bind_of_none h]⟩
  | some d =>
    refine ⟨.ofSaveError .notEditable, ?_⟩
    rw [editEntry, checkDate_bind_of_some h, Action.now_bind, if_neg hne]
    rfl

/-- What is not the text of a day has no page. -/
theorem showEntry_of_none (h : Date.parse? date = none) :
    ∃ p, (site.showEntry user date c s).result = .error p :=
  ⟨_, by rw [showEntry, checkDate_bind_of_none h]⟩

/-- The month of a day is shown. -/
theorem showCalendar_of_parse? (hc : c.InMemory) {d : Date} (h : Date.parse? date = some d) :
    (site.showCalendar user date c s).result =
      .ok (.of 200 (.month (s.monthAt user.id site.zone (site.zone.startOfDay d) c.now))) := by
  rw [showCalendar, checkDate_bind_of_some h, Action.now_bind,
    Action.bind_of_ok (Action.mapError_of_ok _ (Journal.month_of_inMemory hc s _ _ _ _))]
  rfl

/-- What is not the text of a day has no month. -/
theorem showCalendar_of_none (h : Date.parse? date = none) :
    ∃ p, (site.showCalendar user date c s).result = .error p :=
  ⟨_, by rw [showCalendar, checkDate_bind_of_none h]⟩

/-! ### Responses -/

namespace AsksAbout

variable {site : Site} {c : Scene} {s : State} {r : Request} {user : User} {date : String}

/-- The date in the path is decoded before the page is looked for. -/
theorem respond_entry (h : site.AsksAbout c s r .get .entry user date) (hc : c.InMemory) :
    (site.respond c s r).1 = site.refresh (site.session r c.now) c.now
      (answer (site.showEntry user date c s.called).result) := by
  obtain ⟨raw, hasks, hdecoded⟩ := h
  rw [hasks.respond_get hc]
  simp only [pageMethods, pathDate_of_some hdecoded]

theorem respond_editing (h : site.AsksAbout c s r .get .editing user date) (hc : c.InMemory) :
    (site.respond c s r).1 = site.refresh (site.session r c.now) c.now
      (answer (site.editEntry user date c s.called).result) := by
  obtain ⟨raw, hasks, hdecoded⟩ := h
  rw [hasks.respond_get hc]
  simp only [pageMethods, pathDate_of_some hdecoded]

theorem respond_calendar (h : site.AsksAbout c s r .get .calendar user date) (hc : c.InMemory) :
    (site.respond c s r).1 = site.refresh (site.session r c.now) c.now
      (answer (site.showCalendar user date c s.called).result) := by
  obtain ⟨raw, hasks, hdecoded⟩ := h
  rw [hasks.respond_get hc]
  simp only [pageMethods, pathDate_of_some hdecoded]

theorem respond_saving (h : site.AsksAbout c s r .post .entry user date) (hc : c.InMemory) :
    (site.respond c s r).1 = site.refresh (site.session r c.now) c.now
      (answer (site.saveEntry user r date c s.called).result) := by
  obtain ⟨raw, hasks, hdecoded⟩ := h
  rw [hasks.respond_post hc, pathDate_of_some hdecoded]

/-- The page of a day is shown to a user who asks for it. -/
theorem shown (h : site.AsksAbout c s r .get .entry user date) (hc : c.InMemory) {d : Date}
    (hdate : Date.parse? date = some d) :
    (site.respond c s r).1.status = 200 ∧
      (site.respond c s r).1.content =
        .page (s.pageAt c user.id date (date = Journal.today site.zone c.now)) := by
  rw [h.respond_entry hc, refresh_status, refresh_content,
    site.showEntry_of_parse? s.called user hc hdate]
  exact ⟨rfl, rfl⟩

/-- The month of a day is shown to a user who asks for it. -/
theorem shown_month (h : site.AsksAbout c s r .get .calendar user date) (hc : c.InMemory) {d : Date}
    (hdate : Date.parse? date = some d) :
    (site.respond c s r).1.status = 200 ∧
      (site.respond c s r).1.content =
        .month (s.monthAt user.id site.zone (site.zone.startOfDay d) c.now) := by
  rw [h.respond_calendar hc, refresh_status, refresh_content,
    site.showCalendar_of_parse? s.called user hc hdate]
  exact ⟨rfl, rfl⟩

end AsksAbout

end Site

end Daybook
