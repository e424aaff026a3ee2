import Daybook.Proofs.Site.Atomicity
import Daybook.Proofs.Site.Dialog
import Daybook.Proofs.Site.ServerSession

/-!
# Renewal of the token

A visitor who asks for a page more than a day after the token was issued is given a new token.  At
every visit the token is then a day old at most, so that it lasts until the next visit if this comes
within the lifetime of a token without its first day.  Half a lifetime is within that bound, except
for tokens that live for one day: they are never replaced before they expire.

## Main definitions

* `Site.Active` : a browser asks for pages often enough.
* `Site.Bears` : a browser bears the token of a user who has an account.

## Main results

* `Site.LogsIn.bears` : the token that is given at the login.
* `Site.Bears.page`, `Site.Bears.expired` : a visit before and after the token has expired.
* `Site.Bears.browse` : the browser is not sent to the login page as long as it is active.
* `Site.Bears.lost` : it is sent there when it comes late once the token was not renewed.
* `Site.never_sent_to_login` : half a lifetime is often enough if a token lives for two days.
* `Sample.login_lost` : it is not if a token lives for one day.
-/

namespace Daybook.Site

variable (site : Site)

/-- A browser is *active* after a time when all its visits are to pages, each of them at most a
number of seconds after the one before. -/
def Active (gap : Int) : Int → List Turn → Prop
  | _, [] => True
  | last, .other _ :: turns => Active gap last turns
  | last, .own v :: turns =>
    v.scene.InMemory ∧ (∃ p, Route.ofPath? v.request.path = some (.page p)) ∧
      last ≤ v.scene.now.seconds ∧ v.scene.now.seconds ≤ last + gap ∧
      Active gap v.scene.now.seconds turns

/-- A browser *bears* the token of a user who has an account, as it was issued at a time. -/
structure Bears (s : State) (token : Option String) (t : Instant) (id : Uuid)
    (pending : List String) : Prop where
  token_eq : token = some (Session.issueToken site.settings t (some id) pending)
  account : ∃ u, s.users.get? id = some u

variable {site} {s : State} {token : Option String} {t : Instant} {id : Uuid}
  {pending : List String} {v : Visit}

/-- The visits of others leave the account. -/
theorem Bears.other (h : site.Bears s token t id pending) (v : Visit) :
    site.Bears (site.respond v.scene s v.request).2.1 token t id pending :=
  ⟨h.token_eq, exists_account_respond _ _ _ h.account⟩

section

variable (hs : Session.KeptForDays site.settings)
  (hname : site.settings.cookieName = Settings.cookieName)

include hs hname

/-! ### Logging in -/

/-- A browser that logs in is given the token of a user who has an account. -/
theorem LogsIn.bears (hfiled : s.users.Filed) (hget : v.request.method = .get)
    (h : LogsIn v.request (site.respondBearing s token v).1) :
    let entered := site.respondBearing s token v
    ∃ id pending, site.Bears entered.2.1 (kept token entered.1) v.scene.now id pending := by
  intro entered
  let r := v.request.bearing site.settings.cookieName token
  have hentered : entered = (answer (site.callback r v.scene s).result,
      (site.callback r v.scene s).state, (site.callback r v.scene s).asked) :=
    respond_callback h.1 hget
  have hlocation : entered.1.location = some "/" := h.2.2
  cases hfields : Form.repeated? ["code", "error"] (Form.parse (Utf8.encode r.query)) with
  | some name =>
    rw [hentered, callback_of_repeated hfields] at hlocation
    cases hlocation
  | none =>
    rw [callback_of_fields hfields] at hentered
    rw [hentered] at hlocation ⊢
    cases hresult : (site.identify (Form.value? "code" (Form.parse (Utf8.encode r.query)))
        (Form.value? "error" (Form.parse (Utf8.encode r.query))) v.scene s).result with
    | ok user =>
      refine ⟨user.id, (site.session r v.scene.now).flashes, ?_,
        ⟨_, get?_of_identify hfiled hresult⟩⟩
      simp only [answer, afterDialog, kept,
        redirect_of_isHeaderText (isHeaderText_setCookie_named hname _ _),
        Session.received_setCookie hs (isPlain_cookieName hname).2]
      rfl
    | error problem =>
      simp only [answer, hresult] at hlocation
      cases problem with
      | unauthorized reason =>
        rw [afterDialog, redirect_location (isHeaderText_setCookie_named hname _ _)] at hlocation
        exact absurd (Option.some.inj hlocation) (by decide)
      | _ => cases hlocation

/-- Those who are admitted log in. -/
theorem Admits.logsIn {c : Scene} {r : Request} {p : Profile} {asked : List String}
    (hnow : 60 ≤ c.now.seconds) (hroute : Route.ofPath? r.path = some .callback)
    (hget : r.method = .get)
    (hfields : Form.repeated? ["code", "error"] (Form.parse (Utf8.encode r.query)) = none)
    (h : site.Admits c s (Form.value? "code" (Form.parse (Utf8.encode r.query)))
      (Form.value? "error" (Form.parse (Utf8.encode r.query))) p asked) :
    LogsIn r (site.respond c s r).1 := by
  have hheader : isHeaderText site.settings.cookieName = true :=
    hname ▸ Settings.isHeaderText_cookieName
  obtain ⟨u, hu⟩ := welcomed_of_admits hs hheader hnow (site.session r c.now) h
  obtain ⟨cookie, -, hto⟩ := hu.response
  rw [respond_callback hroute hget, callback_of_fields hfields, answer, hto]
  exact ⟨hroute, rfl, rfl⟩

/-! ### One visit -/

/-- The session that the token opens, which is empty once the token has expired. -/
theorem Bears.session (h : site.Bears s token t id pending) (ht : 60 ≤ t.seconds) {now : Instant}
    (hnow : t.seconds ≤ now.seconds) (r : Request) :
    site.session (r.bearing site.settings.cookieName token) now =
      if now.seconds ≤ t.seconds + site.settings.sessionDays.toInt * 86400 + 60 then
        ⟨some id, pending,
          some (Session.claimsAt site.settings t (some id) pending).issuedAt, false⟩
      else .empty := by
  obtain ⟨hne, hplain⟩ := isPlain_cookieName hname
  have htoken : ∀ u ∈ some (Session.issueToken site.settings t (some id) pending),
      ∀ c ∈ u.toList, Cookie.IsPlain c := by
    rintro u ⟨⟩
    exact Session.isPlain_of_mem_issueToken
  rw [h.token_eq, site.session_bearing hne hplain r htoken]
  simp only [Session.ofToken, Session.verify_claimsAt hs ht (Int.le_trans ht hnow)]
  split_ifs <;> rfl

omit hs in
/-- A stale session is given a new token, and any other keeps the one that it has. -/
theorem kept_refresh (x : Session) (now : Instant) {response : Response}
    (hplain : response.setCookie = none) :
    kept token (site.refresh x now response) =
      if x.isStale now then Cookie.received (x.setCookie site.settings now) else token := by
  cases hstale : x.isStale now with
  | true =>
    simp only [refresh, hstale, hplain, isHeaderText_setCookie_named hname]
    rfl
  | false =>
    simp only [refresh, hstale, Bool.false_and, Bool.false_eq_true, if_false, kept, hplain]

section

variable (h : site.Bears s token t id pending) (ht : 60 ≤ t.seconds) {p : PageRoute}
  (hroute : Route.ofPath? v.request.path = some (.page p))
  (hnow : t.seconds ≤ v.scene.now.seconds)

include h ht hroute hnow

/-- A visit to a page while the token is accepted is not sent to the login page.  The browser bears
the same token afterwards, or a new one if the token was more than a day old. -/
theorem Bears.page (hc : v.scene.InMemory)
    (hlate : v.scene.now.seconds ≤ t.seconds + site.settings.sessionDays.toInt * 86400 + 60) :
    let answered := site.respondBearing s token v
    answered.1.location ≠ some "/auth" ∧
      site.Bears answered.2.1 (kept token answered.1)
        (if t.seconds + 86400 < v.scene.now.seconds then v.scene.now else t) id pending := by
  intro answered
  let r := v.request.bearing site.settings.cookieName token
  have hsession := h.session hs hname ht hnow v.request
  rw [if_pos hlate] at hsession
  obtain ⟨u, hget⟩ := h.account
  have howner : site.userOf? r v.scene.now s.users = some u := by
    rw [userOf?, hsession, Option.bind_some, hget]
  have hhandle := site.handle_page (r := r) hroute (hc.users s.calls) howner
  have hstale := Session.isStale_claimsAt site.settings t v.scene.now (some id) pending false
  obtain ⟨hplain, haway⟩ := site.leavesSession_page r p u v.scene s.called
  have hanswered : answered.1 = (site.pageMethods r p).dressed r.method
      (site.refresh (site.session r v.scene.now) v.scene.now
        (answer (site.pageAction r p u v.scene s.called).result)) :=
    congrArg Prod.fst (site.respond_of_handle (congrArg Outcome.result hhandle))
  rw [hsession] at hanswered
  refine ⟨?_, ?_, exists_account_respond _ _ _ h.account⟩
  · rw [hanswered, Methods.dressed_location, refresh_location]
    exact haway
  · have hkept (response : Response) :
        kept token ((site.pageMethods r p).dressed r.method response) = kept token response := by
      rw [kept, kept, Methods.dressed_setCookie]
    rw [hanswered, hkept, kept_refresh hname _ _ hplain, hstale]
    simp only [decide_eq_true_eq]
    split_ifs
    · exact Session.received_setCookie hs (isPlain_cookieName hname).2 _ _
    · exact h.token_eq

/-- A visit to a page is sent to the login page once the token has expired. -/
theorem Bears.expired
    (hlate : t.seconds + site.settings.sessionDays.toInt * 86400 + 60 < v.scene.now.seconds) :
    (site.respondBearing s token v).1.location = some "/auth" := by
  let r := v.request.bearing site.settings.cookieName token
  have hsession := h.session hs hname ht hnow v.request
  rw [if_neg (Int.not_le.2 hlate)] at hsession
  have hguard := site.guard_of_none (r := r) (c := v.scene) (congrArg Session.userId hsession)
  have hhandle : site.handle r v.scene s =
      ⟨.ok ((site.pageMethods r p).dressed r.method site.unauthorized), s, []⟩ := by
    have hroute' : Route.ofPath? r.path = some (.page p) := hroute
    simp only [handle, hroute', serve]
    rw [Methods.serve_apply, hguard]
    rfl
  have hclear : isHeaderText (Cookie.clear site.settings.cookieName) = true :=
    isHeaderText_setCookie_named hname Session.empty v.scene.now
  rw [respondBearing, site.respond_of_handle (congrArg Outcome.result hhandle),
    Methods.dressed_location, unauthorized, redirect_location hclear]

end

/-! ### Runs -/

/-- A browser whose token is a day old at most is not sent to the login page as long as it is
active: every visit comes before the token expires, and leaves it with a token that is a day old at
most. -/
theorem Bears.browse {gap : Int}
    (hgap : gap ≤ (site.settings.sessionDays.toInt - 1) * 86400 + 60) {last : Int}
    {turns : List Turn} (h : site.Bears s token t id pending) (ht : 60 ≤ t.seconds)
    (hlast : t.seconds ≤ last) (hday : last ≤ t.seconds + 86400) (hactive : Active gap last turns) :
    ∀ response ∈ (site.browse s token turns).1, response.location ≠ some "/auth" := by
  induction turns generalizing s token t last with
  | nil => simp [Site.browse]
  | cons turn turns ih =>
    cases turn with
    | other v => exact ih (h.other v) ht hlast hday hactive
    | own v =>
      obtain ⟨hc, ⟨p, hroute⟩, hnow, hsoon, hlater⟩ := hactive
      obtain ⟨haway, hbears⟩ := h.page hs hname ht hroute (Int.le_trans hlast hnow) hc (by omega)
      simp only [Site.browse, List.mem_cons, forall_eq_or_imp]
      refine ⟨haway, ih hbears ?_ ?_ ?_ hlater⟩
      · split_ifs <;> omega
      · split_ifs <;> omega
      · split_ifs <;> omega

/-- Visits on the first day of a token do not renew it, so that a later visit finds it expired. -/
theorem Bears.lost {turns : List Turn} (h : site.Bears s token t id pending) (ht : 60 ≤ t.seconds)
    (hfirst : ∀ v, .own v ∈ turns → v.scene.InMemory ∧
      (∃ p, Route.ofPath? v.request.path = some (.page p)) ∧ t.seconds ≤ v.scene.now.seconds ∧
        v.scene.now.seconds ≤ t.seconds + 86400)
    {later : Visit} {p : PageRoute} (hroute : Route.ofPath? later.request.path = some (.page p))
    (hlate : t.seconds + site.settings.sessionDays.toInt * 86400 + 60 < later.scene.now.seconds) :
    ∃ response ∈ (site.browse s token (turns ++ [.own later])).1,
      response.location = some "/auth" := by
  have hdays := hs.1
  induction turns generalizing s token with
  | nil =>
    have hlost := h.expired hs hname ht hroute (by omega) hlate
    exact ⟨_, List.mem_cons_self, hlost⟩
  | cons turn turns ih =>
    have hfirst' := fun v hv => hfirst v (List.mem_cons_of_mem turn hv)
    cases turn with
    | other v => exact ih (h.other v) hfirst'
    | own v =>
      obtain ⟨hc, ⟨q, hpage⟩, hnow, hsoon⟩ := hfirst v List.mem_cons_self
      obtain ⟨-, hbears⟩ := h.page hs hname ht hpage hnow hc (by omega)
      rw [if_neg (Int.not_lt.2 hsoon)] at hbears
      obtain ⟨response, hmem, hlost⟩ := ih hbears hfirst'
      exact ⟨response, List.mem_cons_of_mem _ hmem, hlost⟩

end

/-- A browser that has logged in, and asks for pages so that no two visits are further apart than
half the lifetime of a token, is never sent to the login page, if a token lives for two days at
least.  Others may visit the site in the meantime. -/
theorem never_sent_to_login (site : Site) (hs : Session.KeptForDays site.settings)
    (hdays : 2 ≤ site.settings.sessionDays.toInt)
    (hname : site.settings.cookieName = Settings.cookieName) (past : List Visit)
    (token : Option String) {login : Visit} (hclock : 60 ≤ login.scene.now.seconds)
    (hget : login.request.method = .get)
    (hlogin : LogsIn login.request (site.respondBearing (site.after .initial past) token login).1)
    {turns : List Turn}
    (hactive : Active (site.settings.sessionDays.toInt * 43200) login.scene.now.seconds turns) :
    let entered := site.respondBearing (site.after .initial past) token login
    ∀ response ∈ (site.browse entered.2.1 (kept token entered.1) turns).1,
      response.location ≠ some "/auth" := by
  obtain ⟨id, pending, hbears⟩ :=
    hlogin.bears hs hname (site.sound_after past).users_filed hget
  exact hbears.browse hs hname (by omega) hclock (Int.le_refl _) (by omega) hactive

end Site

/-! ### Tokens that live for a month, and for a day -/

namespace Sample

/-- A site with tokens that live for a number of days. -/
def siteFor (days : Int64) : Site :=
  { site .utc with settings := { (site .utc).settings with sessionDays := days } }

/-- The visit with which the visitor logs in. -/
def login : Visit :=
  ⟨scene sentAt, arrival⟩

/-- The visitor logs in, however long tokens live. -/
theorem logsIn_login {days : Int64} (hs : Session.KeptForDays (siteFor days).settings) :
    Site.LogsIn arrival ((siteFor days).respondBearing .initial none login).1 := by
  have hroute : Route.ofPath? arrival.path = some .callback := by decide
  obtain ⟨hfields, hcode, herror⟩ := fields_arrival
  have hadmits := admits_scene (siteFor days) sentAt .initial
  rw [← hcode, ← herror] at hadmits
  exact hadmits.logsIn hs rfl (by decide) hroute rfl hfields

/-- The visitor looks at the own account. -/
def look (now : Instant) : Visit :=
  ⟨scene now, ⟨.get, "/auth/me", "", [], []⟩⟩

/-- The visitor returns ten days after the login. -/
def tenDays : List Site.Turn :=
  [.own (look (.atSecond 1289961600 (by decide)))]

/-- A visitor with a token for thirty days is still logged in after ten. -/
theorem still_logged_in :
    Session.KeptForDays (siteFor 30).settings ∧ 2 ≤ (siteFor 30).settings.sessionDays.toInt ∧
      (siteFor 30).settings.cookieName = Settings.cookieName ∧ 60 ≤ login.scene.now.seconds ∧
      login.request.method = .get ∧
      let entered := (siteFor 30).respondBearing ((siteFor 30).after .initial []) none login
      Site.LogsIn login.request entered.1 ∧
        Site.Active ((siteFor 30).settings.sessionDays.toInt * 43200) login.scene.now.seconds
          tenDays ∧
        ∀ response ∈ ((siteFor 30).browse entered.2.1 (Site.kept none entered.1) tenDays).1,
          response.location ≠ some "/auth" := by
  have hs : Session.KeptForDays (siteFor 30).settings := ⟨by decide, by decide⟩
  have hdays : 2 ≤ (siteFor 30).settings.sessionDays.toInt := by decide
  have hclock : 60 ≤ login.scene.now.seconds := by decide
  have hpage : Route.ofPath? "/auth/me" = some (.page .account) := by decide
  have hactive : Site.Active ((siteFor 30).settings.sessionDays.toInt * 43200)
      login.scene.now.seconds tenDays :=
    ⟨inMemory_scene _, ⟨_, hpage⟩, by decide, by decide, trivial⟩
  exact ⟨hs, hdays, rfl, hclock, rfl, logsIn_login hs, hactive,
    (siteFor 30).never_sent_to_login hs hdays rfl [] none hclock rfl (logsIn_login hs) hactive⟩

/-- The visitor looks at the own account every half day, three times. -/
def halfDays : List Site.Turn :=
  [.own (look (.atSecond 1289140800 (by decide))),
   .own (look (.atSecond 1289184000 (by decide))),
   .own (look (.atSecond 1289227200 (by decide)))]

/-- A visitor with a token for one day is sent to the login page, though no visit comes later than
half a day after the one before: the second comes when the token is a day old, which is too early
for a new one, and the third after the token has expired. -/
theorem login_lost :
    Session.KeptForDays (siteFor 1).settings ∧
      (siteFor 1).settings.cookieName = Settings.cookieName ∧ 60 ≤ login.scene.now.seconds ∧
      login.request.method = .get ∧
      let entered := (siteFor 1).respondBearing ((siteFor 1).after .initial []) none login
      Site.LogsIn login.request entered.1 ∧
        Site.Active ((siteFor 1).settings.sessionDays.toInt * 43200) login.scene.now.seconds
          halfDays ∧
        ∃ response ∈ ((siteFor 1).browse entered.2.1 (Site.kept none entered.1) halfDays).1,
          response.location = some "/auth" := by
  have hs : Session.KeptForDays (siteFor 1).settings := ⟨by decide, by decide⟩
  have hclock : 60 ≤ login.scene.now.seconds := by decide
  have hpage : Route.ofPath? "/auth/me" = some (.page .account) := by decide
  have hactive : Site.Active ((siteFor 1).settings.sessionDays.toInt * 43200)
      login.scene.now.seconds halfDays :=
    ⟨inMemory_scene _, ⟨_, hpage⟩, by decide, by decide, inMemory_scene _, ⟨_, hpage⟩, by decide,
      by decide, inMemory_scene _, ⟨_, hpage⟩, by decide, by decide, trivial⟩
  have hfirst : ∀ v, .own v ∈ halfDays.take 2 → v.scene.InMemory ∧
      (∃ p, Route.ofPath? v.request.path = some (.page p)) ∧
        login.scene.now.seconds ≤ v.scene.now.seconds ∧
          v.scene.now.seconds ≤ login.scene.now.seconds + 86400 := by
    intro v hv
    simp only [halfDays, List.take_succ_cons, List.take_zero, List.mem_cons, Site.Turn.own.injEq,
      List.not_mem_nil, or_false] at hv
    rcases hv with rfl | rfl
    · exact ⟨inMemory_scene _, ⟨_, hpage⟩, by decide, by decide⟩
    · exact ⟨inMemory_scene _, ⟨_, hpage⟩, by decide, by decide⟩
  obtain ⟨id, pending, hentered⟩ :=
    (logsIn_login hs).bears hs rfl (v := login) Users.filed_empty rfl
  exact ⟨hs, rfl, hclock, rfl, logsIn_login hs, hactive,
    hentered.lost hs rfl hclock hfirst hpage (by decide)⟩

end Sample

end Daybook
