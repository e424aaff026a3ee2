import Daybook.Proofs.Site.Browser
import Daybook.Proofs.Site.History

/-!
# Sessions without a cookie

The site keeps nothing about its visitors: a session is carried by the cookie of a browser.  A
browser that always sends back the last cookie it was given sees what it would see of a site that
remembers, for this browser, who is logged in and which messages are pending.

## Main definitions

* `ServerSession` : what a site remembers that keeps the sessions itself.
* `Site.answerRemembering` : what such a site answers, and what it remembers then.
* `Turn`, `Site.browse`, `Site.browseRemembering` : a browser and other visitors at either site.
* `Site.InTime` : the browser is never away until its cookie has expired.

## Main results

* `Site.Carries.own` : one visit of the browser is answered alike, and the cookie that it is given
  carries what would be remembered.
* `Site.browse_eq_browseRemembering` : so is every run.
* `Site.inTime_of_within` : the visits within the lifetime of a token are in time.
-/

namespace Daybook

/-- What a site remembers of a browser that keeps the sessions itself: who is logged in, and the
pending messages. -/
structure ServerSession where
  user : Option Uuid
  pending : List String
deriving DecidableEq, Repr

/-- Nothing is remembered. -/
def ServerSession.empty : ServerSession :=
  ⟨none, []⟩

namespace Site

variable (site : Site)

/-! ### A site that remembers -/

/-- The response that sends a browser to an address. -/
def sendTo (location : String) : Response :=
  { Response.of 302 .nothing with location := some location }

/-- What a site that remembers answers to a browser that comes back from the provider's dialog.  A
login is remembered; after a refusal nobody is logged in and a message is pending; anything else
changes nothing. -/
def callbackRemembering (c : Scene) (s : State) (k : ServerSession) (r : Request) :
    Response × State × ServerSession :=
  let fields := Form.parse (Utf8.encode r.query)
  match Form.repeated? ["code", "error"] fields with
  | some name =>
    (.of 400 (.plain ("Failed to deserialize query string: duplicate field `" ++ name ++ "`")), s,
      k)
  | none =>
    let o := site.identify (Form.value? "code" fields) (Form.value? "error" fields) c s
    match o.result with
    | .ok user => (sendTo "/", o.state, { k with user := some user.id })
    | .error (.unauthorized _) => (sendTo "/auth", o.state, ⟨none, k.pending ++ [loginFailed]⟩)
    | .error p => (p.response, o.state, k)

/-- What a site that remembers answers to a browser that asks for a page.  Without a user the
browser is sent to the login page, and nothing is remembered any more. -/
def pageRemembering (c : Scene) (s : State) (k : ServerSession) (r : Request) (p : PageRoute) :
    Response × State × ServerSession :=
  let dressed := (site.pageMethods r p).dressed r.method
  match k.user with
  | none => (dressed (sendTo "/auth"), s, .empty)
  | some id =>
    match s.users.get? id with
    | none => (dressed (sendTo "/auth"), s.called, .empty)
    | some user =>
      let o := site.pageAction r p user c s.called
      (dressed (answer o.result), o.state, k)

/-- What a site that remembers answers when a resource that anybody may read is read; it is never
written. -/
def openRemembering (s : State) (k : ServerSession) (r : Request)
    (read : Response × State × ServerSession) : Response × State × ServerSession :=
  if r.method = .get then read else (notAllowed.allowing "GET,HEAD", s, k)

/-- What a site that remembers answers to a browser, and what it remembers then.  The login page
shows the first pending message and empties them; a logout leaves them pending. -/
def answerRemembering (c : Scene) (s : State) (k : ServerSession) (r : Request) :
    Response × State × ServerSession :=
  match Route.ofPath? r.path with
  | none => (.of 404 .nothing, s, k)
  | some .health => openRemembering s k r (.of 200 .nothing, s, k)
  | some .login =>
    openRemembering s k r
      (.of 200 (.login ⟨Provider.dialogUrl site.endpoints site.settings, k.pending.head?⟩), s,
        { k with pending := [] })
  | some .logout => openRemembering s k r (sendTo "/auth", s, { k with user := none })
  | some .callback => openRemembering s k r (site.callbackRemembering c s k r)
  | some (.page p) => site.pageRemembering c s k r p

/-! ### A browser among other visitors -/

/-- What happens at a site: the browser makes a visit, or somebody else does. -/
inductive Turn where
  | own (v : Visit)
  | other (v : Visit)

/-- What a browser keeps after a response. -/
def kept (token : Option String) (response : Response) : Option String :=
  match response.setCookie with
  | some text => Cookie.received text
  | none => token

/-- The response to a browser that bears a token. -/
def respondBearing (s : State) (token : Option String) (v : Visit) :
    Response × State × List String :=
  site.respond v.scene s (v.request.bearing site.settings.cookieName token)

/-- What a browser is answered that sends back the last cookie it was given, apart from the cookies,
and the state in the end. -/
def browse : State → Option String → List Turn → List Response × State
  | s, _, [] => ([], s)
  | s, token, .other v :: turns => browse (site.respond v.scene s v.request).2.1 token turns
  | s, token, .own v :: turns =>
    let answered := site.respondBearing s token v
    let later := browse answered.2.1 (kept token answered.1) turns
    (answered.1.withoutCookie :: later.1, later.2)

/-- What a browser is answered by a site that remembers, the state in the end, and what is
remembered in the end. -/
def browseRemembering : State → ServerSession → List Turn → List Response × State × ServerSession
  | s, k, [] => ([], s, k)
  | s, k, .other v :: turns => browseRemembering (site.respond v.scene s v.request).2.1 k turns
  | s, k, .own v :: turns =>
    let answered := site.answerRemembering v.scene s k v.request
    let later := browseRemembering answered.2.1 answered.2.2 turns
    (answered.1 :: later.1, later.2)

/-- A visit of a browser is *timely* when the clock has passed the first minute, and the token that
the browser keeps has expired at most a minute ago. -/
def Timely (token : Option String) (now : Instant) : Prop :=
  60 ≤ now.seconds ∧ ∀ expiry ∈ token.bind Token.expiry?, now.seconds ≤ expiry + 60

/-- Every visit of the browser is timely. -/
def InTime : State → Option String → List Turn → Prop
  | _, _, [] => True
  | s, token, .other v :: turns => InTime (site.respond v.scene s v.request).2.1 token turns
  | s, token, .own v :: turns =>
    Timely token v.scene.now ∧
      InTime (site.respondBearing s token v).2.1 (kept token (site.respondBearing s token v).1)
        turns

/-! ### One visit -/

/-- A browser's token *holds* what would be remembered: the token was issued for it, not before some
time, or there is no token and nothing to remember. -/
def Holds (since : Int) (token : Option String) (k : ServerSession) : Prop :=
  token = none ∧ k = .empty ∨
    ∃ t : Instant, since ≤ t.seconds ∧
      token = some (Session.issueToken site.settings t k.user k.pending)

variable {site} {since : Int}

section

variable (hs : Session.KeptForDays site.settings)
  (hname : site.settings.cookieName = Settings.cookieName)

include hname in
theorem isPlain_cookieName : site.settings.cookieName ≠ "" ∧
    ∀ c ∈ site.settings.cookieName.toList, Cookie.IsPlain c := by
  rw [hname]
  exact ⟨by decide, Settings.isPlain_of_mem_cookieName⟩

include hname in
theorem isHeaderText_setCookie_named (x : Session) (now : Instant) :
    isHeaderText (x.setCookie site.settings now) = true :=
  x.isHeaderText_setCookie now (hname ▸ Settings.isHeaderText_cookieName)

include hs hname

/-- A browser that is given a session holds it. -/
theorem holds_received (x : Session) {now : Instant} (hnow : since ≤ now.seconds) :
    site.Holds since (Cookie.received (x.setCookie site.settings now)) ⟨x.userId, x.flashes⟩ := by
  rw [Session.received_setCookie hs (isPlain_cookieName hname).2]
  split_ifs with hempty
  · rw [Bool.and_eq_true, Option.isNone_iff_eq_none, List.isEmpty_iff] at hempty
    exact .inl ⟨rfl, by rw [hempty.1, hempty.2]; rfl⟩
  · exact .inr ⟨now, hnow, rfl⟩

/-- The session that a timely request opens is the one that the token holds. -/
theorem Holds.session (hsince : 60 ≤ since) {token : Option String} {k : ServerSession}
    (h : site.Holds since token k) {now : Instant} (htime : Timely token now) (r : Request) :
    ∃ issuedAt, site.session (r.bearing site.settings.cookieName token) now =
      ⟨k.user, k.pending, issuedAt, false⟩ := by
  obtain ⟨hne, hplain⟩ := isPlain_cookieName hname
  rcases h with ⟨rfl, rfl⟩ | ⟨t, ht, rfl⟩
  · exact ⟨none, site.session_bearing hne hplain r (by simp) now⟩
  · have htoken : ∀ u ∈ some (Session.issueToken site.settings t k.user k.pending),
        ∀ c ∈ u.toList, Cookie.IsPlain c := by
      rintro u ⟨⟩
      exact Session.isPlain_of_mem_issueToken
    have hexpiry : now.seconds ≤ t.seconds + site.settings.sessionDays.toInt * 86400 + 60 := by
      refine htime.2 _ ?_
      rw [Option.bind_some, Session.expiry?_issueToken t k.user k.pending hs, Option.mem_def]
    rw [site.session_bearing hne hplain r htoken]
    simp only [Session.ofToken, Session.verify_claimsAt hs (Int.le_trans hsince ht) htime.1,
      if_pos hexpiry]
    exact ⟨_, rfl⟩

omit hname in
/-- A visit within the lifetime of a token that was issued not before some time is timely. -/
theorem Holds.timely (hsince : 60 ≤ since) {token : Option String} {k : ServerSession}
    (h : site.Holds since token k) {now : Instant} (hnow : since ≤ now.seconds)
    (hlate : now.seconds ≤ since + site.settings.sessionDays.toInt * 86400 + 60) :
    Timely token now := by
  refine ⟨Int.le_trans hsince hnow, fun expiry hexpiry => ?_⟩
  rcases h with ⟨rfl, -⟩ | ⟨t, ht, rfl⟩
  · cases hexpiry
  · rw [Option.bind_some, Session.expiry?_issueToken t k.user k.pending hs, Option.mem_def,
      Option.some.injEq] at hexpiry
    omega

end

/-- A response *agrees* with that of a site that remembers: it is the same apart from the cookie,
the state is the same, and the browser then holds what is remembered. -/
structure Agrees (site : Site) (since : Int) (token : Option String)
    (answered : Response × State × List String)
    (remembered : Response × State × ServerSession) : Prop where
  response : answered.1.withoutCookie = remembered.1
  state : answered.2.1 = remembered.2.1
  holds : site.Holds since (kept token answered.1) remembered.2.2

section

variable (hs : Session.KeptForDays site.settings)
  (hname : site.settings.cookieName = Settings.cookieName)

include hs hname

theorem agrees_redirect {token : Option String} {location : String} (x : Session) {now : Instant}
    (hnow : since ≤ now.seconds) (s : State) (asked : List String) :
    site.Agrees since token (redirect location (x.setCookie site.settings now), s, asked)
      (sendTo location, s, ⟨x.userId, x.flashes⟩) := by
  rw [redirect_of_isHeaderText (isHeaderText_setCookie_named hname x now)]
  exact ⟨rfl, rfl, holds_received hs hname x hnow⟩

variable {token : Option String} {k : ServerSession} {c : Scene} {r : Request}
  {issuedAt : Option Int64}
  (hsession : site.session r c.now = ⟨k.user, k.pending, issuedAt, false⟩)
  (hholds : site.Holds since token k) (hnow : since ≤ c.now.seconds)

include hsession hnow

/-- A logout forgets the user. -/
theorem agrees_logout (s : State) :
    site.Agrees since token
      (answer (site.logout r c s).result, (site.logout r c s).state, (site.logout r c s).asked)
      (sendTo "/auth", s, { k with user := none }) := by
  unfold logout
  rw [Action.now_bind, hsession]
  exact agrees_redirect hs hname _ hnow s _

include hholds

/-- The login page shows the first message that is remembered. -/
theorem agrees_showLogin (s : State) :
    site.Agrees since token
      (answer (site.showLogin r c s).result, (site.showLogin r c s).state,
        (site.showLogin r c s).asked)
      (.of 200 (.login ⟨Provider.dialogUrl site.endpoints site.settings, k.pending.head?⟩), s,
        { k with pending := [] }) := by
  unfold showLogin
  rw [Action.now_bind, hsession]
  obtain ⟨user, _ | ⟨message, pending⟩⟩ := k
  · exact ⟨rfl, rfl, hholds⟩
  · have hcookie := isHeaderText_setCookie_named hname ⟨user, [], issuedAt, true⟩ c.now
    have hheld := holds_received hs hname ⟨user, [], issuedAt, true⟩ hnow
    simp only [Session.takeFlashes, List.isEmpty_cons, Bool.not_false, Bool.or_true, if_true,
      hcookie]
    exact ⟨rfl, rfl, hheld⟩

/-- Those who come back from the provider's dialog are remembered, or the refusal is. -/
theorem agrees_callback (s : State) :
    site.Agrees since token
      (answer (site.callback r c s).result, (site.callback r c s).state,
        (site.callback r c s).asked)
      (site.callbackRemembering c s k r) := by
  cases hrep : Form.repeated? ["code", "error"] (Form.parse (Utf8.encode r.query)) with
  | some name =>
    simp only [callback, callbackRemembering, hrep]
    exact ⟨rfl, rfl, hholds⟩
  | none =>
    simp only [callback, callbackRemembering, hrep]
    rw [Action.now_bind, hsession]
    simp only [Action.settle, answer]
    generalize site.identify (Form.value? "code" (Form.parse (Utf8.encode r.query)))
      (Form.value? "error" (Form.parse (Utf8.encode r.query))) c s = o
    cases o.result with
    | ok user => exact agrees_redirect hs hname _ hnow o.state o.asked
    | error p =>
      cases p with
      | unauthorized reason => exact agrees_redirect hs hname _ hnow o.state o.asked
      | _ => exact ⟨rfl, rfl, hholds⟩

end

/-- A method makes the same of both responses. -/
theorem Agrees.dressed {token : Option String} {response response' : Response} {s s' : State}
    {asked : List String} {k : ServerSession}
    (h : site.Agrees since token (response, s, asked) (response', s', k))
    {α : Type} (ms : Methods α) (method : Method) :
    site.Agrees since token (ms.dressed method response, s, asked)
      (ms.dressed method response', s', k) where
  response :=
    (ms.dressed_withoutCookie method response).trans (congrArg (ms.dressed method) h.response)
  state := h.state
  holds := by
    have hkept : kept token (ms.dressed method response) = kept token response := by
      rw [kept, kept, ms.dressed_setCookie]
    rw [hkept]
    exact h.holds

/-- A resource that anybody may read agrees when its reading does. -/
theorem agrees_open {token : Option String} {k : ServerSession} {c : Scene} {s : State}
    {r : Request} {route : Route} {x : Action Problem Response}
    {read : Response × State × ServerSession} (hholds : site.Holds since token k)
    (hmethod : r.method = .get ∨ r.method = .post) (hroute : Route.ofPath? r.path = some route)
    (hserve : site.serve r route = serve.openTo r x)
    (hread : site.Agrees since token (answer (x c s).result, (x c s).state, (x c s).asked) read) :
    site.Agrees since token (site.respond c s r) (openRemembering s k r read) := by
  have hhandle : site.handle r c s = serve.openTo r x c s := by
    simp only [handle, hroute, hserve]
  rcases hmethod with hm | hm
  · rw [openTo_get x c s hm] at hhandle
    rw [site.respond_of_handle (congrArg Outcome.result hhandle), hhandle, openRemembering,
      if_pos hm]
    exact hread
  · rw [openTo_post x c s hm] at hhandle
    rw [site.respond_of_handle (congrArg Outcome.result hhandle), hhandle, openRemembering,
      if_neg (by rw [hm]; decide)]
    exact ⟨rfl, rfl, hholds⟩

section

variable (hs : Session.KeptForDays site.settings)
  (hname : site.settings.cookieName = Settings.cookieName)
  {token : Option String} {k : ServerSession} {c : Scene} {r : Request}
  {issuedAt : Option Int64}
  (hsession : site.session r c.now = ⟨k.user, k.pending, issuedAt, false⟩)
  (hholds : site.Holds since token k) (hnow : since ≤ c.now.seconds)

include hs hname hnow

/-- A session with a user is given a new token, or keeps the one it has. -/
theorem agrees_refresh (hholds : site.Holds since token k) {response : Response}
    (hresponse : response.setCookie = none) (s : State) (asked : List String) :
    site.Agrees since token
      (site.refresh ⟨k.user, k.pending, issuedAt, false⟩ c.now response, s, asked)
      (response, s, k) where
  response := by rw [refresh_withoutCookie, Response.withoutCookie_of_none hresponse]
  state := rfl
  holds := by
    simp only [refresh]
    split_ifs
    · exact holds_received hs hname ⟨k.user, k.pending, issuedAt, false⟩ hnow
    · rw [kept, hresponse]
      exact hholds

include hsession hholds

/-- A page is shown to the user who is remembered; without one the browser is sent to the login
page. -/
theorem agrees_page {s : State} {p : PageRoute} (hc : c.InMemory)
    (hknown : ∀ id, k.user = some id → ∃ u, s.users.get? id = some u)
    (hroute : Route.ofPath? r.path = some (.page p)) :
    site.Agrees since token (site.respond c s r) (site.pageRemembering c s k r p) := by
  cases huser : k.user with
  | none =>
    have hguard := site.guard_of_none (r := r) (c := c) (by rw [hsession, huser])
    have hhandle : site.handle r c s =
        ⟨.ok ((site.pageMethods r p).dressed r.method site.unauthorized), s, []⟩ := by
      simp only [handle, hroute, serve]
      rw [Methods.serve_apply, hguard]
      rfl
    rw [site.respond_of_handle (congrArg Outcome.result hhandle), hhandle]
    simp only [pageRemembering, huser]
    exact (agrees_redirect hs hname Session.empty hnow s []).dressed _ _
  | some id =>
    obtain ⟨u, hget⟩ := hknown id huser
    have howner : site.userOf? r c.now s.users = some u := by
      rw [userOf?, hsession, huser, Option.bind_some, hget]
    have hhandle := site.handle_page hroute (hc.users s.calls) howner
    rw [site.respond_of_handle (congrArg Outcome.result hhandle), hhandle, hsession]
    simp only [pageRemembering, huser, hget]
    rw [← huser]
    exact (agrees_refresh hs hname hnow hholds (site.leavesSession_page r p u c s.called).setCookie
      _ _).dressed _ _

/-- One visit of the browser is answered as by a site that remembers. -/
theorem agrees_respond {s : State} (hc : c.InMemory)
    (hknown : ∀ id, k.user = some id → ∃ u, s.users.get? id = some u)
    (hmethod : r.method = .get ∨ r.method = .post) :
    site.Agrees since token (site.respond c s r) (site.answerRemembering c s k r) := by
  unfold answerRemembering
  cases hroute : Route.ofPath? r.path with
  | none =>
    have hhandle : site.handle r c s = ⟨.ok (.of 404 .nothing), s, []⟩ := by
      simp only [handle, hroute]
      rfl
    rw [site.respond_of_handle (congrArg Outcome.result hhandle), hhandle]
    exact ⟨rfl, rfl, hholds⟩
  | some route =>
    cases route with
    | health => exact agrees_open hholds hmethod hroute rfl ⟨rfl, rfl, hholds⟩
    | login =>
      exact agrees_open hholds hmethod hroute rfl
        (agrees_showLogin hs hname hsession hholds hnow s)
    | logout =>
      exact agrees_open hholds hmethod hroute rfl (agrees_logout hs hname hsession hnow s)
    | callback =>
      exact agrees_open hholds hmethod hroute rfl
        (agrees_callback hs hname hsession hholds hnow s)
    | page p => exact agrees_page hs hname hsession hholds hnow hc hknown hroute

end

/-! ### Accounts of those who are remembered -/

/-- A request takes no account away. -/
theorem exists_account_respond (c : Scene) (s : State) (r : Request) {id : Uuid}
    (h : ∃ u, s.users.get? id = some u) :
    ∃ u, (site.respond c s r).2.1.users.get? id = some u := by
  obtain ⟨u, hu⟩ := h
  have heffect := site.respond_effect c s r
  cases heffect with
  | read same => exact ⟨u, by rw [same.users, hu]⟩
  | register p v _ _ registered =>
    obtain ⟨-, -, husers⟩ := Users.create_eq_ok_iff.1 registered.created
    rw [husers, Table.get?_insert]
    split_ifs
    · exact ⟨_, rfl⟩
    · exact ⟨u, hu⟩
  | save owner raw date sent e _ _ _ _ _ _ _ wrote => exact ⟨u, by rw [wrote.users, hu]⟩

/-- The user who is known after the provider's dialog is that of the account. -/
theorem get?_of_identify {code error : Option String} {c : Scene} {s : State}
    (hfiled : s.users.Filed) {u : User} (h : (site.identify code error c s).result = .ok u) :
    (site.identify code error c s).state.users.get? u.id = some u := by
  rcases site.identify_cases code error c s with
    ⟨⟨p, hp⟩, -⟩ | ⟨text, p, v, -, -, -, -, hv, ⟨hfound, hsame⟩ | hregistered⟩
  · rw [hp] at h
    cases h
  · obtain rfl := Except.ok.inj (hv.symm.trans h)
    obtain ⟨id, hid⟩ := (Table.mem_values_iff _ _).1 (List.mem_of_find?_eq_some hfound)
    rw [hfiled id v hid, hsame.users]
    exact hid
  · obtain rfl := Except.ok.inj (hv.symm.trans h)
    exact hregistered.get?_self

section

variable {c : Scene} {s : State} {k : ServerSession} {r : Request} (hfiled : s.users.Filed)
  {id : Uuid}

include hfiled

theorem user_callbackRemembering (h : (site.callbackRemembering c s k r).2.2.user = some id) :
    k.user = some id ∨ ∃ u, (site.callbackRemembering c s k r).2.1.users.get? id = some u := by
  cases hrep : Form.repeated? ["code", "error"] (Form.parse (Utf8.encode r.query)) with
  | some name =>
    simp only [callbackRemembering, hrep] at h
    exact .inl h
  | none =>
    cases hresult : (site.identify (Form.value? "code" (Form.parse (Utf8.encode r.query)))
        (Form.value? "error" (Form.parse (Utf8.encode r.query))) c s).result with
    | ok user =>
      simp only [callbackRemembering, hrep, hresult] at h ⊢
      obtain rfl := Option.some.inj h
      exact .inr ⟨_, get?_of_identify hfiled hresult⟩
    | error p =>
      cases p with
      | unauthorized reason =>
        simp only [callbackRemembering, hrep, hresult] at h
        cases h
      | _ =>
        simp only [callbackRemembering, hrep, hresult] at h
        exact .inl h

/-- A user who is remembered was remembered before, or comes from the provider's dialog and has an
account. -/
theorem user_answerRemembering (h : (site.answerRemembering c s k r).2.2.user = some id) :
    k.user = some id ∨ ∃ u, (site.answerRemembering c s k r).2.1.users.get? id = some u := by
  unfold answerRemembering at h ⊢
  cases hroute : Route.ofPath? r.path with
  | none =>
    simp only [hroute] at h
    exact .inl h
  | some route =>
    simp only [hroute] at h ⊢
    cases route with
    | page p =>
      simp only [pageRemembering] at h
      split at h
      · cases h
      · split at h
        · cases h
        · exact .inl h
    | callback =>
      simp only [openRemembering] at h ⊢
      split_ifs at h ⊢
      · exact user_callbackRemembering hfiled h
      · exact .inl h
    | health | login =>
      simp only [openRemembering] at h
      split_ifs at h <;> exact .inl h
    | logout =>
      simp only [openRemembering] at h
      split_ifs at h
      exact .inl h

end

/-! ### Runs -/

/-- What is remembered of a browser is carried by its token, among data that are sound, and the user
who is remembered has an account. -/
structure Carries (site : Site) (since : Int) (s : State) (token : Option String)
    (k : ServerSession) : Prop where
  sound : Sound site.zone s.users s.entries
  holds : site.Holds since token k
  known : ∀ id, k.user = some id → ∃ u, s.users.get? id = some u

theorem Carries.initial : site.Carries since .initial none .empty :=
  ⟨Sound.empty, .inl ⟨rfl, rfl⟩, by rintro id ⟨⟩⟩

/-- The visits of others change nothing of it. -/
theorem Carries.other {s : State} {token : Option String} {k : ServerSession}
    (h : site.Carries since s token k) (v : Visit) :
    site.Carries since (site.respond v.scene s v.request).2.1 token k :=
  ⟨(site.respond_effect v.scene s v.request).sound h.sound, h.holds,
    fun id hid => exists_account_respond _ _ _ (h.known id hid)⟩

theorem answerRemembering_bearing (c : Scene) (s : State) (k : ServerSession) (r : Request)
    (name : String) (token : Option String) :
    site.answerRemembering c s k (r.bearing name token) = site.answerRemembering c s k r := by
  have hpage (p : PageRoute) :
      site.pageRemembering c s k (r.bearing name token) p = site.pageRemembering c s k r p := by
    simp only [pageRemembering, pageMethods_bearing, pageAction_bearing]
    rfl
  simp only [answerRemembering, hpage]
  rfl

section

variable (hs : Session.KeptForDays site.settings)
  (hname : site.settings.cookieName = Settings.cookieName) (hsince : 60 ≤ since)

include hs hname hsince

/-- A visit of the browser is answered as by a site that remembers, and the token that it is given
carries what is remembered then. -/
theorem Carries.own {s : State} {token : Option String} {k : ServerSession}
    (h : site.Carries since s token k) {v : Visit} (hc : v.scene.InMemory)
    (hmethod : v.request.method = .get ∨ v.request.method = .post)
    (hnow : since ≤ v.scene.now.seconds) (htime : Timely token v.scene.now) :
    let answered := site.respondBearing s token v
    let remembered := site.answerRemembering v.scene s k v.request
    answered.1.withoutCookie = remembered.1 ∧ answered.2.1 = remembered.2.1 ∧
      site.Carries since answered.2.1 (kept token answered.1) remembered.2.2 := by
  intro answered remembered
  obtain ⟨issuedAt, hsession⟩ := h.holds.session hs hname hsince htime v.request
  have hagrees : site.Agrees since token answered remembered := by
    have hbearing := agrees_respond hs hname hsession h.holds hnow hc h.known
      (r := v.request.bearing site.settings.cookieName token) hmethod
    rwa [answerRemembering_bearing] at hbearing
  refine ⟨hagrees.response, hagrees.state, (site.respond_effect _ _ _).sound h.sound,
    hagrees.holds, fun id hid => ?_⟩
  rcases user_answerRemembering h.sound.users_filed hid with hbefore | haccount
  · exact exists_account_respond _ _ _ (h.known id hbefore)
  · rw [hagrees.state]
    exact haccount

/-- Visits within the lifetime of a token are timely, since no token is older than the first. -/
theorem Carries.inTime {s : State} {token : Option String} {k : ServerSession}
    (h : site.Carries since s token k) {turns : List Turn}
    (hmemory : ∀ v, .own v ∈ turns → v.scene.InMemory)
    (hmethods : ∀ v, .own v ∈ turns → v.request.method = .get ∨ v.request.method = .post)
    (hwithin : ∀ v, .own v ∈ turns → since ≤ v.scene.now.seconds ∧
      v.scene.now.seconds ≤ since + site.settings.sessionDays.toInt * 86400 + 60) :
    site.InTime s token turns := by
  induction turns generalizing s token k with
  | nil => exact trivial
  | cons turn turns ih =>
    have hmemory' := fun v hv => hmemory v (List.mem_cons_of_mem turn hv)
    have hmethods' := fun v hv => hmethods v (List.mem_cons_of_mem turn hv)
    have hwithin' := fun v hv => hwithin v (List.mem_cons_of_mem turn hv)
    cases turn with
    | other v => exact ih (h.other v) hmemory' hmethods' hwithin'
    | own v =>
      obtain ⟨hnow, hlate⟩ := hwithin v List.mem_cons_self
      have htime := h.holds.timely hs hsince hnow hlate
      obtain ⟨-, -, hcarries⟩ := h.own hs hname hsince (hmemory v List.mem_cons_self)
        (hmethods v List.mem_cons_self) hnow htime
      exact ⟨htime, ih hcarries hmemory' hmethods' hwithin'⟩

end

section

variable (hs : Session.KeptForDays site.settings)
  (hname : site.settings.cookieName = Settings.cookieName)

include hs hname

/-- What holds of one visit holds of every run, wherever it begins. -/
theorem Carries.browse {s : State} {token : Option String} {k : ServerSession}
    (h : site.Carries 60 s token k) {turns : List Turn}
    (hmemory : ∀ v, .own v ∈ turns → v.scene.InMemory)
    (hmethods : ∀ v, .own v ∈ turns → v.request.method = .get ∨ v.request.method = .post)
    (htime : site.InTime s token turns) :
    let remembering := site.browseRemembering s k turns
    site.browse s token turns = (remembering.1, remembering.2.1) ∧
      ∀ id, remembering.2.2.user = some id → ∃ u, remembering.2.1.users.get? id = some u := by
  induction turns generalizing s token k with
  | nil => exact ⟨rfl, h.known⟩
  | cons turn turns ih =>
    have hmemory' := fun v hv => hmemory v (List.mem_cons_of_mem turn hv)
    have hmethods' := fun v hv => hmethods v (List.mem_cons_of_mem turn hv)
    cases turn with
    | other v => exact ih (h.other v) hmemory' hmethods' htime
    | own v =>
      obtain ⟨hresponse, hstate, hcarries⟩ := h.own hs hname (Int.le_refl 60)
        (hmemory v List.mem_cons_self) (hmethods v List.mem_cons_self) htime.1.1 htime.1
      obtain ⟨hbrowse, hknown⟩ := ih hcarries hmemory' hmethods' htime.2
      simp only [Site.browse, browseRemembering, hbrowse, hresponse]
      rw [hstate] at hknown ⊢
      exact ⟨rfl, hknown⟩

end

/-- A browser whose visits all fall within the lifetime of a token is in time. -/
theorem inTime_of_within (hs : Session.KeptForDays site.settings)
    (hname : site.settings.cookieName = Settings.cookieName) (hsince : 60 ≤ since)
    {turns : List Turn} (hmemory : ∀ v, .own v ∈ turns → v.scene.InMemory)
    (hmethods : ∀ v, .own v ∈ turns → v.request.method = .get ∨ v.request.method = .post)
    (hwithin : ∀ v, .own v ∈ turns → since ≤ v.scene.now.seconds ∧
      v.scene.now.seconds ≤ since + site.settings.sessionDays.toInt * 86400 + 60) :
    site.InTime .initial none turns :=
  Carries.initial.inTime hs hname hsince hmemory hmethods hwithin

/-- A browser that always sends back the last cookie it was given is answered as by a site that
remembers its session, from the first visit on, whatever others do in the meantime, as long as its
visits are timely.  The user who is remembered always has an account. -/
theorem browse_eq_browseRemembering (site : Site) (hs : Session.KeptForDays site.settings)
    (hname : site.settings.cookieName = Settings.cookieName) (turns : List Turn)
    (hmemory : ∀ v, .own v ∈ turns → v.scene.InMemory)
    (hmethods : ∀ v, .own v ∈ turns → v.request.method = .get ∨ v.request.method = .post)
    (htime : site.InTime .initial none turns) :
    let remembering := site.browseRemembering .initial .empty turns
    site.browse .initial none turns = (remembering.1, remembering.2.1) ∧
      ∀ id, remembering.2.2.user = some id → ∃ u, remembering.2.1.users.get? id = some u :=
  Carries.initial.browse hs hname hmemory hmethods htime

end Site

/-! ### A refusal is shown once -/

namespace Sample

/-- The visitor declines at the provider's dialog and looks at the login page twice, while somebody
else logs in. -/
def refusedTurns : List Site.Turn :=
  [.own ⟨scene sentAt, ⟨.get, "/auth/callback", "error=denied", [], []⟩⟩,
   .other ⟨scene sentAt, arrival⟩,
   .own ⟨scene sentAt, ⟨.get, "/auth", "", [], []⟩⟩,
   .own ⟨scene sentAt, ⟨.get, "/auth", "", [], []⟩⟩]

/-- The message about the refusal is shown once. -/
theorem refusal_shown_once :
    Session.KeptForDays (site .utc).settings ∧
      (site .utc).settings.cookieName = Settings.cookieName ∧
      (∀ v, .own v ∈ refusedTurns → v.scene.InMemory) ∧
      (∀ v, .own v ∈ refusedTurns → v.request.method = .get ∨ v.request.method = .post) ∧
      (site .utc).InTime .initial none refusedTurns ∧
      let url := Provider.dialogUrl (site .utc).endpoints (site .utc).settings
      ((site .utc).browse .initial none refusedTurns).1.map Response.content =
        [.nothing, .login ⟨url, some Site.loginFailed⟩, .login ⟨url, none⟩] := by
  have hs : Session.KeptForDays (site .utc).settings := ⟨by decide, by decide⟩
  have hmemory : ∀ v, .own v ∈ refusedTurns → v.scene.InMemory := by
    simp [refusedTurns, inMemory_scene]
  have hmethods : ∀ v, .own v ∈ refusedTurns →
      v.request.method = .get ∨ v.request.method = .post := by
    simp [refusedTurns]
  have hwithin : ∀ v, .own v ∈ refusedTurns → sentAt.seconds ≤ v.scene.now.seconds ∧
      v.scene.now.seconds ≤
        sentAt.seconds + (site .utc).settings.sessionDays.toInt * 86400 + 60 := by
    have hnow : ∀ v, .own v ∈ refusedTurns → v.scene.now = sentAt := by
      simp [refusedTurns, scene]
    intro v hv
    rw [hnow v hv]
    decide
  have htime := Site.inTime_of_within hs rfl (by decide) hmemory hmethods hwithin
  obtain ⟨hbrowse, -⟩ := (site .utc).browse_eq_browseRemembering hs rfl refusedTurns hmemory
    hmethods htime
  refine ⟨hs, rfl, hmemory, hmethods, htime, ?_⟩
  rw [hbrowse]
  decide

end Sample

end Daybook
