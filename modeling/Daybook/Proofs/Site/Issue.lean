import Daybook.Proofs.Site.Dialog
import Daybook.Proofs.Site.ServerSession
import Daybook.Proofs.Site.Strangers

/-!
# Whom a cookie names

The cookie that a response sets carries a session.  Its user, if it has one, is the user of the
session that the request has opened, or has just come back from the provider's dialog.  No other
user is ever named, whatever resource is asked for.

## Main definitions

* `Token.userId?` : the user whom a token names.
* `Site.Gives` : a response sets a cookie with a token.
* `Site.LogsInAs` : a request with which a user logs in.
* `Site.HandsOut` : the users whom the cookie of a response may name.

## Main results

* `Session.userId_of_setCookie` : the token in the cookie of a session names its user.
* `Site.LogsInAs.gives` : a user who logs in is given a token that names them.
* `Site.handsOut_respond` : whom the cookie of any response names.
* `Site.named_of_gives` : the same for the token in the cookie.
-/

namespace Daybook

/-! ### Users in tokens and cookies -/

/-- The user whom a token names, whether or not it is accepted. -/
def Token.userId? (token : String) : Option Uuid :=
  (claims? token).bind Claims.uid

theorem Token.userId?_of_verify {secret token : String} {now : Int} {c : Claims}
    (h : verify secret now token = .ok c) : userId? token = c.uid := by
  rw [userId?, claims?_of_verify h, Option.bind_some]

namespace Cookie

theorem set_inj {name value value' : String} {days : Int64} {secure : Bool}
    (h : set name value days secure = set name value' days secure) : value = value' := by
  simpa [set, ← String.toList_inj] using h

/-- The text that clears a cookie sets no value. -/
theorem eq_empty_of_set_eq_clear {name value : String} {days : Int64} {secure : Bool}
    (h : set name value days secure = clear name) : value = "" := by
  have hdigit := List.length_pos_iff.2 (Decimal.integer_ne_nil (secondsOfDays days).toInt)
  have hzero : "0".length = 1 := rfl
  have hlength := congrArg String.length h
  simp only [set, clear, String.length_append, String.length_ofList, hzero] at hlength
  rw [← String.length_eq_zero_iff]
  omega

end Cookie

namespace Session

variable {s : LoginSettings}

theorem claims?_issueToken (t : Instant) (user : Option Uuid) (flashes : List String) :
    Token.claims? (issueToken s t user flashes) = some (claimsAt s t user flashes) :=
  Token.claims?_sign _ _

/-- The token in the cookie of a session names its user. -/
theorem userId_of_setCookie {x : Session} {now : Instant} {token : String} {id : Uuid}
    (h : x.setCookie s now = Cookie.set s.cookieName token s.sessionDays s.secureCookies)
    (hid : Token.userId? token = some id) : x.userId = some id := by
  unfold setCookie at h
  split_ifs at h with hempty
  · rw [Cookie.eq_empty_of_set_eq_clear h.symm] at hid
    cases hid
  · rw [← Cookie.set_inj h, Token.userId?, claims?_issueToken] at hid
    exact hid

end Session

namespace Site

variable (site : Site)

/-- A response *gives* a token when it sets a cookie with it. -/
def Gives (response : Response) (token : String) : Prop :=
  response.setCookie = some
    (Cookie.set site.settings.cookieName token site.settings.sessionDays
      site.settings.secureCookies)

/-- A user *logs in* with a request that comes back from the provider's dialog, when they are known
then. -/
structure LogsInAs (c : Scene) (s : State) (r : Request) (user : User) : Prop where
  route : Route.ofPath? r.path = some .callback
  reads : r.method = .get ∨ r.method = .head
  fields : Form.repeated? ["code", "error"] (Form.parse (Utf8.encode r.query)) = none
  known : (site.identify (Form.value? "code" (Form.parse (Utf8.encode r.query)))
    (Form.value? "error" (Form.parse (Utf8.encode r.query))) c s).result = .ok user

/-- The response to a user who logs in sends them to the root, with the cookie of a session that is
theirs. -/
theorem LogsInAs.respond_eq {site : Site} {c : Scene} {s : State} {r : Request} {user : User}
    (h : site.LogsInAs c s r user) :
    let o := site.identify (Form.value? "code" (Form.parse (Utf8.encode r.query)))
      (Form.value? "error" (Form.parse (Utf8.encode r.query))) c s
    site.respond c s r = ((Methods.mk (site.callback r) none).dressed r.method
      (redirect "/" (((site.session r c.now).login user.id).setCookie site.settings c.now)),
        o.state, o.asked) := by
  intro o
  have hhandle : site.handle r c s = serve.openTo r (site.callback r) c s := by
    simp only [handle, h.route, serve]
  rw [openTo_of_reads _ c s h.reads, callback_of_fields h.fields] at hhandle
  simp only [answer, h.known, afterDialog] at hhandle
  rw [site.respond_of_handle (congrArg Outcome.result hhandle), hhandle]

/-- A user who logs in is given a token that names them, if the cookie can be written. -/
theorem LogsInAs.gives {site : Site} {c : Scene} {s : State} {r : Request} {user : User}
    (h : site.LogsInAs c s r user) (hname : isHeaderText site.settings.cookieName = true) :
    site.Gives (site.respond c s r).1
      (Session.issueToken site.settings c.now (some user.id) (site.session r c.now).flashes) := by
  rw [Gives, h.respond_eq, Methods.dressed_setCookie,
    redirect_of_isHeaderText (Session.isHeaderText_setCookie _ _ hname)]
  rfl

/-! ### Responses -/

/-- A response *hands out* users with a property only: the cookie that it sets, if any, is that of a
session that has no user or such a user. -/
def HandsOut (now : Instant) (P : Uuid → Prop) (response : Response) : Prop :=
  ∀ text, response.setCookie = some text →
    ∃ x : Session, text = x.setCookie site.settings now ∧ ∀ id, x.userId = some id → P id

variable {site} {now : Instant} {P : Uuid → Prop} {response : Response}

namespace HandsOut

theorem of_none (h : response.setCookie = none) : site.HandsOut now P response := by
  intro text htext
  rw [h] at htext
  cases htext

theorem redirect (location : String) {x : Session} (h : ∀ id, x.userId = some id → P id) :
    site.HandsOut now P (Site.redirect location (x.setCookie site.settings now)) := by
  intro text htext
  unfold Site.redirect at htext
  split_ifs at htext
  · exact ⟨x, (Option.some.inj htext).symm, h⟩
  · cases htext

theorem dressed {α : Type} (ms : Methods α) (method : Method) (h : site.HandsOut now P response) :
    site.HandsOut now P (ms.dressed method response) := by
  intro text htext
  rw [Methods.dressed_setCookie] at htext
  exact h text htext

theorem refresh {x : Session} (h : ∀ id, x.userId = some id → P id)
    (hresponse : response.setCookie = none) :
    site.HandsOut now P (site.refresh x now response) := by
  intro text htext
  simp only [Site.refresh] at htext
  split_ifs at htext
  · exact ⟨x, (Option.some.inj htext).symm, h⟩
  · rw [hresponse] at htext
    cases htext

end HandsOut

/-- Those who are turned away are given a cookie that names nobody. -/
theorem handsOut_unauthorized : site.HandsOut now P site.unauthorized :=
  HandsOut.redirect (x := Session.empty) "/auth" (by rintro id ⟨⟩)

theorem handsOut_problem (p : Problem) : site.HandsOut now P p.response :=
  .of_none (by cases p <;> rfl)

section

variable {c : Scene} {s : State} {r : Request}

/-- The login page empties the messages and keeps the user. -/
theorem handsOut_showLogin (h : ∀ id, (site.session r c.now).userId = some id → P id) :
    site.HandsOut c.now P (answer (site.showLogin r c s).result) := by
  unfold showLogin
  rw [Action.now_bind]
  dsimp only
  split_ifs
  · intro text htext
    exact ⟨_, (Option.some.inj htext).symm, h⟩
  · exact .of_none rfl
  · exact .of_none rfl

/-- A logout hands out nobody. -/
theorem handsOut_logout : site.HandsOut c.now P (answer (site.logout r c s).result) := by
  unfold logout
  rw [Action.now_bind]
  exact .redirect "/auth" (by rintro id ⟨⟩)

/-- Those who come back from the dialog are handed out when they are known. -/
theorem handsOut_callback
    (h : Form.repeated? ["code", "error"] (Form.parse (Utf8.encode r.query)) = none →
      ∀ user, (site.identify (Form.value? "code" (Form.parse (Utf8.encode r.query)))
        (Form.value? "error" (Form.parse (Utf8.encode r.query))) c s).result = .ok user →
        P user.id) :
    site.HandsOut c.now P (answer (site.callback r c s).result) := by
  cases hrep : Form.repeated? ["code", "error"] (Form.parse (Utf8.encode r.query)) with
  | some name =>
    rw [callback_of_repeated hrep]
    exact .of_none rfl
  | none =>
    rw [callback_of_fields hrep]
    simp only [answer]
    cases hresult : (site.identify (Form.value? "code" (Form.parse (Utf8.encode r.query)))
        (Form.value? "error" (Form.parse (Utf8.encode r.query))) c s).result with
    | ok user =>
      refine .redirect "/" fun id hid => ?_
      obtain rfl := Option.some.inj hid
      exact h hrep user hresult
    | error problem =>
      cases problem with
      | unauthorized reason => exact .redirect "/auth" (by rintro id ⟨⟩)
      | _ => exact handsOut_problem _

/-- A resource that anybody may read hands out what its reading does. -/
theorem handsOut_open {route : Route} {x : Action Problem Response}
    (hroute : Route.ofPath? r.path = some route) (hserve : site.serve r route = serve.openTo r x)
    (h : r.method = .get ∨ r.method = .head → site.HandsOut c.now P (answer (x c s).result)) :
    site.HandsOut c.now P (site.respond c s r).1 := by
  have hhandle : site.handle r c s = serve.openTo r x c s := by
    simp only [handle, hroute, hserve]
  by_cases hreads : r.method = .get ∨ r.method = .head
  · rw [openTo_of_reads x c s hreads] at hhandle
    rw [site.respond_of_handle (congrArg Outcome.result hhandle)]
    exact (h hreads).dressed _ _
  · rw [openTo_of_refuses x c s hreads] at hhandle
    rw [site.respond_of_handle (congrArg Outcome.result hhandle)]
    exact .of_none rfl

/-- A page hands out the user of the session, at most. -/
theorem handsOut_page {p : PageRoute} (hroute : Route.ofPath? r.path = some (.page p))
    (h : ∀ id, (site.session r c.now).userId = some id → P id) :
    site.HandsOut c.now P (site.respond c s r).1 := by
  rcases site.guard_cases r ((site.pageMethods r p).chosen (fun _ => pure notAllowed) r.method) c s
    with ⟨response, hresult, hresponse, -⟩ | ⟨user, huser, hout⟩
  · have hhandle : (site.handle r c s).result =
        .ok ((site.pageMethods r p).dressed r.method response) := by
      simp only [handle, hroute, serve]
      rw [Methods.serve_apply, hresult]
      rfl
    rw [site.respond_of_handle hhandle]
    refine HandsOut.dressed _ _ ?_
    rcases hresponse with rfl | ⟨detail, rfl⟩
    · exact handsOut_unauthorized
    · exact handsOut_problem _
  · have hhandle := site.handle_page hroute hout huser
    rw [site.respond_of_handle (congrArg Outcome.result hhandle)]
    exact (HandsOut.refresh h (site.leavesSession_page r p user c s.called).setCookie).dressed _ _

variable (site c s r)

/-- The cookie of a response names the user of the session that the request has opened, or one who
has just logged in, or nobody. -/
theorem handsOut_respond :
    site.HandsOut c.now (fun id => (site.session r c.now).userId = some id ∨
      ∃ user, site.LogsInAs c s r user ∧ user.id = id) (site.respond c s r).1 := by
  cases hroute : Route.ofPath? r.path with
  | none =>
    have hhandle : (site.handle r c s).result = .ok (.of 404 .nothing) := by
      simp only [handle, hroute]
      rfl
    rw [site.respond_of_handle hhandle]
    exact .of_none rfl
  | some route =>
    cases route with
    | page p => exact handsOut_page hroute fun id hid => .inl hid
    | health => exact handsOut_open hroute rfl fun _ => .of_none rfl
    | login => exact handsOut_open hroute rfl fun _ => handsOut_showLogin fun id hid => .inl hid
    | logout => exact handsOut_open hroute rfl fun _ => handsOut_logout
    | callback =>
      exact handsOut_open hroute rfl fun hreads => handsOut_callback fun hfields user huser =>
        .inr ⟨user, ⟨hroute, hreads, hfields, huser⟩, rfl⟩

variable {site c s r}

/-- So does the token in the cookie. -/
theorem named_of_gives {token : String} {id : Uuid}
    (hgives : site.Gives (site.respond c s r).1 token) (hid : Token.userId? token = some id) :
    (site.session r c.now).userId = some id ∨ ∃ user, site.LogsInAs c s r user ∧ user.id = id := by
  obtain ⟨x, htext, hx⟩ := site.handsOut_respond c s r _ hgives
  exact hx id (Session.userId_of_setCookie htext.symm hid)

/-- Every cookie that is set has a token that can be read, unless it clears the cookie. -/
theorem clear_or_gives {text : String} (h : (site.respond c s r).1.setCookie = some text) :
    text = Cookie.clear site.settings.cookieName ∨
      ∃ token claims, site.Gives (site.respond c s r).1 token ∧
        Token.claims? token = some claims := by
  obtain ⟨x, htext, -⟩ := site.handsOut_respond c s r text h
  unfold Session.setCookie at htext
  split_ifs at htext
  · exact .inl htext
  · exact .inr ⟨_, _, htext ▸ h, Session.claims?_issueToken _ _ _⟩

end

end Site

end Daybook
