import Daybook.Proofs.Session.Acceptance
import Daybook.Proofs.Site.Browser
import Daybook.Proofs.Site.History

/-!
# What strangers learn

A stranger is a client whose request names no user with an account: it bears no token, or one that
is refused, or one of nobody, or one of a user who has no account.  Whatever page strangers ask for,
they are turned away before the date in the path and the body of the request are looked at.  So all
of them are told the same, whatever is kept.

## Main definitions

* `Site.tokenIn?` : the token that a request bears.
* `Site.IsStranger` : the four kinds of strangers.
* `Site.TurnedAway` : a client is sent to the login page and told nothing else.
* `Response.LooksLike` : responses that tell a client the same.

## Main results

* `Site.isStranger_iff` : strangers are those whose session names no account.
* `Site.handle_stranger` : what is done with the request of a stranger.
* `Site.strangers_alike` : any two strangers are told the same, at any two sites with the same
  settings.
-/

namespace Daybook

/-- Two responses *look alike* to a client when they have the same status, send to the same address,
set the same cookie and have the same body. -/
structure Response.LooksLike (r₁ r₂ : Response) : Prop where
  status : r₁.status = r₂.status
  location : r₁.location = r₂.location
  setCookie : r₁.setCookie = r₂.setCookie
  body : r₁.body = r₂.body

/-- No method puts words into a response without content. -/
theorem Methods.dressed_body_of_nothing {α : Type} (ms : Methods α) (method : Method) {r : Response}
    (h : r.content = .nothing) : (ms.dressed method r).body = "" := by
  have hbody {r' : Response} (h' : r'.content = .nothing) : r'.body = "" := by
    rw [Response.body, h']
    split <;> rfl
  refine hbody ?_
  unfold dressed
  split <;> exact h

namespace Site

variable (site : Site)

/-- The token that a request bears. -/
def tokenIn? (r : Request) : Option String :=
  (r.header? "cookie").bind fun bs => Cookie.find? bs site.settings.cookieName

/-! ### Strangers -/

/-- A request is that of a *stranger* when it bears no token, or one that is refused, or one that
names no user, or one that names a user who has no account. -/
inductive IsStranger (r : Request) (now : Instant) (us : Users) : Prop
  | withoutToken (absent : site.tokenIn? r = none)
  | refused {token : String} {reason : Token.Refusal} (borne : site.tokenIn? r = some token)
      (verified : Token.verify site.settings.sessionSecret now.seconds token = .error reason)
  | nobody {token : String} {claims : Claims} (borne : site.tokenIn? r = some token)
      (verified : Token.verify site.settings.sessionSecret now.seconds token = .ok claims)
      (named : claims.uid = none)
  | unknown {token : String} {claims : Claims} {id : Uuid} (borne : site.tokenIn? r = some token)
      (verified : Token.verify site.settings.sessionSecret now.seconds token = .ok claims)
      (named : claims.uid = some id) (absent : us.get? id = none)

variable {site} {r : Request} {now : Instant} {us : Users}

/-- Without a token nobody is logged in. -/
theorem session_of_tokenIn?_none (h : site.tokenIn? r = none) : site.session r now = .empty := by
  rw [tokenIn?] at h
  simp only [session, Session.ofCookies, h]

/-- A token opens the session that it carries. -/
theorem session_of_tokenIn? {token : String} (h : site.tokenIn? r = some token) :
    site.session r now = Session.ofToken site.settings now token := by
  rw [tokenIn?] at h
  simp only [session, Session.ofCookies, h]

/-- Strangers are those whose session names no account. -/
theorem isStranger_iff : site.IsStranger r now us ↔ site.userOf? r now us = none := by
  constructor
  · intro h
    cases h with
    | withoutToken absent =>
      rw [userOf?, session_of_tokenIn?_none absent]
      rfl
    | refused borne verified =>
      rw [userOf?, session_of_tokenIn? borne]
      simp only [Session.ofToken, verified]
      rfl
    | nobody borne verified named =>
      rw [userOf?, session_of_tokenIn? borne, (Session.ofToken_of_verify verified).1, named]
      rfl
    | unknown borne verified named absent =>
      rw [userOf?, session_of_tokenIn? borne, (Session.ofToken_of_verify verified).1, named]
      exact absent
  · intro h
    cases borne : site.tokenIn? r with
    | none => exact .withoutToken borne
    | some token =>
      cases verified : Token.verify site.settings.sessionSecret now.seconds token with
      | error reason => exact .refused borne verified
      | ok claims =>
        rw [userOf?, session_of_tokenIn? borne, (Session.ofToken_of_verify verified).1] at h
        cases named : claims.uid with
        | none => exact .nobody borne verified named
        | some id =>
          rw [named, Option.bind_some] at h
          exact .unknown borne verified named h

/-! ### How they are turned away -/

/-- A client is *turned away* when it is sent to the login page, is told to forget the cookie, and
is told nothing else.  Nothing is changed, and the login provider is not asked. -/
structure TurnedAway (site : Site) (s : State) (answered : Response × State × List String) :
    Prop where
  status : answered.1.status = 302
  location : answered.1.location = some "/auth"
  setCookie : answered.1.setCookie = some (Cookie.clear site.settings.cookieName)
  body : answered.1.body = ""
  same : s.SameData answered.2.1
  asked : answered.2.2 = []

/-- Those who are turned away are told the same, if the cookies have the same name. -/
theorem TurnedAway.looksLike {site₁ site₂ : Site} {s₁ s₂ : State}
    {answered₁ answered₂ : Response × State × List String}
    (hname : site₁.settings.cookieName = site₂.settings.cookieName)
    (h₁ : site₁.TurnedAway s₁ answered₁) (h₂ : site₂.TurnedAway s₂ answered₂) :
    answered₁.1.LooksLike answered₂.1 where
  status := h₁.status.trans h₂.status.symm
  location := h₁.location.trans h₂.location.symm
  setCookie := by rw [h₁.setCookie, h₂.setCookie, hname]
  body := h₁.body.trans h₂.body.symm

variable {c : Scene} {s : State}

/-- Strangers are not let pass, whatever there is behind the guard. -/
theorem guard_stranger (hc : c.InMemory) (h : site.IsStranger r c.now s.users)
    (inner : User → Action Problem Response) :
    ∃ s', site.guard r inner c s = ⟨.ok site.unauthorized, s', []⟩ ∧ s.SameData s' := by
  rw [isStranger_iff, userOf?] at h
  cases hid : (site.session r c.now).userId with
  | none => exact ⟨s, site.guard_of_none hid inner s, .refl s⟩
  | some id =>
    rw [hid, Option.bind_some] at h
    exact ⟨s.called, site.guard_of_unknown (hc.users s.calls) hid h inner, s.sameData_called⟩

/-- What is done with the request of a stranger for a page depends on the page by the names of the
allowed methods only. -/
theorem handle_stranger {p : PageRoute} (hc : c.InMemory)
    (hroute : Route.ofPath? r.path = some (.page p)) (h : site.IsStranger r c.now s.users) :
    ∃ s', site.handle r c s =
        ⟨.ok ((site.pageMethods r p).dressed r.method site.unauthorized), s', []⟩ ∧
      s.SameData s' := by
  obtain ⟨s', hguard, hsame⟩ := guard_stranger hc h
    ((site.pageMethods r p).chosen (fun _ => pure notAllowed) r.method)
  refine ⟨s', ?_, hsame⟩
  simp only [handle, hroute, serve]
  rw [Methods.serve_apply, hguard]
  rfl

/-- A stranger who asks for a page is turned away, by whatever method and with whatever body. -/
theorem IsStranger.turnedAway (h : site.IsStranger r c.now s.users) {p : PageRoute}
    (hc : c.InMemory) (hname : isHeaderText site.settings.cookieName = true)
    (hroute : Route.ofPath? r.path = some (.page p)) :
    site.TurnedAway s (site.respond c s r) := by
  obtain ⟨s', hhandle, hsame⟩ := handle_stranger hc hroute h
  have hclear : isHeaderText (Cookie.clear site.settings.cookieName) = true :=
    Session.isHeaderText_setCookie Session.empty c.now hname
  rw [site.respond_of_handle (congrArg Outcome.result hhandle), hhandle, unauthorized,
    redirect_of_isHeaderText hclear]
  constructor
  · rw [Methods.dressed_status]
    rfl
  · rw [Methods.dressed_location]
  · rw [Methods.dressed_setCookie]
  · exact Methods.dressed_body_of_nothing _ _ rfl
  · exact hsame
  · rfl

/-- Any two strangers who ask for pages are told the same: at whatever time, with whatever method,
page, date and body they ask, and whatever is kept about others.  Both are turned away.  The two
sites have the same settings of the login, as the server makes them. -/
theorem strangers_alike (config : Settings) {site₁ site₂ : Site}
    (hsite₁ : site₁.settings = config.login) (hsite₂ : site₂.settings = config.login)
    {c₁ c₂ : Scene} (hc₁ : c₁.InMemory) (hc₂ : c₂.InMemory) (s₁ s₂ : State) {r₁ r₂ : Request}
    {p₁ p₂ : PageRoute} (hroute₁ : Route.ofPath? r₁.path = some (.page p₁))
    (hroute₂ : Route.ofPath? r₂.path = some (.page p₂))
    (h₁ : site₁.IsStranger r₁ c₁.now s₁.users) (h₂ : site₂.IsStranger r₂ c₂.now s₂.users) :
    (site₁.respond c₁ s₁ r₁).1.LooksLike (site₂.respond c₂ s₂ r₂).1 ∧
      site₁.TurnedAway s₁ (site₁.respond c₁ s₁ r₁) ∧
      site₂.TurnedAway s₂ (site₂.respond c₂ s₂ r₂) := by
  have hname₁ : isHeaderText site₁.settings.cookieName = true :=
    hsite₁ ▸ Settings.isHeaderText_cookieName
  have hname₂ : isHeaderText site₂.settings.cookieName = true :=
    hsite₂ ▸ Settings.isHeaderText_cookieName
  have haway₁ := h₁.turnedAway hc₁ hname₁ hroute₁
  have haway₂ := h₂.turnedAway hc₂ hname₂ hroute₂
  exact ⟨haway₁.looksLike (by rw [hsite₁, hsite₂]) haway₂, haway₁, haway₂⟩

end Site

namespace Sample

/-- The settings of a server with the visitor's site. -/
def settings : Settings :=
  ⟨none, false, "app", "key", "http://localhost/auth/callback", "secret", "UTC", "localhost", 8080,
    30, 30, "development", none, "http://localhost"⟩

/-- A client without a token who asks for the root, where the visitor has an account, and the
visitor who submits a text, where there is no account, are told the same. -/
theorem newcomer_and_visitor_alike :
    let accounts : Users := Table.empty.insert visitor ⟨visitor, "1", "Ann", .epoch⟩
    let s₁ : State := { State.initial with users := accounts }
    let newcomer : Request := ⟨.get, "/", "", [], []⟩
    (site .utc).settings = settings.login ∧ (site ⟨-12600, []⟩).settings = settings.login ∧
      (scene .epoch).InMemory ∧ (scene sentAt).InMemory ∧
      Route.ofPath? newcomer.path = some (.page .root) ∧
      Route.ofPath? submission.path = some (.page (.entry "2010-11-06")) ∧
      (site .utc).IsStranger newcomer Instant.epoch s₁.users ∧
      (site ⟨-12600, []⟩).IsStranger submission sentAt State.initial.users ∧
      ((site .utc).respond (scene .epoch) s₁ newcomer).1.LooksLike
        ((site ⟨-12600, []⟩).respond (scene sentAt) .initial submission).1 := by
  intro accounts s₁ newcomer
  have hsite (zone : Zone) : (site zone).settings = settings.login := rfl
  have hroute₁ : Route.ofPath? newcomer.path = some (.page .root) := by decide
  have hroute₂ : Route.ofPath? submission.path = some (.page (.entry "2010-11-06")) := by
    decide
  have h₁ : (site .utc).IsStranger newcomer (scene .epoch).now s₁.users := .withoutToken rfl
  have h₂ : (site ⟨-12600, []⟩).IsStranger submission (scene sentAt).now State.initial.users := by
    have hid : ((site ⟨-12600, []⟩).session submission (scene sentAt).now).userId = some visitor :=
      userId_session ⟨-12600, []⟩
    rw [Site.isStranger_iff, Site.userOf?, hid]
    rfl
  have halike := Site.strangers_alike settings (hsite .utc) (hsite ⟨-12600, []⟩)
    (inMemory_scene .epoch) (inMemory_scene sentAt) s₁ .initial hroute₁ hroute₂ h₁ h₂
  exact ⟨hsite _, hsite _, inMemory_scene _, inMemory_scene _, hroute₁, hroute₂, h₁, h₂, halike.1⟩

end Sample

end Daybook
