import Daybook.Proofs.Site.Circulation
import Daybook.Proofs.Site.ReadYourWrites

/-!
# New tokens for old ones

Whatever is asked of a page, and however it is answered, the response gives a new token exactly when
the one that was borne is more than a day old.  The new token names the same user and holds the same
messages in the same order; only its times are new, and it is to be kept until it expires.  Who asks
again with the new token is not given another.

## Main definitions

* `Site.Presents` : a request for a page with an accepted token of a user who has an account.
* `Site.Renews` : the text that gives a new token.

## Main results

* `Site.Presents.setCookie_eq` : the cookie that is set, if any.
* `Site.renewed_once` : a token is renewed when it is old, and then once.
-/

namespace Daybook

namespace Site

/-- A request for a page *presents* a token that was issued at a time for a user and with messages.
The token is accepted, and the user has an account in memory. -/
structure Presents (site : Site) (c : Scene) (s : State) (r : Request) (t : Instant) (id : Uuid)
    (flashes : List String) : Prop where
  route : ∃ p, Route.ofPath? r.path = some (.page p)
  inMemory : c.InMemory
  issued : 60 ≤ t.seconds
  present : 60 ≤ c.now.seconds
  borne : site.tokenIn? r = some (Session.issueToken site.settings t (some id) flashes)
  accepted : ∃ claims, Token.verify site.settings.sessionSecret c.now.seconds
    (Session.issueToken site.settings t (some id) flashes) = .ok claims
  account : ∃ u, s.users.get? id = some u

/-- A text *renews* a session at a time when it sets a cookie with a token that is accepted then,
names the same user and holds the same messages, was issued at that time and lives as long as any.
The cookie is to be kept as long as the token lives. -/
structure Renews (site : Site) (now : Instant) (id : Uuid) (flashes : List String) (text : String)
    (token : String) (claims : Claims) : Prop where
  received : Cookie.received text = some token
  accepted : Token.verify site.settings.sessionSecret now.seconds token = .ok claims
  uid : claims.uid = some id
  flashes : claims.flashes = flashes
  issuedAt : claims.issuedAt.toInt = now.seconds
  expiresAt : claims.expiresAt.toInt = now.seconds + site.settings.sessionDays.toInt * 86400
  maxAge : (Cookie.maxAge? text).map Int.ofNat =
    some (claims.expiresAt.toInt - claims.issuedAt.toInt)

variable {site : Site} {c : Scene} {s : State} {r : Request} {t : Instant} {id : Uuid}
  {flashes : List String}

/-- The name under which a token was found names a cookie, and can stand in a header. -/
theorem isName_of_tokenIn? {token : String} (h : site.tokenIn? r = some token) :
    Cookie.IsName site.settings.cookieName ∧
      (Utf8.encode site.settings.cookieName).all Cookie.isVisible = true := by
  obtain ⟨header, -, hfind⟩ := Option.bind_eq_some_iff.1 h
  exact Cookie.isName_of_find? hfind

/-- Under the name under which a token was found, a browser presents the token that it keeps. -/
theorem tokenIn?_bearing_of_found {token token' : String} (h : site.tokenIn? r = some token)
    (htoken : ∀ ch ∈ token'.toList, Cookie.IsPlain ch) (r' : Request) :
    site.tokenIn? (r'.bearing site.settings.cookieName (some token')) = some token' := by
  obtain ⟨hname, hvisible⟩ := isName_of_tokenIn? h
  rw [tokenIn?, Request.header?_bearing_cookie, Option.map_some, Option.bind_some]
  exact Cookie.find?_pair_of_isName hname hvisible htoken

section

variable (hs : Session.KeptForDays site.settings)

include hs

/-- A token is accepted until a minute after it expires. -/
theorem Presents.le (h : site.Presents c s r t id flashes) :
    c.now.seconds ≤ t.seconds + site.settings.sessionDays.toInt * 86400 + 60 := by
  obtain ⟨claims, hclaims⟩ := h.accepted
  rw [Session.verify_claimsAt hs h.issued h.present] at hclaims
  by_contra hlate
  rw [if_neg hlate] at hclaims
  cases hclaims

/-- The session that is opened is the one that the token was issued for. -/
theorem Presents.session_eq (h : site.Presents c s r t id flashes) :
    site.session r c.now =
      ⟨some id, flashes, some (Session.claimsAt site.settings t (some id) flashes).issuedAt,
        false⟩ := by
  rw [session_of_tokenIn? h.borne]
  simp only [Session.ofToken, Session.verify_claimsAt hs h.issued h.present, if_pos (h.le hs)]
  rfl

/-- A cookie is set exactly when the token is more than a day old, whatever the response says
otherwise. -/
theorem Presents.setCookie_eq (h : site.Presents c s r t id flashes) :
    (site.respond c s r).1.setCookie =
      if t.seconds + 86400 < c.now.seconds then
        some (Session.setCookie ⟨some id, flashes, none, false⟩ site.settings c.now)
      else none := by
  obtain ⟨p, hroute⟩ := h.route
  obtain ⟨u, hget⟩ := h.account
  have hsession := h.session_eq hs
  have howner : site.userOf? r c.now s.users = some u := by
    rw [userOf?, hsession, Option.bind_some, hget]
  -- the page itself sets no cookie, whatever it answers
  have hplain := (site.leavesSession_page r p u c s.called).setCookie
  have hstale := Session.isStale_claimsAt site.settings t c.now (some id) flashes false
  have hheader (x : Session) : isHeaderText (x.setCookie site.settings c.now) = true :=
    x.isHeaderText_setCookie c.now
      (Cookie.isHeaderText_of_visible (isName_of_tokenIn? h.borne).2)
  rw [site.respond_page hroute (h.inMemory.users s.calls) howner, pageFor,
    Methods.dressed_setCookie, hsession]
  simp only [refresh, hstale, hplain, hheader, Option.isNone_none, Bool.and_true, decide_eq_true_eq]
  split_ifs
  · rfl
  · exact hplain

/-- The text that a session's user is given renews the session. -/
theorem Presents.renews (h : site.Presents c s r t id flashes) :
    site.Renews c.now id flashes
      (Session.setCookie ⟨some id, flashes, none, false⟩ site.settings c.now)
      (Session.issueToken site.settings c.now (some id) flashes)
      (Session.claimsAt site.settings c.now (some id) flashes) := by
  have hname := (isName_of_tokenIn? h.borne).1
  have hissued := Session.toInt_issuedAt site.settings c.now (some id) flashes
  have hexpires := Session.toInt_expiresAt c.now (some id) flashes hs
  have hdays := hs.1
  refine ⟨?_, ?_, rfl, rfl, hissued, hexpires, ?_⟩
  · exact Session.received_setCookie_of_notMem hs hname.semicolon_notMem hname.equals_notMem _ _
  · rw [Session.verify_claimsAt hs h.present h.present, if_pos (by omega)]
  · have huser : ¬((some id).isNone && flashes.isEmpty) = true := Bool.false_ne_true
    have hage := Session.maxAge?_setCookie hs hname.semicolon_notMem
      (x := ⟨some id, flashes, none, false⟩) huser c.now
    rw [hage, hissued, hexpires, Option.map_some, Option.some_inj]
    change ((_ : Nat) : Int) = _
    omega

/-- Who has been given a new token presents it from then on, until it expires. -/
theorem Presents.again (h : site.Presents c s r t id flashes) {c' : Scene} (hc' : c'.InMemory)
    (hnow : c.now.seconds ≤ c'.now.seconds)
    (hlate : c'.now.seconds ≤ c.now.seconds + site.settings.sessionDays.toInt * 86400 + 60)
    {r' : Request} (hroute : ∃ p, Route.ofPath? r'.path = some (.page p))
    (hborne : site.tokenIn? r' =
      some (Session.issueToken site.settings c.now (some id) flashes)) :
    site.Presents c' (site.respond c s r).2.1 r' c.now id flashes where
  route := hroute
  inMemory := hc'
  issued := h.present
  present := Int.le_trans h.present hnow
  borne := hborne
  accepted := by
    rw [Session.verify_claimsAt hs h.present (Int.le_trans h.present hnow), if_pos hlate]
    exact ⟨_, rfl⟩
  account := exists_account_respond c s r h.account

/-- Who has been given a new token, and bears it within a day, is not given another. -/
theorem Presents.setCookie_again (h : site.Presents c s r t id flashes) {c' : Scene}
    (hc' : c'.InMemory) (hnow : c.now.seconds ≤ c'.now.seconds)
    (hsoon : c'.now.seconds ≤ c.now.seconds + 86400) {r' : Request}
    (hroute : ∃ p, Route.ofPath? r'.path = some (.page p))
    (hborne : site.tokenIn? r' =
      some (Session.issueToken site.settings c.now (some id) flashes)) :
    (site.respond c' (site.respond c s r).2.1 r').1.setCookie = none := by
  have hdays := hs.1
  have hpresents := h.again hs hc' hnow (by omega) hroute hborne
  rw [hpresents.setCookie_eq hs, if_neg (Int.not_lt.2 hsoon)]

/-- Whatever a user asks of the pages with an accepted token, and whatever they are answered, a
cookie is set exactly when the token was issued more than a day ago.  It renews the session.  When
they ask again within a day, and bear the new token, no cookie is set; so it is when they repeat the
request with it. -/
theorem renewed_once (h : site.Presents c s r t id flashes) :
    let answered := site.respond c s r
    (answered.1.setCookie.isSome = true ↔ 86400 < c.now.seconds - t.seconds) ∧
      ∀ text, answered.1.setCookie = some text →
        ∃ token claims, site.Renews c.now id flashes text token claims ∧
          (∀ c' r', c'.InMemory → c.now.seconds ≤ c'.now.seconds →
            c'.now.seconds ≤ c.now.seconds + 86400 →
            (∃ p, Route.ofPath? r'.path = some (.page p)) → site.tokenIn? r' = some token →
              (site.respond c' answered.2.1 r').1.setCookie = none) ∧
          site.tokenIn? (r.bearing site.settings.cookieName (some token)) = some token ∧
          (site.respond c answered.2.1
            (r.bearing site.settings.cookieName (some token))).1.setCookie = none := by
  intro answered
  have hcookie := h.setCookie_eq hs
  constructor
  · rw [hcookie]
    split_ifs with hold
    · simp only [Option.isSome_some, true_iff]
      omega
    · simp only [Option.isSome_none, Bool.false_eq_true, false_iff]
      omega
  · intro text htext
    rw [hcookie] at htext
    split_ifs at htext with hold
    rw [← Option.some.inj htext]
    have htoken : ∀ ch ∈ (Session.issueToken site.settings c.now (some id) flashes).toList,
        Cookie.IsPlain ch := Session.isPlain_of_mem_issueToken
    have hborne := tokenIn?_bearing_of_found h.borne htoken r
    refine ⟨_, _, h.renews hs, ?_, hborne, ?_⟩
    · intro c' r' hc' hnow hsoon hroute hbears
      exact h.setCookie_again hs hc' hnow hsoon hroute hbears
    · exact h.setCookie_again hs h.inMemory (Int.le_refl _) (by omega) h.route hborne

end

end Site

/-! ### A visitor after two days -/

namespace Sample

/-- The token of a visitor with a pending message. -/
def tokenWithMessage : String :=
  Session.issueToken (site .utc).settings sentAt (some visitor) ["welcome"]

/-- Two days later the visitor tries to write where one can only read. -/
def triesToWrite : Visit :=
  ⟨scene (.atSecond 1289270400 (by decide)),
    Request.bearing ⟨.post, "/auth/me", "", [], []⟩ Settings.cookieName (some tokenWithMessage)⟩

theorem presents_triesToWrite :
    (site .utc).Presents triesToWrite.scene ((site .utc).after .initial [arrivedAgain])
      triesToWrite.request sentAt visitor ["welcome"] := by
  have hs : Session.KeptForDays (site .utc).settings := ⟨by decide, by decide⟩
  have hcookie : (site .utc).settings.cookieName = Settings.cookieName := rfl
  obtain ⟨hne, hplain⟩ := Site.isPlain_cookieName hcookie
  obtain ⟨u, hget, -⟩ := Option.map_eq_some_iff.1 account_visitor
  have hroute : Route.ofPath? triesToWrite.request.path = some (.page .account) := by decide
  have hborne : (site .utc).tokenIn? triesToWrite.request = some tokenWithMessage :=
    Site.tokenIn?_bearing hne hplain Session.isPlain_of_mem_issueToken _
  have hissued : 60 ≤ sentAt.seconds := by decide
  have hpresent : 60 ≤ triesToWrite.scene.now.seconds := by decide
  refine ⟨⟨_, hroute⟩, inMemory_scene _, hissued, hpresent, hborne, ?_, u, hget⟩
  rw [Session.verify_claimsAt hs hissued hpresent, if_pos (by decide)]
  exact ⟨_, rfl⟩

/-- The visitor is given a new token with the message, and then no other. -/
theorem renewed_after_two_days :
    let s := (site .utc).after .initial [arrivedAgain]
    let answered := (site .utc).respond triesToWrite.scene s triesToWrite.request
    Session.KeptForDays (site .utc).settings ∧
      (site .utc).Presents triesToWrite.scene s triesToWrite.request sentAt visitor ["welcome"] ∧
      ∃ text token claims, answered.1.setCookie = some text ∧
        (site .utc).Renews triesToWrite.scene.now visitor ["welcome"] text token claims ∧
        ((site .utc).respond triesToWrite.scene answered.2.1
          (triesToWrite.request.bearing (site .utc).settings.cookieName
            (some token))).1.setCookie = none := by
  have hs : Session.KeptForDays (site .utc).settings := ⟨by decide, by decide⟩
  obtain ⟨hgiven, hrenewed⟩ := Site.renewed_once hs presents_triesToWrite
  obtain ⟨text, htext⟩ := Option.isSome_iff_exists.1 (hgiven.2 (by decide))
  obtain ⟨token, claims, hrenews, -, -, hrepeated⟩ := hrenewed text htext
  exact ⟨hs, presents_triesToWrite, text, token, claims, htext, hrenews, hrepeated⟩

end Sample

end Daybook
