import Daybook.Proofs.Site.Issue
import Mathlib.Data.List.Induction

/-!
# Tokens in circulation

The tokens that were ever given are out of the hands of the site: anybody may present them, in any
order and any number of times.  As long as nobody presents a token that is accepted but was not
given before, all of them name users who have accounts, and no session is opened for anybody else.
The user of a session is the one with whose login the identifier was first put into a cookie.

## Main definitions

* `Visit.Always`, `Visit.Once` : what is true of all visits of a history, or of one.
* `Site.GivenIn`, `Site.PutFirst` : the tokens that were given, and the login that named a user
  first.
* `Site.Honest` : only tokens that were given are accepted.
* `Site.Fresh` : no account is made under an identifier that is taken.
* `Site.pageFor` : what a user is answered who asks for a page.

## Main results

* `Site.PutFirst.unique` : one user only is the first to be named by an identifier.
* `Site.traced_of_givenIn` : every token that was given names an account.
* `Site.issued_logins_known` : so do all cookies and all sessions of a history.
-/

namespace Daybook

/-! ### The visits of a history -/

namespace Visit

/-- A condition on a visit and the history before it that is *always* satisfied. -/
def Always (P : List Visit → Visit → Prop) (visits : List Visit) : Prop :=
  ∀ before v, before ++ [v] <+: visits → P before v

/-- A condition on a visit and the history before it that was satisfied *once*. -/
def Once (P : List Visit → Visit → Prop) (visits : List Visit) : Prop :=
  ∃ before v, before ++ [v] <+: visits ∧ P before v

variable {P : List Visit → Visit → Prop} {visits before : List Visit} {v : Visit}

/-- A history ends with its last visit, or before it. -/
theorem append_singleton_isPrefix_iff {w : Visit} :
    before ++ [w] <+: visits ++ [v] ↔ before = visits ∧ w = v ∨ before ++ [w] <+: visits := by
  rw [List.prefix_concat_iff, List.append_singleton_inj]

theorem always_nil : Always P [] := by
  intro before v h
  exact absurd (List.prefix_nil.1 h) (List.concat_ne_nil _ _)

theorem always_append_singleton_iff : Always P (visits ++ [v]) ↔ Always P visits ∧ P visits v := by
  constructor
  · intro h
    exact ⟨fun before w hw => h before w (hw.trans (List.prefix_append _ _)),
      h visits v List.prefix_rfl⟩
  · rintro ⟨h, hv⟩ before w hw
    rcases append_singleton_isPrefix_iff.1 hw with ⟨rfl, rfl⟩ | hw
    · exact hv
    · exact h before w hw

theorem Always.of_isPrefix (h : Always P visits) (hbefore : before <+: visits) :
    Always P before :=
  fun first w hfirst => h first w (hfirst.trans hbefore)

theorem not_once_nil : ¬Once P [] := by
  rintro ⟨before, v, h, -⟩
  exact absurd (List.prefix_nil.1 h) (List.concat_ne_nil _ _)

theorem once_append_singleton_iff : Once P (visits ++ [v]) ↔ Once P visits ∨ P visits v := by
  constructor
  · rintro ⟨before, w, hw, hp⟩
    rcases append_singleton_isPrefix_iff.1 hw with ⟨rfl, rfl⟩ | hw
    · exact .inr hp
    · exact .inl ⟨before, w, hw, hp⟩
  · rintro (⟨before, w, hw, hp⟩ | hp)
    · exact ⟨before, w, hw.trans (List.prefix_append _ _), hp⟩
    · exact ⟨visits, v, List.prefix_rfl, hp⟩

theorem Once.of_isPrefix (h : Once P before) (hbefore : before <+: visits) : Once P visits := by
  obtain ⟨first, w, hfirst, hp⟩ := h
  exact ⟨first, w, hfirst.trans hbefore, hp⟩

end Visit

namespace Site

variable (site : Site)

/-- The answer to the visit that follows a history. -/
def answered (before : List Visit) (v : Visit) : Response × State × List String :=
  site.respond v.scene (site.after .initial before) v.request

theorem after_append_singleton (before : List Visit) (v : Visit) :
    site.after .initial (before ++ [v]) = (site.answered before v).2.1 :=
  site.after_append .initial before [v]

/-- A token that was *given* in a history. -/
def GivenIn (visits : List Visit) (token : String) : Prop :=
  Visit.Once (fun before v => site.Gives (site.answered before v).1 token) visits

/-- A user who was the first to be named by an identifier: with the login of the user, it was first
put into a cookie. -/
def PutFirst (visits : List Visit) (id : Uuid) (user : User) : Prop :=
  Visit.Once (fun before v =>
    site.LogsInAs v.scene (site.after .initial before) v.request user ∧ user.id = id ∧
      (∃ token, site.Gives (site.answered before v).1 token ∧ Token.userId? token = some id) ∧
      ∀ token, site.GivenIn before token → Token.userId? token ≠ some id) visits

/-- A history is *honest* when every token that is accepted has been given before. -/
def Honest (visits : List Visit) : Prop :=
  Visit.Always (fun before v => ∀ token claims, site.tokenIn? v.request = some token →
    Token.verify site.settings.sessionSecret v.scene.now.seconds token = .ok claims →
      site.GivenIn before token) visits

/-- Identifiers are *fresh* in a history when the next one is never that of an account. -/
def Fresh (visits : List Visit) : Prop :=
  Visit.Always (fun before v => (site.after .initial before).users.get?
    (v.scene.freshId (site.after .initial before).drawn) = none) visits

variable {site} {visits : List Visit} {v : Visit} {token : String} {id : Uuid} {user : User}

/-- One user only is the first to be named by an identifier. -/
theorem PutFirst.unique {user' : User} (h : site.PutFirst visits id user)
    (h' : site.PutFirst visits id user') : user = user' := by
  -- of two visits with a first login, the earlier would have given a token before the later
  have hle {before before' : List Visit} {v v' : Visit} (hbefore : before ++ [v] <+: visits)
      (hbefore' : before' ++ [v'] <+: visits)
      (hgiven : ∃ token, site.Gives (site.answered before v).1 token ∧
        Token.userId? token = some id)
      (hfirst : ∀ token, site.GivenIn before' token → Token.userId? token ≠ some id) :
      before'.length ≤ before.length := by
    obtain ⟨token, hgives, hid⟩ := hgiven
    refine Nat.not_lt.1 fun hlt => hfirst token ⟨before, v, ?_, hgives⟩ hid
    refine List.prefix_of_prefix_length_le hbefore
      ((List.prefix_append before' [v']).trans hbefore') ?_
    rwa [List.length_append, List.length_singleton]
  obtain ⟨before, v, hbefore, hlogin, -, hgiven, hfirst⟩ := h
  obtain ⟨before', v', hbefore', hlogin', -, hgiven', hfirst'⟩ := h'
  have hlength : (before ++ [v]).length = (before' ++ [v']).length := by
    rw [List.length_append, List.length_append,
      Nat.le_antisymm (hle hbefore' hbefore hgiven' hfirst) (hle hbefore hbefore' hgiven hfirst')]
    rfl
  have hsame : before ++ [v] = before' ++ [v'] :=
    (List.prefix_of_prefix_length_le hbefore hbefore' (Nat.le_of_eq hlength)).eq_of_length hlength
  obtain ⟨rfl, rfl⟩ := List.append_singleton_inj.1 hsame
  exact Except.ok.inj (hlogin.known.symm.trans hlogin'.known)

/-! ### Accounts -/

/-- With a login, the account of the user is kept under the identifier. -/
theorem LogsInAs.account {c : Scene} {s : State} {r : Request} (h : site.LogsInAs c s r user)
    (hfiled : s.users.Filed) : (site.respond c s r).2.1.users.get? user.id = some user := by
  rw [h.respond_eq]
  exact get?_of_identify hfiled h.known

/-- A request keeps every account as it is, unless the next identifier is that of the account. -/
theorem account_respond (c : Scene) (s : State) (r : Request) (h : s.users.get? id = some user)
    (hfresh : s.users.get? (c.freshId s.drawn) = none) :
    (site.respond c s r).2.1.users.get? id = some user := by
  cases site.respond_effect c s r with
  | read same => rw [same.users, h]
  | register p u _ _ registered =>
    obtain ⟨-, -, husers⟩ := Users.create_eq_ok_iff.1 registered.created
    rw [husers, Table.get?_insert_of_ne, h]
    rintro rfl
    rw [h] at hfresh
    cases hfresh
  | save _ _ _ _ _ _ _ _ _ _ _ _ wrote => rw [wrote.users, h]

/-- An identifier is *traced* to its first login when it still has an account, which is that of the
login if identifiers are fresh. -/
structure Traced (site : Site) (visits : List Visit) (id : Uuid) (user : User) : Prop where
  putFirst : site.PutFirst visits id user
  account : ∃ u, (site.after .initial visits).users.get? id = some u
  same : site.Fresh visits → (site.after .initial visits).users.get? id = some user

/-- A further visit leaves the trace. -/
theorem Traced.append_singleton (h : site.Traced visits id user) (v : Visit) :
    site.Traced (visits ++ [v]) id user where
  putFirst := h.putFirst.of_isPrefix (List.prefix_append _ _)
  account := by
    rw [after_append_singleton]
    exact exists_account_respond _ _ _ h.account
  same hfresh := by
    rw [after_append_singleton]
    exact account_respond _ _ _ (h.same (hfresh.of_isPrefix (List.prefix_append _ _)))
      (hfresh visits v List.prefix_rfl)

/-- A login that names a user whom no token has named before begins a trace. -/
theorem traced_of_logsInAs
    (hlogin : site.LogsInAs v.scene (site.after .initial visits) v.request user)
    (hgives : site.Gives (site.answered visits v).1 token)
    (hid : Token.userId? token = some user.id)
    (hfirst : ∀ token, site.GivenIn visits token → Token.userId? token ≠ some user.id) :
    site.Traced (visits ++ [v]) user.id user := by
  have haccount := hlogin.account (site.sound_after visits).users_filed
  refine ⟨⟨visits, v, List.prefix_rfl, hlogin, rfl, ⟨token, hgives, hid⟩, hfirst⟩, ?_, fun _ => ?_⟩
  · rw [after_append_singleton]
    exact ⟨user, haccount⟩
  · rw [after_append_singleton]
    exact haccount

/-! ### Runs -/

/-- The user of a session is named by a token that was accepted. -/
theorem exists_token_of_session {r : Request} {now : Instant}
    (h : (site.session r now).userId = some id) :
    ∃ token claims, site.tokenIn? r = some token ∧
      Token.verify site.settings.sessionSecret now.seconds token = .ok claims ∧
      Token.userId? token = some id := by
  cases htoken : site.tokenIn? r with
  | none =>
    rw [session_of_tokenIn?_none htoken] at h
    cases h
  | some token =>
    rw [session_of_tokenIn? htoken] at h
    cases hverify : Token.verify site.settings.sessionSecret now.seconds token with
    | error reason =>
      simp only [Session.ofToken, hverify] at h
      cases h
    | ok claims =>
      rw [(Session.ofToken_of_verify hverify).1] at h
      exact ⟨token, claims, rfl, hverify, (Token.userId?_of_verify hverify).trans h⟩

/-- A browser that bears a token presents it. -/
theorem tokenIn?_bearing (hne : site.settings.cookieName ≠ "")
    (hname : ∀ c ∈ site.settings.cookieName.toList, Cookie.IsPlain c)
    (htoken : ∀ c ∈ token.toList, Cookie.IsPlain c) (r : Request) :
    site.tokenIn? (r.bearing site.settings.cookieName (some token)) = some token := by
  rw [tokenIn?, Request.header?_bearing_cookie, Option.map_some, Option.bind_some,
    Cookie.find?_pair hne hname htoken]

/-- The user of a session in an honest history was named by a token that was given. -/
theorem Honest.givenIn_of_session (h : site.Honest (visits ++ [v]))
    (hid : (site.session v.request v.scene.now).userId = some id) :
    ∃ token, site.GivenIn visits token ∧ Token.userId? token = some id := by
  obtain ⟨token, claims, htoken, hverify, hnamed⟩ := exists_token_of_session hid
  exact ⟨token, h visits v List.prefix_rfl token claims htoken hverify, hnamed⟩

/-- In an honest history, every user whom a token names that was given is traced to a login.  Each
visit gives tokens of the user of its session, whom a former token has named, or of a user who logs
in, who was named before or is named for the first time. -/
theorem traced_of_givenIn (h : site.Honest visits) (hgiven : site.GivenIn visits token)
    (hid : Token.userId? token = some id) : ∃ user, site.Traced visits id user := by
  induction visits using List.reverseRecOn generalizing token with
  | nil => exact absurd hgiven Visit.not_once_nil
  | append_singleton visits v ih =>
    have hbefore (h' : ∃ token, site.GivenIn visits token ∧ Token.userId? token = some id) :
        ∃ user, site.Traced (visits ++ [v]) id user := by
      obtain ⟨token, hgiven, hid⟩ := h'
      obtain ⟨user, htraced⟩ := ih (h.of_isPrefix (List.prefix_append _ _)) hgiven hid
      exact ⟨user, htraced.append_singleton v⟩
    rcases Visit.once_append_singleton_iff.1 hgiven with hgiven | hgives
    · exact hbefore ⟨token, hgiven, hid⟩
    · rcases named_of_gives hgives hid with hsession | ⟨user, hlogin, rfl⟩
      · exact hbefore (h.givenIn_of_session hsession)
      · by_cases hformer : ∃ token, site.GivenIn visits token ∧ Token.userId? token = some user.id
        · exact hbefore hformer
        · exact ⟨user, traced_of_logsInAs hlogin hgives hid fun token hgiven hid =>
            hformer ⟨token, hgiven, hid⟩⟩

variable (site)

/-- What a user is answered who asks for a page: the page, with a new token if the session is
stale. -/
def pageFor (user : User) (c : Scene) (s : State) (r : Request) (p : PageRoute) :
    Response × State × List String :=
  let shown := site.pageAction r p user c s.called
  ((site.pageMethods r p).dressed r.method
    (site.refresh (site.session r c.now) c.now (answer shown.result)), shown.state, shown.asked)

theorem respond_page {r : Request} {c : Scene} {s : State} {p : PageRoute}
    (hroute : Route.ofPath? r.path = some (.page p)) (hout : c.userOutage s.calls = none)
    (huser : site.userOf? r c.now s.users = some user) :
    site.respond c s r = site.pageFor user c s r p := by
  have hhandle := site.handle_page hroute hout huser
  rw [site.respond_of_handle (congrArg Outcome.result hhandle), hhandle]
  rfl

/-- In an honest history, no token that was given names a user without an account.

Every cookie that is set clears the cookie or gives a token that can be read.  The user whom the
token names has an account then, and after all later visits.  The user of a session always has an
account, and was named first when they logged in themselves, if identifiers are fresh; it is this
user to whom the pages are shown, as long as the store is in memory. -/
theorem issued_logins_known (honest : site.Honest visits) {before : List Visit}
    (hv : before ++ [v] <+: visits) :
    let s := site.after .initial before
    let answered := site.answered before v
    (∀ text, answered.1.setCookie = some text →
        text = Cookie.clear site.settings.cookieName ∨
          ∃ token claims, site.Gives answered.1 token ∧ Token.claims? token = some claims) ∧
      (∀ token id, site.Gives answered.1 token → Token.userId? token = some id →
        ∀ soon, before ++ [v] <+: soon → soon <+: visits →
          ∃ u, (site.after .initial soon).users.get? id = some u ∧ u.id = id) ∧
      ∀ id, (site.session v.request v.scene.now).userId = some id →
        ∃ u first, s.users.get? id = some u ∧ site.PutFirst before id first ∧
          (site.Fresh before → u = first) ∧
          ∀ p, Route.ofPath? v.request.path = some (.page p) → v.scene.InMemory →
            answered = site.pageFor u v.scene s v.request p := by
  intro s answered
  refine ⟨fun text htext => clear_or_gives htext, fun token id hgives hid soon hsoon hvisits => ?_,
    fun id hid => ?_⟩
  · have hgiven : site.GivenIn soon token := ⟨before, v, hsoon, hgives⟩
    obtain ⟨user, htraced⟩ := traced_of_givenIn (honest.of_isPrefix hvisits) hgiven hid
    obtain ⟨u, hu⟩ := htraced.account
    exact ⟨u, hu, (site.sound_after soon).users_filed id u hu⟩
  · have hlast : site.Honest (before ++ [v]) := honest.of_isPrefix hv
    have hbefore : site.Honest before := hlast.of_isPrefix (List.prefix_append _ _)
    obtain ⟨token, hgiven, hnamed⟩ := hlast.givenIn_of_session hid
    obtain ⟨first, htraced⟩ := traced_of_givenIn hbefore hgiven hnamed
    obtain ⟨u, hu⟩ := htraced.account
    refine ⟨u, first, hu, htraced.putFirst, fun hfresh => ?_, fun p hroute hc => ?_⟩
    · exact Option.some.inj (hu.symm.trans (htraced.same hfresh))
    · refine site.respond_page hroute (hc.users s.calls) ?_
      rw [userOf?, hid]
      exact hu

end Site

/-! ### A visitor comes back -/

namespace Sample

/-- The token that the visitor is given at the login. -/
def tokenGiven : String :=
  Session.issueToken (site .utc).settings sentAt (some visitor) []

/-- The visitor logs in, -/
def loggingIn : Visit :=
  ⟨scene sentAt, arrival⟩

/-- and looks at the own account with the token that was given. -/
def comingBack : Visit :=
  ⟨scene sentAt,
    Request.bearing ⟨.get, "/auth/me", "", [], []⟩ Settings.cookieName (some tokenGiven)⟩

/-- The visitor is known at the login. -/
theorem exists_logsInAs :
    ∃ u, u.id = visitor ∧ (site .utc).LogsInAs (scene sentAt) .initial arrival u := by
  obtain ⟨hfields, hcode, herror⟩ := fields_arrival
  obtain ⟨u, hu, -, ⟨hfound, -⟩ | ⟨-, hmade⟩⟩ :=
    Site.identify_of_admits (admits_scene (site .utc) sentAt .initial)
  · cases hfound
  · obtain ⟨-, hnew, -⟩ := Users.create_eq_ok_iff.1 hmade.created
    refine ⟨u, by rw [hnew]; rfl, by decide, .inl rfl, hfields, ?_⟩
    rw [hcode, herror]
    exact hu

/-- The visitor, who comes back with the token, is shown the own account. -/
theorem visitor_known :
    (site .utc).Honest [loggingIn, comingBack] ∧ (site .utc).Fresh [loggingIn] ∧
      [loggingIn] ++ [comingBack] <+: [loggingIn, comingBack] ∧
      ∃ u, (site .utc).PutFirst [loggingIn] visitor u ∧
        (site .utc).answered [loggingIn] comingBack =
          (site .utc).pageFor u (scene sentAt) ((site .utc).after .initial [loggingIn])
            comingBack.request .account := by
  have hs : Session.KeptForDays (site .utc).settings := ⟨by decide, by decide⟩
  have hname : isHeaderText (site .utc).settings.cookieName = true :=
    Settings.isHeaderText_cookieName
  have hcookie : (site .utc).settings.cookieName = Settings.cookieName := rfl
  obtain ⟨hne, hplain⟩ := Site.isPlain_cookieName hcookie
  obtain ⟨u, hid, hlogin⟩ := exists_logsInAs
  have hgives : (site .utc).Gives ((site .utc).answered [] loggingIn).1 tokenGiven := by
    have h := hlogin.gives hname
    rw [hid] at h
    exact h
  have hborne : (site .utc).tokenIn? comingBack.request = some tokenGiven :=
    Site.tokenIn?_bearing hne hplain Session.isPlain_of_mem_issueToken _
  have honest : (site .utc).Honest ([] ++ [loggingIn] ++ [comingBack]) := by
    refine Visit.always_append_singleton_iff.2
      ⟨Visit.always_append_singleton_iff.2 ⟨Visit.always_nil, ?_⟩, ?_⟩
    · rintro token claims ⟨⟩
    · intro token claims htoken _
      obtain rfl := Option.some.inj (hborne.symm.trans htoken)
      exact Visit.once_append_singleton_iff.2 (.inr hgives)
  have hfresh : (site .utc).Fresh ([] ++ [loggingIn]) :=
    Visit.always_append_singleton_iff.2 ⟨Visit.always_nil, rfl⟩
  have hsession : ((site .utc).session comingBack.request sentAt).userId = some visitor := by
    have hclock : 60 ≤ sentAt.seconds := by decide
    have hverify := Session.verify_claimsAt hs hclock hclock (some visitor) []
    rw [if_pos (by decide)] at hverify
    rw [Site.session_of_tokenIn? hborne]
    exact (Session.ofToken_of_verify hverify).1
  have hlast : [loggingIn] ++ [comingBack] <+: [loggingIn, comingBack] := List.prefix_rfl
  obtain ⟨-, -, hknown⟩ := (site .utc).issued_logins_known honest hlast
  obtain ⟨u, first, -, hfirst, hsame, hshown⟩ := hknown visitor hsession
  obtain rfl := hsame hfresh
  exact ⟨honest, hfresh, hlast, u, hfirst, hshown _ (by decide) (inMemory_scene _)⟩

end Sample

end Daybook
