import Daybook.Proofs.Service.Accounts
import Daybook.Site.Basic

/-!
# What a request changes

Of all requests two kinds change what is kept: a login with a profile that has no account makes the
account, and a submission for today from a user who is logged in puts a text.  This file finds, for
every request in every state, which of the three has happened, together with the response.

## Main definitions

* `Methods.chosen`, `Methods.dressed` : what is done for a method, and what it makes of a response.
* `Site.userOf?` : the account that the session of a request names.
* `Site.dateIn?` : the date in a path.
* `Site.pageAction` : what is done for a user who asks for a page.
* `Site.Effect` : what a request changes.

## Main results

* `Site.guard_cases` : who is let pass to the pages.
* `Site.handle_page` : what is done for those who are.
* `Site.saveEntry_cases`, `Site.identify_cases` : what the two writing resources do.
* `Site.respond_effect` : every response comes with one of the three effects.
* `Site.respond_submission` : a submission that has to be saved is saved.
-/

namespace Daybook

/-! ### Methods of a resource -/

namespace Methods

variable {ε α : Type}

/-- What a resource does for a method; it refuses a method that it does not allow. -/
def chosen (ms : Methods α) (refusal : α) : Method → α
  | .get => ms.get
  | .head => ms.get
  | .post => ms.post.getD refusal
  | _ => refusal

/-- What a method makes of the response of a resource. -/
def dressed (ms : Methods α) (method : Method) (r : Response) : Response :=
  match method, ms.post with
  | .get, _ => r
  | .head, _ => r.withhold
  | .post, some _ => r
  | _, _ => r.allowing ms.allowed

theorem dressed_status (ms : Methods α) (method : Method) (r : Response) :
    (ms.dressed method r).status = r.status := by
  unfold dressed
  split <;> rfl

theorem dressed_location (ms : Methods α) (method : Method) (r : Response) :
    (ms.dressed method r).location = r.location := by
  unfold dressed
  split <;> rfl

/-- Every method runs what is chosen for it, and dresses the response. -/
theorem serve_apply (ms : Methods α) (run : α → Action ε Response) (refusal : α) (method : Method)
    (c : Scene) (s : State) :
    ms.serve run refusal method c s =
      ⟨(run (ms.chosen refusal method) c s).result.map (ms.dressed method),
        (run (ms.chosen refusal method) c s).state,
        (run (ms.chosen refusal method) c s).asked⟩ := by
  obtain ⟨get, post⟩ := ms
  have hid (o : Outcome ε Response) : o = ⟨o.result.map fun r => r, o.state, o.asked⟩ := by
    obtain ⟨result, _, _⟩ := o
    cases result <;> rfl
  cases method <;> cases post <;>
    first
      | exact hid _
      | exact Action.map_apply _ _ c s

theorem keepsData_serve {ms : Methods α} {run : α → Action ε Response} {refusal : α}
    {method : Method} (h : (run (ms.chosen refusal method)).KeepsData) :
    (ms.serve run refusal method).KeepsData := by
  intro c s
  rw [serve_apply]
  exact h c s

end Methods

namespace Problem

theorem response_status_ne (p : Problem) : p.response.status ≠ 200 := by
  cases p <;> simp [response, Response.of]

end Problem

namespace Site

open Daybook.Action (KeepsData)

variable (site : Site)

/-- The account that the session of a request names. -/
def userOf? (r : Request) (now : Instant) (us : Users) : Option User :=
  (site.session r now).userId.bind us.get?

/-- The date in a path. -/
def dateIn? (raw : String) : Option String :=
  Utf8.decode? (Percent.decode (Utf8.encode raw))

theorem pathDate_of_some {raw date : String} (h : dateIn? raw = some date)
    (next : String → Action Problem Response) : pathDate raw next = next date := by
  rw [dateIn?] at h
  simp only [pathDate, h]

theorem pathDate_of_none {raw : String} (h : dateIn? raw = none)
    (next : String → Action Problem Response) :
    pathDate raw next = pure (.of 400 (.plain "Invalid URL: Invalid UTF-8 in `date`")) := by
  rw [dateIn?] at h
  simp only [pathDate, h]

/-- The response that an action on a page ends with. -/
def answer : Except Problem Response → Response
  | .ok r => r
  | .error p => p.response

theorem finish_apply {ε : Type} (x : Action Problem Response) (c : Scene) (s : State) :
    (finish x : Action ε Response) c s =
      ⟨.ok (answer (x c s).result), (x c s).state, (x c s).asked⟩ := by
  unfold finish Action.settle answer
  rfl

theorem redirect_status (location cookie : String) : (redirect location cookie).status = 302 := by
  unfold redirect
  split <;> rfl

theorem redirect_location {location cookie : String} (h : isHeaderText cookie = true) :
    (redirect location cookie).location = some location := by
  rw [redirect, if_pos h]

theorem refresh_status (session : Session) (now : Instant) (r : Response) :
    (site.refresh session now r).status = r.status := by
  simp only [refresh]
  split <;> rfl

theorem refresh_content (session : Session) (now : Instant) (r : Response) :
    (site.refresh session now r).content = r.content := by
  simp only [refresh]
  split <;> rfl

theorem refresh_location (session : Session) (now : Instant) (r : Response) :
    (site.refresh session now r).location = r.location := by
  simp only [refresh]
  split <;> rfl

theorem refresh_body (session : Session) (now : Instant) (r : Response) :
    (site.refresh session now r).body = r.body := by
  simp only [refresh]
  split <;> rfl

/-! ### Access -/

theorem keepsData_guard {r : Request} {inner : User → Action Problem Response}
    (h : ∀ user, (inner user).KeepsData) : (site.guard r inner).KeepsData := by
  refine KeepsData.settle (.bind .now fun now => ?_) _
  dsimp only
  split
  · exact .pure _
  · refine .bind ((KeepsData.getUser _).mapError _) fun user => ?_
    cases user with
    | none => exact .pure _
    | some user => exact .bind (KeepsData.settle (h user) _) fun _ => .pure _

private theorem mapError_getUser_of_outage {id : Uuid} {c : Scene} {s : State} {reason : String}
    (h : c.userOutage s.calls = some reason) :
    ((Action.getUser id).mapError Problem.ofStoreError) c s =
      ⟨.error (.ofStoreError (.unavailable reason)), s.called, []⟩ := by
  simp only [Action.mapError, Action.getUser_of_outage h, Except.mapError]

private theorem mapError_getUser_of_service {id : Uuid} {c : Scene} {s : State}
    (h : c.userOutage s.calls = none) :
    ((Action.getUser id).mapError Problem.ofStoreError) c s =
      ⟨.ok (s.users.get? id), s.called, []⟩ := by
  simp only [Action.mapError, Action.getUser_of_service h, Except.mapError]

/-- Those whose session names an account are let pass, and their session is refreshed. -/
theorem guard_of_user {r : Request} {c : Scene} {s : State} {user : User}
    (hout : c.userOutage s.calls = none) (huser : site.userOf? r c.now s.users = some user)
    (inner : User → Action Problem Response) :
    site.guard r inner c s =
      ⟨.ok (site.refresh (site.session r c.now) c.now (answer (inner user c s.called).result)),
        (inner user c s.called).state, (inner user c s.called).asked⟩ := by
  obtain ⟨id, hid, hget⟩ := Option.bind_eq_some_iff.1 huser
  unfold guard
  rw [finish_apply, Action.now_bind]
  simp only [hid]
  rw [Action.bind_of_ok (congrArg Outcome.result (mapError_getUser_of_service hout)),
    mapError_getUser_of_service hout, hget]
  simp only [welcome]
  rw [Action.bind_of_ok (congrArg Outcome.result (finish_apply (inner user) c s.called)),
    finish_apply]
  simp [Pure.pure, Action.pure, answer]

/-- Those whose session names nobody are turned away. -/
theorem guard_of_none {r : Request} {c : Scene} (h : (site.session r c.now).userId = none)
    (inner : User → Action Problem Response) (s : State) :
    site.guard r inner c s = ⟨.ok site.unauthorized, s, []⟩ := by
  unfold guard
  rw [finish_apply, Action.now_bind]
  simp only [h]
  rfl

/-- Those whose session names a user without an account are turned away. -/
theorem guard_of_unknown {r : Request} {c : Scene} {s : State} {id : Uuid}
    (hout : c.userOutage s.calls = none) (hid : (site.session r c.now).userId = some id)
    (hu : s.users.get? id = none) (inner : User → Action Problem Response) :
    site.guard r inner c s = ⟨.ok site.unauthorized, s.called, []⟩ := by
  unfold guard
  rw [finish_apply, Action.now_bind]
  simp only [hid]
  rw [Action.bind_of_ok (congrArg Outcome.result (mapError_getUser_of_service hout)),
    mapError_getUser_of_service hout, hu]
  rfl

/-- Those whose session names an account are let pass.  All others are turned away, and so is
everybody when the account cannot be looked up. -/
theorem guard_cases (r : Request) (inner : User → Action Problem Response) (c : Scene)
    (s : State) :
    (∃ response, (site.guard r inner c s).result = .ok response ∧
        (response = site.unauthorized ∨ ∃ detail, response = (Problem.internal detail).response) ∧
        s.SameData (site.guard r inner c s).state) ∨
      ∃ user, site.userOf? r c.now s.users = some user ∧ c.userOutage s.calls = none := by
  cases hid : (site.session r c.now).userId with
  | none =>
    rw [site.guard_of_none hid]
    exact .inl ⟨_, rfl, .inl rfl, .refl s⟩
  | some id =>
    have huser : site.userOf? r c.now s.users = s.users.get? id := by
      rw [userOf?, hid, Option.bind_some]
    cases hout : c.userOutage s.calls with
    | some reason =>
      unfold guard
      rw [finish_apply, Action.now_bind]
      simp only [hid]
      rw [Action.bind_of_error (congrArg Outcome.result (mapError_getUser_of_outage hout)),
        mapError_getUser_of_outage hout]
      exact .inl ⟨_, rfl, .inr ⟨(StoreError.unavailable reason).message, rfl⟩, s.sameData_called⟩
    | none =>
      cases hu : s.users.get? id with
      | none =>
        rw [site.guard_of_unknown hout hid hu]
        exact .inl ⟨_, rfl, .inl rfl, s.sameData_called⟩
      | some user => exact .inr ⟨user, huser.trans hu, rfl⟩

/-! ### Submissions -/

/-- A submission that can be read is for the journal to save. -/
theorem saveEntry_of_submission {user : User} {r : Request} {date : String} {sent : Submission}
    (hvalid : Date.isValidText date = true) (hsent : submission r = .ok sent) (c : Scene)
    (s : State) :
    site.saveEntry user r date c s =
      ((Journal.save user.id date sent.body (Journal.today site.zone c.now)).mapError
          Problem.ofSaveError >>= fun e => pure (Response.of 200 (.page (.ofEntry e true true))))
        c s := by
  obtain ⟨d, hd⟩ := Option.isSome_iff_exists.1 hvalid
  have hread : (Date.read date).mapError Problem.ofDateError = .ok d := by
    simp only [Date.read, hd, Except.mapError]
  unfold saveEntry
  rw [checkDate, hread, Action.ofExcept_ok_bind, hsent, Except.mapError, Action.ofExcept_ok_bind,
    Action.now_bind]

/-- A submission is saved under its user and date when it can be read and the date is that of today.
Otherwise nothing is changed. -/
theorem saveEntry_cases (user : User) (r : Request) (date : String) (c : Scene) (s : State) :
    ((∃ p, (site.saveEntry user r date c s).result = .error p) ∧
        s.SameData (site.saveEntry user r date c s).state) ∨
      ∃ sent e, Date.isValidText date = true ∧ submission r = .ok sent ∧
        date = Journal.today site.zone c.now ∧
        (site.saveEntry user r date c s).result = .ok (.of 200 (.page (.ofEntry e true true))) ∧
        s.Wrote c user.id date sent.body e (site.saveEntry user r date c s).state := by
  cases hdate : Date.parse? date with
  | none =>
    have hread : (Date.read date).mapError Problem.ofDateError =
        .error (.ofDateError (.invalidDate date)) := by
      simp only [Date.read, hdate, Except.mapError]
    unfold saveEntry
    rw [checkDate, hread, Action.ofExcept_error_bind]
    exact .inl ⟨⟨_, rfl⟩, .refl s⟩
  | some d =>
    have hvalid : Date.isValidText date = true := Option.isSome_iff_exists.2 ⟨d, hdate⟩
    cases hsent : submission r with
    | error message =>
      have hread : (Date.read date).mapError Problem.ofDateError = .ok d := by
        simp only [Date.read, hdate, Except.mapError]
      unfold saveEntry
      rw [checkDate, hread, Action.ofExcept_ok_bind, hsent, Except.mapError,
        Action.ofExcept_error_bind]
      exact .inl ⟨⟨_, rfl⟩, .refl s⟩
    | ok sent =>
      rw [site.saveEntry_of_submission hvalid hsent]
      rcases Journal.save_cases user.id date sent.body (Journal.today site.zone c.now) c s with
        ⟨⟨e, he⟩, hs⟩ | ⟨htoday, e, he, hw⟩
      · rw [Action.bind_of_error (Action.mapError_of_error _ he)]
        exact .inl ⟨⟨_, rfl⟩, hs⟩
      · rw [Action.bind_of_ok (Action.mapError_of_ok _ he)]
        exact .inr ⟨sent, e, hvalid, rfl, htoday, rfl, hw⟩

/-- In memory, a submission for today that can be read is saved. -/
theorem saveEntry_of_inMemory (user : User) {r : Request} {date : String} {sent : Submission}
    {c : Scene} (hc : c.InMemory) (hvalid : Date.isValidText date = true)
    (hsent : submission r = .ok sent) (htoday : date = Journal.today site.zone c.now) (s : State) :
    ∃ e, (site.saveEntry user r date c s).result = .ok (.of 200 (.page (.ofEntry e true true))) ∧
      s.Wrote c user.id date sent.body e (site.saveEntry user r date c s).state := by
  obtain ⟨e, he, hw⟩ := Journal.save_of_inMemory hc user.id date sent.body s
  rw [site.saveEntry_of_submission hvalid hsent, ← htoday,
    Action.bind_of_ok (Action.mapError_of_ok _ he)]
  exact ⟨e, rfl, hw⟩

/-! ### Pages that only read -/

theorem keepsData_pathDate (raw : String) {next : String → Action Problem Response}
    (h : ∀ date, (next date).KeepsData) : (pathDate raw next).KeepsData := by
  unfold pathDate
  split
  · exact h _
  · exact .pure _

theorem keepsData_pageOf (user : User) (date : String) (editable : Bool) :
    (pageOf user date editable).KeepsData := by
  refine .bind ((Journal.keepsData_find user.id date).mapError _) fun found => ?_
  cases found with
  | some e => exact .pure _
  | none => exact .bind .drawId fun _ => .bind .now fun _ => .pure _

theorem keepsData_showEntry (user : User) (date : String) :
    (site.showEntry user date).KeepsData :=
  .bind (.ofExcept _) fun _ => .bind .now fun _ => keepsData_pageOf user date _

theorem keepsData_editEntry (user : User) (date : String) :
    (site.editEntry user date).KeepsData := by
  refine .bind (.ofExcept _) fun _ => .bind .now fun now => ?_
  split
  · exact keepsData_pageOf user date true
  · exact .fail _

theorem keepsData_showCalendar (user : User) (date : String) :
    (site.showCalendar user date).KeepsData :=
  .bind (.ofExcept _) fun _ => .bind .now fun _ =>
    .bind ((Journal.keepsData_month _ _ _ _).mapError _) fun _ => .pure _

theorem keepsData_showRoot : site.showRoot.KeepsData :=
  .bind .now fun _ => .pure _

theorem keepsData_showLogin (r : Request) : (site.showLogin r).KeepsData := by
  refine .bind .now fun now => ?_
  dsimp only
  split
  · split <;> exact .pure _
  · exact .pure _

theorem keepsData_logout (r : Request) : (site.logout r).KeepsData :=
  .bind .now fun _ => .pure _

/-- What is done for a user who asks for a page. -/
def pageAction (r : Request) (p : PageRoute) (user : User) : Action Problem Response :=
  (site.pageMethods r p).chosen (fun _ => pure notAllowed) r.method user

/-- All pages only read, unless an entry is submitted. -/
theorem keepsData_pageAction (r : Request) (p : PageRoute) (user : User)
    (h : ∀ raw, p = .entry raw → r.method ≠ .post) : (site.pageAction r p user).KeepsData := by
  unfold pageAction
  have hget : ((site.pageMethods r p).get user).KeepsData := by
    cases p with
    | root => exact site.keepsData_showRoot
    | account => exact .pure _
    | entry raw => exact keepsData_pathDate raw (site.keepsData_showEntry user)
    | editing raw => exact keepsData_pathDate raw (site.keepsData_editEntry user)
    | calendar raw => exact keepsData_pathDate raw (site.keepsData_showCalendar user)
  cases hm : r.method with
  | get => exact hget
  | head => exact hget
  | post =>
    cases p with
    | entry raw => exact absurd hm (h raw rfl)
    | _ => exact .pure _
  | options => exact .pure _
  | other name => exact .pure _

/-! ### Logging in -/

/-- A user who comes back from the dialog is known when they bring a code for which the provider
gives a profile, and the profile has an account or is given one.  Otherwise nothing is changed. -/
theorem identify_cases (code error : Option String) (c : Scene) (s : State) :
    ((∃ p, (site.identify code error c s).result = .error p) ∧
        s.SameData (site.identify code error c s).state) ∨
      ∃ text p u, error = none ∧ code = some text ∧ text.isEmpty = false ∧
        (Provider.identify c.ask site.endpoints site.settings text).1 = .ok p ∧
        (site.identify code error c s).result = .ok u ∧
        (s.users.findByUid? p.id = some u ∧ s.SameData (site.identify code error c s).state ∨
          s.Registered c p u (site.identify code error c s).state) := by
  cases error with
  | some e => exact .inl ⟨⟨_, rfl⟩, .refl s⟩
  | none =>
    cases code with
    | none => exact .inl ⟨⟨_, rfl⟩, .refl s⟩
    | some text =>
      simp only [identify]
      split
      · exact .inl ⟨⟨_, rfl⟩, .refl s⟩
      · next hempty =>
        cases hp : (Provider.identify c.ask site.endpoints site.settings text).1 with
        | error e =>
          have hask : (Action.identify site.endpoints site.settings text c s).result = .error e :=
            hp
          rw [Action.bind_of_error (Action.mapError_of_error _ hask)]
          exact .inl ⟨⟨_, rfl⟩, .refl s⟩
        | ok p =>
          have hask : (Action.identify site.endpoints site.settings text c s).result = .ok p := hp
          rw [Action.bind_of_ok (Action.mapError_of_ok _ hask)]
          have hne : text.isEmpty = false := by simpa using hempty
          rcases Accounts.ofProfile_cases p c s with
            ⟨⟨e, he⟩, hs⟩ | ⟨u, hu, hfound, hs⟩ | ⟨u, hu, hr⟩
          · exact .inl ⟨⟨_, Action.mapError_of_error _ he⟩, hs⟩
          · exact .inr ⟨text, p, u, trivial, rfl, hne, hp, Action.mapError_of_ok _ hu,
              .inl ⟨hfound, hs⟩⟩
          · exact .inr ⟨text, p, u, trivial, rfl, hne, hp, Action.mapError_of_ok _ hu, .inr hr⟩

/-- The provider gives a profile for the code that a request brings. -/
def Identifies (c : Scene) (r : Request) (p : Profile) : Prop :=
  ∃ code, Form.value? "code" (Form.parse (Utf8.encode r.query)) = some code ∧
    (Provider.identify c.ask site.endpoints site.settings code).1 = .ok p

/-- A user who comes back from the dialog is sent to the root, after an account was made for their
profile if it had none, or nothing is changed. -/
theorem callback_cases (r : Request) (c : Scene) (s : State) :
    s.SameData (site.callback r c s).state ∨
      ∃ p u, site.Identifies c r p ∧ s.Registered c p u (site.callback r c s).state ∧
        (site.callback r c s).result =
          .ok (redirect "/"
            (((site.session r c.now).login u.id).setCookie site.settings c.now)) := by
  cases hrep : Form.repeated? ["code", "error"] (Form.parse (Utf8.encode r.query)) with
  | some name =>
    simp only [callback, hrep]
    exact .inl (.refl s)
  | none =>
    simp only [callback, hrep]
    rw [Action.now_bind]
    rcases site.identify_cases (Form.value? "code" (Form.parse (Utf8.encode r.query)))
        (Form.value? "error" (Form.parse (Utf8.encode r.query))) c s with
      ⟨-, hs⟩ | ⟨text, p, u, -, hcode, -, hp, hu, ⟨-, hs⟩ | hr⟩
    · exact .inl hs
    · exact .inl hs
    · refine .inr ⟨p, u, ⟨text, hcode, hp⟩, hr, ?_⟩
      simp only [Action.settle, hu, afterDialog]

/-! ### Requests -/

/-- What a request changes, given the response to it and the state afterwards. -/
inductive Effect (c : Scene) (s : State) (r : Request) (response : Response) (s' : State) : Prop
  /-- Nothing is changed, and it was no submission that has succeeded. -/
  | read (same : s.SameData s')
      (unsaved : ∀ raw, r.method = .post → Route.ofPath? r.path = some (.page (.entry raw)) →
        response.status ≠ 200)
  /-- An account is made for a user who comes back from the provider's dialog, and the user is sent
  to the root. -/
  | register (p : Profile) (u : User) (route : Route.ofPath? r.path = some .callback)
      (profile : site.Identifies c r p) (registered : s.Registered c p u s')
      (status : response.status = 302)
      (location : isHeaderText
        (((site.session r c.now).login u.id).setCookie site.settings c.now) = true →
          response.location = some "/")
  /-- A submission for today is put under the user who is logged in. -/
  | save (user : User) (raw date : String) (sent : Submission) (e : Entry)
      (method : r.method = .post) (route : Route.ofPath? r.path = some (.page (.entry raw)))
      (owner : site.userOf? r c.now s.users = some user) (decoded : dateIn? raw = some date)
      (valid : Date.isValidText date = true) (today : date = Journal.today site.zone c.now)
      (body : submission r = .ok sent) (wrote : s.Wrote c user.id date sent.body e s')
      (status : response.status = 200)

theorem respond_of_handle {r : Request} {c : Scene} {s : State} {response : Response}
    (h : (site.handle r c s).result = .ok response) :
    site.respond c s r = (response, (site.handle r c s).state, (site.handle r c s).asked) := by
  simp only [respond, h]

theorem handle_result (r : Request) (c : Scene) (s : State) :
    (site.handle r c s).result = .ok (site.respond c s r).1 := by
  cases h : (site.handle r c s).result with
  | ok response => rw [site.respond_of_handle h]
  | error e => exact e.elim

theorem respond_state (r : Request) (c : Scene) (s : State) :
    (site.respond c s r).2.1 = (site.handle r c s).state := by
  rw [site.respond_of_handle (site.handle_result r c s)]

/-- What the site does with the request of a user who is logged in for a page. -/
theorem handle_page {r : Request} {c : Scene} {s : State} {p : PageRoute} {user : User}
    (hroute : Route.ofPath? r.path = some (.page p)) (hout : c.userOutage s.calls = none)
    (huser : site.userOf? r c.now s.users = some user) :
    site.handle r c s =
      ⟨.ok ((site.pageMethods r p).dressed r.method (site.refresh (site.session r c.now) c.now
          (answer (site.pageAction r p user c s.called).result))),
        (site.pageAction r p user c s.called).state,
        (site.pageAction r p user c s.called).asked⟩ := by
  simp only [handle, hroute, serve]
  rw [Methods.serve_apply, site.guard_of_user hout huser]
  rfl

private theorem effect_of_keepsData {r : Request} {c : Scene} {s : State}
    (h : (site.handle r).KeepsData)
    (hr : ∀ raw, r.method = .post → Route.ofPath? r.path ≠ some (.page (.entry raw))) :
    site.Effect c s r (site.respond c s r).1 (site.respond c s r).2.1 := by
  refine .read ?_ fun raw hm hroute => absurd hroute (hr raw hm)
  rw [respond_state]
  exact h c s

theorem keepsData_openTo {r : Request} {x : Action Problem Response} (h : x.KeepsData) :
    (serve.openTo r x).KeepsData := by
  refine Methods.keepsData_serve (KeepsData.settle ?_ _)
  cases r.method with
  | get => exact h
  | head => exact h
  | _ => exact .pure _

private theorem effect_callback {r : Request} {c : Scene} {s : State}
    (hroute : Route.ofPath? r.path = some .callback) :
    site.Effect c s r (site.respond c s r).1 (site.respond c s r).2.1 := by
  -- what is chosen for the method: the callback itself, or the refusal
  let x := (Methods.mk (site.callback r) none).chosen (pure notAllowed) r.method
  have hhandle : site.handle r c s =
      ⟨.ok ((Methods.mk (site.callback r) none).dressed r.method (answer (x c s).result)),
        (x c s).state, (x c s).asked⟩ := by
    simp only [handle, hroute, serve, serve.openTo]
    rw [Methods.serve_apply, finish_apply]
    rfl
  have hread (hs : s.SameData (x c s).state) :
      site.Effect c s r (site.respond c s r).1 (site.respond c s r).2.1 := by
    refine .read ?_ fun raw _ h => by rw [hroute] at h; simp at h
    rw [respond_state, hhandle]
    exact hs
  by_cases hm : r.method = .get ∨ r.method = .head
  · have hx : x = site.callback r := by
      rcases hm with hm | hm <;> simp only [x, hm, Methods.chosen]
    rcases site.callback_cases r c s with hs | ⟨p, u, hp, hr, hresult⟩
    · exact hread (hx ▸ hs)
    · rw [respond_state, site.respond_of_handle (congrArg Outcome.result hhandle), hhandle, hx,
        hresult]
      refine .register p u hroute hp hr ?_ fun h => ?_
      · rw [Methods.dressed_status, answer, redirect_status]
      · rw [Methods.dressed_location, answer, redirect_location h]
  · refine hread ?_
    have hx : x = pure notAllowed := by
      rw [not_or] at hm
      simp only [x]
      cases h : r.method with
      | get => exact absurd h hm.1
      | head => exact absurd h hm.2
      | _ => rfl
    rw [hx]
    exact .refl s

theorem handle_submission {r : Request} {raw : String} (hm : r.method = .post)
    (hroute : Route.ofPath? r.path = some (.page (.entry raw))) :
    site.handle r = site.guard r fun user => pathDate raw (site.saveEntry user r) := by
  simp only [handle, hroute, serve, hm]
  rfl

private theorem effect_submission {r : Request} {c : Scene} {s : State} {raw : String}
    (hm : r.method = .post) (hroute : Route.ofPath? r.path = some (.page (.entry raw))) :
    site.Effect c s r (site.respond c s r).1 (site.respond c s r).2.1 := by
  let inner (user : User) : Action Problem Response := pathDate raw (site.saveEntry user r)
  have hhandle : site.handle r c s = site.guard r inner c s := by
    rw [site.handle_submission hm hroute]
  have hread {response : Response} (hresult : (site.guard r inner c s).result = .ok response)
      (hs : s.SameData (site.guard r inner c s).state) (hne : response.status ≠ 200) :
      site.Effect c s r (site.respond c s r).1 (site.respond c s r).2.1 := by
    rw [site.respond_of_handle (hhandle ▸ hresult), hhandle]
    exact .read hs fun _ _ _ => hne
  rcases site.guard_cases r inner c s with ⟨response, hresult, hresp, hs⟩ | ⟨user, howner, hout⟩
  · refine hread hresult hs ?_
    rcases hresp with rfl | ⟨detail, rfl⟩
    · rw [unauthorized, redirect_status]
      decide
    · exact Problem.response_status_ne _
  · have hguard := site.guard_of_user hout howner inner
    have hfail (hs : s.SameData (inner user c s.called).state)
        (hne : (answer (inner user c s.called).result).status ≠ 200) :
        site.Effect c s r (site.respond c s r).1 (site.respond c s r).2.1 := by
      refine hread (congrArg Outcome.result hguard) ?_ ?_
      · rw [hguard]
        exact hs
      · rwa [refresh_status]
    cases hdate : dateIn? raw with
    | none =>
      rw [show inner user = _ from pathDate_of_none hdate _] at hfail
      exact hfail s.sameData_called (by simp [Pure.pure, Action.pure, answer, Response.of])
    | some date =>
      rw [show inner user = _ from pathDate_of_some hdate _] at hfail hguard
      rcases site.saveEntry_cases user r date c s.called with
        ⟨⟨p, hp⟩, hs⟩ | ⟨sent, e, hvalid, hsent, htoday, hok, hw⟩
      · rw [hp] at hfail
        exact hfail (s.sameData_called.trans hs) (Problem.response_status_ne p)
      · rw [site.respond_of_handle (hhandle ▸ congrArg Outcome.result hguard), hhandle, hguard]
        refine .save user raw date sent e hm hroute howner hdate hvalid htoday hsent
          ⟨hw.users, hw.upserted⟩ ?_
        rw [refresh_status, hok]
        rfl

/-- Every response comes with one of the three effects. -/
theorem respond_effect (c : Scene) (s : State) (r : Request) :
    site.Effect c s r (site.respond c s r).1 (site.respond c s r).2.1 := by
  cases hroute : Route.ofPath? r.path with
  | none =>
    refine site.effect_of_keepsData ?_ fun raw _ => by rw [hroute]; simp
    simp only [handle, hroute]
    exact .pure _
  | some route =>
    cases route with
    | callback => exact site.effect_callback hroute
    | page p =>
      by_cases hsub : ∃ raw, r.method = .post ∧ p = .entry raw
      · obtain ⟨raw, hm, rfl⟩ := hsub
        exact site.effect_submission hm hroute
      · refine site.effect_of_keepsData ?_ fun raw hm h => hsub ⟨raw, hm, ?_⟩
        · simp only [handle, hroute, serve]
          refine Methods.keepsData_serve (site.keepsData_guard fun user => ?_)
          exact site.keepsData_pageAction r p user fun raw hp hm => hsub ⟨raw, hm, hp⟩
        · rw [hroute] at h
          simpa using h
    | health | login | logout =>
      refine site.effect_of_keepsData ?_ fun raw _ => by rw [hroute]; simp
      simp only [handle, hroute, serve]
      first
        | exact keepsData_openTo (.pure _)
        | exact keepsData_openTo (site.keepsData_showLogin r)
        | exact keepsData_openTo (site.keepsData_logout r)

/-- In memory, the submission of a user who is logged in is put under the user, when it is for today
and can be read. -/
theorem respond_submission {c : Scene} {r : Request} {s : State} {user : User} {raw date : String}
    {sent : Submission} (hc : c.InMemory) (hm : r.method = .post)
    (hroute : Route.ofPath? r.path = some (.page (.entry raw)))
    (howner : site.userOf? r c.now s.users = some user) (hdecoded : dateIn? raw = some date)
    (hvalid : Date.isValidText date = true) (hsent : submission r = .ok sent)
    (htoday : date = Journal.today site.zone c.now) :
    ∃ e, (site.respond c s r).1.status = 200 ∧
      (site.respond c s r).1.content = .page (.ofEntry e true true) ∧
      s.Wrote c user.id date sent.body e (site.respond c s r).2.1 := by
  obtain ⟨e, hok, hw⟩ := site.saveEntry_of_inMemory user hc hvalid hsent htoday s.called
  have hguard := site.guard_of_user (hc.users s.calls) howner
    fun user => pathDate raw (site.saveEntry user r)
  rw [pathDate_of_some hdecoded, hok] at hguard
  have hhandle := congrFun (congrFun (site.handle_submission hm hroute) c) s
  rw [site.respond_of_handle (congrArg Outcome.result (hhandle.trans hguard)), hhandle, hguard]
  refine ⟨e, ?_, ?_, hw.users, hw.upserted⟩
  · rw [refresh_status]
    rfl
  · rw [refresh_content]
    rfl

end Site

end Daybook
