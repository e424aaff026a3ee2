import Daybook.Proofs.Service.Agreement
import Daybook.Proofs.Site.Dialog
import Mathlib.Data.List.Forall2

/-!
# What clients never learn

Take two applications that differ in the secret by which the login provider knows them, in the
replies of the provider and in the reasons for which calls of the store fail.  As long as the
replies are of the same kind and the same calls fail, both answer every request alike and keep the
same data.  So neither the secret nor the words of a failure, a refusal or an access token can be
read off any response.

## Main definitions

* `Site.withSecret` : the application under another secret.
* `Reply.SameGrant`, `Reply.SameProfile` : replies of the same kind.
* `Request.Exchanges` : the code that a request brings to be exchanged.
* `Site.Alike` : visits to both applications that are handled alike.
* `Site.responses` : the responses to the visits of a history.

## Main results

* `Site.agree_pageAction`, `Site.agree_identify` : pages and logins.
* `Site.Alike.handle`, `Site.Alike.respond` : every request is handled alike.
* `Site.responses_discreet` : the responses to all requests are the same.
-/

namespace Daybook

open Daybook.Action (Agree)

/-! ### Replies of the same kind -/

namespace Reply

/-- Replies of the same kind to the exchange of a code: both grant some token, or both refuse it, or
both have gone wrong. -/
inductive SameGrant (r₁ r₂ : Reply) : Prop
  | granted {token₁ token₂ : String} (h₁ : r₁.Grants token₁) (h₂ : r₂.Grants token₂)
  | refused (h₁ : r₁.RefusesToken) (h₂ : r₂.RefusesToken)
  | failed (h₁ : r₁.FailsToken) (h₂ : r₂.FailsToken)

/-- Replies of the same kind to the question for a profile: both show the same profile, or both
refuse it, or both have gone wrong. -/
inductive SameProfile (r₁ r₂ : Reply) : Prop
  | shown {p : Profile} (h₁ : r₁.Shows p) (h₂ : r₂.Shows p)
  | refused (h₁ : r₁.RefusesProfile) (h₂ : r₂.RefusesProfile)
  | failed (h₁ : r₁.FailsProfile) (h₂ : r₂.FailsProfile)

end Reply

/-- Failures of the same kind: both are refusals by the provider, or none is. -/
def ProviderError.SameKind (e₁ e₂ : ProviderError) : Prop :=
  e₁.isRejection = e₂.isRejection

namespace Reply

variable {r₁ r₂ : Reply}

/-- Tokens are read from both replies or from neither. -/
theorem SameGrant.read (h : r₁.SameGrant r₂) :
    (∃ token₁ token₂, r₁.Grants token₁ ∧ r₂.Grants token₂) ∨
      ∃ e₁ e₂, Provider.readToken r₁ = .error e₁ ∧ Provider.readToken r₂ = .error e₂ ∧
        e₁.SameKind e₂ := by
  cases h with
  | granted h₁ h₂ => exact .inl ⟨_, _, h₁, h₂⟩
  | refused h₁ h₂ =>
    obtain ⟨e₁, hread₁, he₁⟩ := Provider.readToken_of_refuses h₁
    obtain ⟨e₂, hread₂, he₂⟩ := Provider.readToken_of_refuses h₂
    exact .inr ⟨e₁, e₂, hread₁, hread₂, he₁.trans he₂.symm⟩
  | failed h₁ h₂ =>
    obtain ⟨e₁, hread₁, he₁⟩ := Provider.readToken_of_fails h₁
    obtain ⟨e₂, hread₂, he₂⟩ := Provider.readToken_of_fails h₂
    exact .inr ⟨e₁, e₂, hread₁, hread₂, he₁.trans he₂.symm⟩

/-- The same profile is read from both replies, or none from either. -/
theorem SameProfile.read (h : r₁.SameProfile r₂) :
    (∃ p, Provider.readProfile r₁ = .ok p ∧ Provider.readProfile r₂ = .ok p) ∨
      ∃ e₁ e₂, Provider.readProfile r₁ = .error e₁ ∧ Provider.readProfile r₂ = .error e₂ ∧
        e₁.SameKind e₂ := by
  cases h with
  | shown h₁ h₂ =>
    exact .inl ⟨_, Provider.readProfile_of_shows h₁, Provider.readProfile_of_shows h₂⟩
  | refused h₁ h₂ =>
    obtain ⟨e₁, hread₁, he₁⟩ := Provider.readProfile_of_refuses h₁
    obtain ⟨e₂, hread₂, he₂⟩ := Provider.readProfile_of_refuses h₂
    exact .inr ⟨e₁, e₂, hread₁, hread₂, he₁.trans he₂.symm⟩
  | failed h₁ h₂ =>
    obtain ⟨e₁, hread₁, he₁⟩ := Provider.readProfile_of_fails h₁
    obtain ⟨e₂, hread₂, he₂⟩ := Provider.readProfile_of_fails h₂
    exact .inr ⟨e₁, e₂, hread₁, hread₂, he₁.trans he₂.symm⟩

end Reply

/-- A request *exchanges* a code when it comes back from the provider's dialog with the code, and
the provider has to be asked for a token. -/
structure Request.Exchanges (r : Request) (code : String) : Prop where
  route : Route.ofPath? r.path = some .callback
  reads : r.method = .get ∨ r.method = .head
  fields : Form.repeated? ["code", "error"] (Form.parse (Utf8.encode r.query)) = none
  accepted : Form.value? "error" (Form.parse (Utf8.encode r.query)) = none
  brought : Form.value? "code" (Form.parse (Utf8.encode r.query)) = some code
  filled : code ≠ ""

/-- Problems to which the client is given the same response. -/
def Problem.SameResponse (p₁ p₂ : Problem) : Prop :=
  p₁.response = p₂.response

theorem Problem.SameResponse.refl (p : Problem) : p.SameResponse p :=
  rfl

/-- All failures of the store are answered alike. -/
theorem Problem.sameResponse_ofStoreError (e₁ e₂ : StoreError) :
    (ofStoreError e₁).SameResponse (ofStoreError e₂) :=
  rfl

/-- All refusals by the provider are answered alike, and so are all failures. -/
theorem Problem.sameResponse_ofProviderError {e₁ e₂ : ProviderError}
    (h : e₁.SameKind e₂) : (ofProviderError e₁).SameResponse (ofProviderError e₂) := by
  rw [ProviderError.SameKind] at h
  simp only [ofProviderError, h]
  split <;> rfl

namespace Site

variable (site : Site) (secret : String)

/-! ### Another secret -/

/-- The application that the login provider knows by another secret. -/
def withSecret : Site :=
  { site with settings := { site.settings with appSecret := secret } }

/-- No resource uses the secret, but the one to which users come back from the provider's dialog. -/
theorem serve_withSecret (r : Request) {route : Route} (h : route ≠ .callback) :
    (site.withSecret secret).serve r route = site.serve r route := by
  cases route with
  | callback => exact absurd rfl h
  | page p => cases p <;> rfl
  | _ => rfl

/-- Problems with the same response are answered alike after the dialog: a refusal is not answered
as any other problem. -/
theorem afterDialog_of_sameResponse (session : Session) (now : Instant) {p₁ p₂ : Problem}
    (h : p₁.SameResponse p₂) :
    site.afterDialog session now (.error p₁) = site.afterDialog session now (.error p₂) := by
  have hstatus : p₁.response.status = p₂.response.status := congrArg Response.status h
  cases p₁ <;> cases p₂ <;> first
    | rfl
    | exact h
    | exact absurd hstatus (by simp [Problem.response, Response.of])

/-! ### Pages -/

variable {c₁ c₂ : Scene}

/-- What has gone wrong in the store does not matter. -/
theorem agree_ofStoreError {α : Type} {x₁ x₂ : Action StoreError α}
    (h : Agree (fun _ _ => True) c₁ c₂ x₁ x₂) :
    Agree Problem.SameResponse c₁ c₂ (x₁.mapError .ofStoreError) (x₂.mapError .ofStoreError) :=
  h.mapError fun e₁ e₂ _ => Problem.sameResponse_ofStoreError e₁ e₂

theorem agree_pathDate (raw : String) {next : String → Action Problem Response}
    (h : ∀ date, Agree Problem.SameResponse c₁ c₂ (next date) (next date)) :
    Agree Problem.SameResponse c₁ c₂ (pathDate raw next) (pathDate raw next) := by
  unfold pathDate
  split
  · exact h _
  · exact .pure _

theorem agree_checkDate {f : Date → Action Problem Response}
    (h : ∀ d, Agree Problem.SameResponse c₁ c₂ (f d) (f d)) (date : String) :
    Agree Problem.SameResponse c₁ c₂ (checkDate date >>= f) (checkDate date >>= f) :=
  .bind (.ofExcept Problem.SameResponse.refl _) h

/-- An action that ends with a response in any case. -/
theorem agree_finish {x₁ x₂ : Action Problem Response} {ε : Type} {R : ε → ε → Prop}
    (h : Agree Problem.SameResponse c₁ c₂ x₁ x₂) :
    Agree R c₁ c₂ (finish x₁ : Action ε Response) (finish x₂) :=
  h.settle fun _ _ hp => hp

section

variable (hc : c₁.Alike c₂)

include hc

theorem agree_pageOf (user : User) (date : String) (editable : Bool) :
    Agree Problem.SameResponse c₁ c₂ (pageOf user date editable) (pageOf user date editable) := by
  refine .bind (agree_ofStoreError (Journal.agree_find hc user.id date)) fun found => ?_
  cases found with
  | some e => exact .pure _
  | none => exact .bind (.drawId hc) fun _ => .bind (.now hc) fun _ => .pure _

theorem agree_showEntry (user : User) (date : String) :
    Agree Problem.SameResponse c₁ c₂ (site.showEntry user date) (site.showEntry user date) :=
  agree_checkDate (fun _ => .bind (.now hc) fun _ => agree_pageOf hc user date _) date

theorem agree_editEntry (user : User) (date : String) :
    Agree Problem.SameResponse c₁ c₂ (site.editEntry user date) (site.editEntry user date) := by
  refine agree_checkDate (fun _ => .bind (.now hc) fun now => ?_) date
  split
  · exact agree_pageOf hc user date true
  · exact .fail (.refl _)

theorem agree_saveEntry (user : User) (r : Request) (date : String) :
    Agree Problem.SameResponse c₁ c₂ (site.saveEntry user r date) (site.saveEntry user r date) := by
  refine agree_checkDate (fun _ => .bind (.ofExcept Problem.SameResponse.refl _) fun sent =>
    .bind (.now hc) fun now => .bind ((Journal.agree_save hc _ _ _ _).mapError ?_) fun _ =>
      .pure _) date
  rintro e₁ e₂ (rfl | ⟨s₁, s₂, rfl, rfl⟩)
  · exact .refl _
  · exact Problem.sameResponse_ofStoreError s₁ s₂

theorem agree_showCalendar (user : User) (date : String) :
    Agree Problem.SameResponse c₁ c₂ (site.showCalendar user date)
      (site.showCalendar user date) :=
  agree_checkDate (fun _ => .bind (.now hc) fun _ =>
    .bind (agree_ofStoreError (Journal.agree_month hc _ _ _ _)) fun _ => .pure _) date

theorem agree_showRoot :
    Agree Problem.SameResponse c₁ c₂ site.showRoot site.showRoot :=
  .bind (.now hc) fun _ => .pure _

/-- What is done for a user who asks for a page is done alike. -/
theorem agree_pageAction (r : Request) (p : PageRoute) (user : User) :
    Agree Problem.SameResponse c₁ c₂ (site.pageAction r p user) (site.pageAction r p user) := by
  unfold pageAction
  have hget : Agree Problem.SameResponse c₁ c₂ ((site.pageMethods r p).get user)
      ((site.pageMethods r p).get user) := by
    cases p with
    | root => exact site.agree_showRoot hc
    | account => exact .pure _
    | entry raw => exact agree_pathDate raw (site.agree_showEntry hc user)
    | editing raw => exact agree_pathDate raw (site.agree_editEntry hc user)
    | calendar raw => exact agree_pathDate raw (site.agree_showCalendar hc user)
  cases r.method with
  | get => exact hget
  | head => exact hget
  | post =>
    cases p with
    | entry raw => exact agree_pathDate raw (site.agree_saveEntry hc user r)
    | _ => exact .pure _
  | options => exact .pure _
  | other name => exact .pure _

/-! ### Access -/

theorem agree_guard (r : Request) {inner : User → Action Problem Response}
    (h : ∀ user, Agree Problem.SameResponse c₁ c₂ (inner user) (inner user)) :
    Agree (fun _ _ => True) c₁ c₂ (site.guard r inner) (site.guard r inner) := by
  refine agree_finish (.bind (.now hc) fun now => ?_)
  dsimp only
  split
  · exact .pure _
  · refine .bind (agree_ofStoreError (Action.agree_getUser hc _)) fun found => ?_
    cases found with
    | none => exact .pure _
    | some user => exact .bind (agree_finish (h user)) fun _ => .pure _

/-! ### The login page -/

theorem agree_showLogin (r : Request) :
    Agree Problem.SameResponse c₁ c₂ (site.showLogin r) (site.showLogin r) := by
  refine .bind (.now hc) fun now => ?_
  dsimp only
  split_ifs <;> exact .pure _

theorem agree_logout (r : Request) :
    Agree Problem.SameResponse c₁ c₂ (site.logout r) (site.logout r) :=
  .bind (.now hc) fun _ => .pure _

end

/-! ### Coming back from the provider's dialog -/

/-- The exchanges of a code by two applications are *of the same kind* when the replies are, call by
call. -/
structure SameExchange (site₁ site₂ : Site) (c₁ c₂ : Scene) (code : String) : Prop where
  token : (c₁.ask (site₁.tokenUrl code)).SameGrant (c₂.ask (site₂.tokenUrl code))
  profile : ∀ token₁ token₂, (c₁.ask (site₁.tokenUrl code)).Grants token₁ →
    (c₂.ask (site₂.tokenUrl code)).Grants token₂ →
      (c₁.ask (site₁.profileUrl token₁)).SameProfile (c₂.ask (site₂.profileUrl token₂))

/-- Exchanges of the same kind find the same profile, or fail in the same way. -/
theorem SameExchange.agree {site₁ site₂ : Site} {code : String}
    (h : SameExchange site₁ site₂ c₁ c₂ code) :
    Agree ProviderError.SameKind c₁ c₂
      (Action.identify site₁.endpoints site₁.settings code)
      (Action.identify site₂.endpoints site₂.settings code) := by
  intro s
  unfold Action.identify
  rcases h.token.read with ⟨token₁, token₂, h₁, h₂⟩ | ⟨e₁, e₂, h₁, h₂, he⟩
  · rw [Provider.identify_of_granted h₁, Provider.identify_of_granted h₂]
    have hprofile := (h.profile token₁ token₂ h₁ h₂).read
    simp only [profileUrl] at hprofile
    rcases hprofile with ⟨p, hp₁, hp₂⟩ | ⟨e₁, e₂, hp₁, hp₂, he⟩
    · rw [hp₁, hp₂]
      exact .ok p s _ _
    · rw [hp₁, hp₂]
      exact .error he s _ _
  · rw [Provider.identify_of_readToken_error h₁, Provider.identify_of_readToken_error h₂]
    exact .error he s _ _

section

variable (hc : c₁.Alike c₂)

include hc

/-- Those who come back are known to both applications or to neither. -/
theorem agree_identify {code error : Option String}
    (h : ∀ text, error = none → code = some text → text ≠ "" →
      SameExchange site (site.withSecret secret) c₁ c₂ text) :
    Agree Problem.SameResponse c₁ c₂ (site.identify code error)
      ((site.withSecret secret).identify code error) := by
  match error, code with
  | some error, _ => exact .fail (.refl _)
  | none, none => exact .fail (.refl _)
  | none, some text =>
    by_cases filled : text = ""
    · subst filled
      exact .fail (.refl _)
    · rw [identify_of_filled filled, identify_of_filled filled]
      refine .bind ((h text rfl rfl filled).agree.mapError
        fun _ _ => Problem.sameResponse_ofProviderError) fun p => ?_
      exact (Accounts.agree_ofProfile hc p).mapError fun _ _ _ => rfl

/-- Those who come back are answered alike. -/
theorem agree_callback {r : Request} (hreads : r.method = .get ∨ r.method = .head)
    (hroute : Route.ofPath? r.path = some .callback)
    (h : ∀ code, r.Exchanges code → SameExchange site (site.withSecret secret) c₁ c₂ code) :
    Agree Problem.SameResponse c₁ c₂ (site.callback r) ((site.withSecret secret).callback r) := by
  cases hfields : Form.repeated? ["code", "error"] (Form.parse (Utf8.encode r.query)) with
  | some name =>
    simp only [callback, hfields]
    exact .pure _
  | none =>
    simp only [callback, hfields]
    refine .bind (.now hc) fun now => ?_
    refine (site.agree_identify secret hc fun text herror hcode hfilled => h text
      ⟨hroute, hreads, hfields, herror, hcode, hfilled⟩).settle fun p₁ p₂ hp => ?_
    exact site.afterDialog_of_sameResponse _ _ hp

end

/-! ### Requests -/

/-- A resource that anybody may read is answered alike if its reading is. -/
theorem agree_openTo {r : Request} {x₁ x₂ : Action Problem Response}
    (h : r.method = .get ∨ r.method = .head → Agree Problem.SameResponse c₁ c₂ x₁ x₂) :
    Agree (fun _ _ => True) c₁ c₂ (serve.openTo r x₁) (serve.openTo r x₂) := by
  intro s
  by_cases hreads : r.method = .get ∨ r.method = .head
  · have hdressed : (Methods.mk x₁ none).dressed r.method =
        (Methods.mk x₂ none).dressed r.method := by
      rcases hreads with hm | hm <;> rw [hm] <;> rfl
    have hfinish : Outcome.Agrees (fun (_ _ : Empty) => True) (finish x₁ c₁ s) (finish x₂ c₂ s) :=
      agree_finish (h hreads) s
    rw [finish_apply, finish_apply] at hfinish
    rw [openTo_of_reads x₁ c₁ s hreads, openTo_of_reads x₂ c₂ s hreads, hdressed]
    exact hfinish.map _
  · rw [openTo_of_refuses x₁ c₁ s hreads, openTo_of_refuses x₂ c₂ s hreads]
    exact .ok _ s [] []

/-- The pages are answered alike. -/
theorem agree_page (hc : c₁.Alike c₂) (r : Request) (p : PageRoute) :
    Agree (fun _ _ => True) c₁ c₂ (site.serve r (.page p)) (site.serve r (.page p)) := by
  intro s
  simp only [serve]
  rw [Methods.serve_apply, Methods.serve_apply]
  exact (site.agree_guard hc r (site.agree_pageAction hc r p) s).map _

/-- All resources are answered alike but the one to which users come back from the dialog. -/
theorem agree_serve (hc : c₁.Alike c₂) (r : Request) {route : Route} (h : route ≠ .callback) :
    Agree (fun _ _ => True) c₁ c₂ (site.serve r route) (site.serve r route) := by
  cases route with
  | callback => exact absurd rfl h
  | page p => exact site.agree_page hc r p
  | health => exact agree_openTo fun _ => .pure _
  | login => exact agree_openTo fun _ => site.agree_showLogin hc r
  | logout => exact agree_openTo fun _ => site.agree_logout hc r

/-- Visits are *alike* when the same request comes to both applications, in scenes that are alike,
and the code that it brings, if any, is exchanged in the same way. -/
structure Alike (v₁ v₂ : Visit) : Prop where
  request : v₁.request = v₂.request
  scene : v₁.scene.Alike v₂.scene
  exchange : ∀ code, v₁.request.Exchanges code →
    SameExchange site (site.withSecret secret) v₁.scene v₂.scene code

variable {site secret} {v₁ v₂ : Visit}

/-- Every request is handled alike. -/
theorem Alike.handle (h : site.Alike secret v₁ v₂) :
    Agree (fun _ _ => True) v₁.scene v₂.scene (site.handle v₁.request)
      ((site.withSecret secret).handle v₂.request) := by
  rw [← h.request]
  unfold Site.handle
  cases hroute : Route.ofPath? v₁.request.path with
  | none => exact .pure _
  | some route =>
    by_cases hcallback : route = .callback
    · subst hcallback
      exact agree_openTo fun hreads =>
        site.agree_callback secret h.scene hreads hroute h.exchange
    · dsimp only
      rw [site.serve_withSecret secret v₁.request hcallback]
      exact site.agree_serve h.scene v₁.request hcallback

/-- Every request is given the same response, and leads to the same state. -/
theorem Alike.respond (h : site.Alike secret v₁ v₂) (s : State) :
    (site.respond v₁.scene s v₁.request).1 =
        ((site.withSecret secret).respond v₂.scene s v₂.request).1 ∧
      (site.respond v₁.scene s v₁.request).2.1 =
        ((site.withSecret secret).respond v₂.scene s v₂.request).2.1 := by
  have hagrees := h.handle s
  unfold Site.respond
  generalize site.handle v₁.request v₁.scene s = o₁ at hagrees ⊢
  generalize (site.withSecret secret).handle v₂.request v₂.scene s = o₂ at hagrees ⊢
  cases hagrees with
  | ok response s' => exact ⟨rfl, rfl⟩
  | @error e₁ _ _ _ _ _ => exact e₁.elim

variable (site secret)

/-- The responses to the visits of a history. -/
def responses : State → List Visit → List Response
  | _, [] => []
  | s, v :: visits =>
    (site.respond v.scene s v.request).1 ::
      responses (site.respond v.scene s v.request).2.1 visits

/-- Two applications that differ in their secret give the same responses to the same requests, in
scenes with the same present and the same supply of identifiers, as long as the same calls of their
stores fail and the replies of the provider are of the same kind, call by call.  They keep the same
data. -/
theorem responses_discreet {visits₁ visits₂ : List Visit}
    (h : List.Forall₂ (site.Alike secret) visits₁ visits₂) (s : State) :
    site.responses s visits₁ = (site.withSecret secret).responses s visits₂ ∧
      site.after s visits₁ = (site.withSecret secret).after s visits₂ := by
  induction h generalizing s with
  | nil => simp only [responses, after, List.foldl_nil, and_self]
  | @cons v₁ v₂ visits₁ visits₂ hv _ ih =>
    obtain ⟨hresponse, hstate⟩ := hv.respond s
    obtain ⟨hresponses, hafter⟩ := ih ((site.withSecret secret).respond v₂.scene s v₂.request).2.1
    rw [after_cons, after_cons, hstate]
    refine ⟨?_, hafter⟩
    rw [responses, hresponse, hstate, hresponses, responses]

end Site

/-! ### Another provider and another store -/

namespace Sample

/-- A scene in which the provider always gives the same reply, and all calls for accounts fail if
there is a reason. -/
def sceneOf (reply : Reply) (outage : Option String) : Scene :=
  { scene sentAt with userOutage := fun _ => outage, ask := fun _ => reply }

/-- The profile of the visitor, with another token. -/
def grantedAnother : Reply :=
  .whole 200 (Utf8.encode "\x7b\"access_token\":\"another\",\"id\":\"1\",\"name\":\"Ann\"\x7d")

/-- The visitor comes back three times: the provider refuses the code, grants a token, and grants it
while the accounts are out of reach. -/
def arrivals (refusal grant : Reply) (outage : String) : List Visit :=
  [⟨sceneOf refusal none, arrival⟩, ⟨sceneOf grant none, arrival⟩,
    ⟨sceneOf grant (some outage), arrival⟩]

/-- In scenes with replies of the same kind the visitor is treated alike. -/
theorem alike_sceneOf {secret : String} {reply₁ reply₂ : Reply} {outage₁ outage₂ : Option String}
    (hout : outage₁.isSome = outage₂.isSome) (htoken : reply₁.SameGrant reply₂)
    (hprofile : reply₁.SameProfile reply₂) (r : Request) :
    (site .utc).Alike secret ⟨sceneOf reply₁ outage₁, r⟩ ⟨sceneOf reply₂ outage₂, r⟩ where
  request := rfl
  scene := ⟨rfl, rfl, fun _ => hout, fun _ => rfl⟩
  exchange _ _ := ⟨htoken, fun _ _ _ _ => hprofile⟩

/-- Under another secret, with another refusal, another token and another failure of the store, the
responses are the same. -/
theorem arrivals_alike :
    let visits₁ := arrivals (.whole 400 (Utf8.encode "wrong secret")) granted "disk full"
    let visits₂ := arrivals (.whole 503 []) grantedAnother "no route to host"
    List.Forall₂ ((site .utc).Alike "another key") visits₁ visits₂ ∧
      (site .utc).responses .initial visits₁ =
        ((site .utc).withSecret "another key").responses .initial visits₂ := by
  intro visits₁ visits₂
  have hrefused : Reply.SameGrant (.whole 400 (Utf8.encode "wrong secret")) (.whole 503 []) :=
    .refused ⟨400, _, by decide, rfl⟩ ⟨503, _, by decide, rfl⟩
  have hunseen : Reply.SameProfile (.whole 400 (Utf8.encode "wrong secret")) (.whole 503 []) :=
    .refused ⟨400, by decide, .inl ⟨_, rfl⟩⟩ ⟨503, by decide, .inl ⟨_, rfl⟩⟩
  have hanother : grantedAnother.Grants "another" :=
    ⟨by decide, _, rfl, ok_of_toOption (by decide +kernel)⟩
  have hgranted : granted.SameGrant grantedAnother := .granted grants_granted hanother
  have hshown : granted.SameProfile grantedAnother :=
    .shown shows_granted ⟨_, rfl, ok_of_toOption (by decide +kernel)⟩
  have hout : (some "disk full").isSome = (some "no route to host").isSome := rfl
  have halike : List.Forall₂ ((site .utc).Alike "another key") visits₁ visits₂ :=
    .cons (alike_sceneOf rfl hrefused hunseen arrival) (.cons
      (alike_sceneOf rfl hgranted hshown arrival) (.cons
        (alike_sceneOf hout hgranted hshown arrival) .nil))
  exact ⟨halike, ((site .utc).responses_discreet "another key" halike .initial).1⟩

end Sample

end Daybook
