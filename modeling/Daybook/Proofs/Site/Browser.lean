import Daybook.Proofs.Session.Cookies
import Daybook.Proofs.Site.Effect

/-!
# Requests of a browser

A browser sends the token that it keeps with each of its requests.  The pages do not look at the
token themselves: they are answered as without it, set no cookie, and never send to the login page.

## Main definitions

* `Request.bearing` : a request with the token that a browser keeps.
* `Response.withoutCookie` : a response without the cookie that it sets.
* `Response.LeavesSession` : a response that leaves the session alone.
* `Action.Ends` : the results and the failures with which an action ends.
* `Site.BoundsPages` : conditions on all problems and responses of the pages.

## Main results

* `Site.session_bearing` : the session that a browser's request opens.
* `Site.BoundsPages.pageAction` : such conditions hold of whatever is done for a user.
* `Site.pageAction_bearing`, `Site.leavesSession_page` : the pages and the session.
* `Site.openTo_of_reads`, `Site.openTo_of_refuses` : the resources that anybody may read.
-/

namespace Daybook

/-! ### Requests with a token -/

namespace Request

/-- A request with the token that a browser keeps for a name, in place of all other cookies. -/
def bearing (r : Request) (name : String) (token : Option String) : Request :=
  { r with
    headers := (token.map fun t => ("cookie", Utf8.encode (name ++ "=" ++ t))).toList ++
      r.headers.filter fun h => h.1 != "cookie" }

variable (r : Request) (name : String) (token : Option String)

private theorem lookup_filter (headers : List (String × Bytes)) :
    (headers.filter fun h => h.1 != "cookie").lookup "cookie" = none := by
  refine List.lookup_eq_none_iff.2 fun h hmem => ?_
  have hne := (List.mem_filter.1 hmem).2
  rw [bne_iff_ne] at hne ⊢
  exact hne.symm

private theorem lookup_filter_of_ne {header : String} (h : header ≠ "cookie")
    (headers : List (String × Bytes)) :
    (headers.filter fun h => h.1 != "cookie").lookup header = headers.lookup header := by
  induction headers with
  | nil => rfl
  | cons row headers ih =>
    rw [List.filter_cons, List.lookup_cons]
    split_ifs with hrow
    · rw [List.lookup_cons, ih]
    · have hcookie : row.1 = "cookie" := by simpa using hrow
      rw [hcookie, beq_eq_false_iff_ne.2 h, ih]

theorem header?_bearing_cookie : (r.bearing name token).header? "cookie" =
    token.map fun t => Utf8.encode (name ++ "=" ++ t) := by
  cases token with
  | none => exact lookup_filter r.headers
  | some t => rfl

theorem header?_bearing_of_ne {header : String} (h : header ≠ "cookie") :
    (r.bearing name token).header? header = r.header? header := by
  cases token with
  | none => exact lookup_filter_of_ne h r.headers
  | some t =>
    have hbeq : (header == "cookie") = false := beq_eq_false_iff_ne.2 h
    simp only [header?, bearing, Option.map_some, Option.toList_some, List.cons_append,
      List.nil_append, List.lookup_cons, hbeq]
    exact lookup_filter_of_ne h r.headers

end Request

/-! ### Responses without a cookie -/

/-- A response without the cookie that it sets. -/
def Response.withoutCookie (r : Response) : Response :=
  { r with setCookie := none }

theorem Response.withoutCookie_of_none {r : Response} (h : r.setCookie = none) :
    r.withoutCookie = r := by
  rw [withoutCookie, ← h]

namespace Methods

variable {α : Type} (ms : Methods α) (method : Method) (r : Response)

theorem dressed_withoutCookie :
    (ms.dressed method r).withoutCookie = ms.dressed method r.withoutCookie := by
  unfold dressed
  split <;> rfl

theorem dressed_setCookie : (ms.dressed method r).setCookie = r.setCookie := by
  unfold dressed
  split <;> rfl

end Methods

/-- A response *leaves the session alone* when it sets no cookie and does not send to the login
page. -/
structure Response.LeavesSession (r : Response) : Prop where
  setCookie : r.setCookie = none
  location : r.location ≠ some "/auth"

theorem Response.LeavesSession.of (status : Nat) (content : Content) :
    (Response.of status content).LeavesSession :=
  ⟨rfl, by simp [Response.of]⟩

/-- A problem leaves the session alone when its response does. -/
def Problem.LeavesSession (p : Problem) : Prop :=
  p.response.LeavesSession

namespace Problem

theorem leavesSession_ofStoreError (e : StoreError) : (ofStoreError e).LeavesSession :=
  .of 500 _

theorem leavesSession_ofDateError (e : DateError) : (ofDateError e).LeavesSession := by
  cases e with
  | invalidDate _ => exact .of 400 _
  | unknownZone _ => exact .of 500 _

theorem leavesSession_ofSaveError (e : SaveError) : (ofSaveError e).LeavesSession := by
  cases e with
  | notEditable => exact .of 400 _
  | store e => exact leavesSession_ofStoreError e

end Problem

/-- An action *ends* within two conditions when its failures satisfy the one and its results the
other. -/
structure Action.Ends {ε α : Type} (Q : ε → Prop) (P : α → Prop) (x : Action ε α) : Prop where
  error : ∀ {c s e}, (x c s).result = .error e → Q e
  ok : ∀ {c s a}, (x c s).result = .ok a → P a

namespace Action.Ends

variable {ε ε' α β : Type} {Q : ε → Prop} {P : α → Prop}

theorem pure {a : α} (h : P a) : Ends Q P (Pure.pure a : Action ε α) where
  error := by rintro c s e ⟨⟩
  ok := by
    rintro c s _ ⟨⟩
    exact h

theorem fail {e : ε} (h : Q e) : Ends Q P (Action.fail e : Action ε α) where
  error := by
    rintro c s _ ⟨⟩
    exact h
  ok := by rintro c s a ⟨⟩

theorem now : Ends Q (fun _ => True) (Action.now : Action ε Instant) where
  error := by rintro c s e ⟨⟩
  ok := fun _ => trivial

theorem drawId : Ends Q (fun _ => True) (Action.drawId : Action ε Uuid) where
  error := by rintro c s e ⟨⟩
  ok := fun _ => trivial

theorem ofExcept {f : ε' → ε} (h : ∀ e, Q (f e)) (r : Except ε' α) :
    Ends Q (fun _ => True) (Action.ofExcept (r.mapError f)) where
  error := by
    intro c s e he
    cases r with
    | ok a => cases he
    | error e' =>
      cases he
      exact h e'
  ok := fun _ => trivial

theorem mapError {f : ε' → ε} (h : ∀ e, Q (f e)) (x : Action ε' α) :
    Ends Q (fun _ => True) (x.mapError f) where
  error := by
    intro c s e he
    cases hx : (x c s).result with
    | ok a =>
      rw [mapError_of_ok f hx] at he
      cases he
    | error e' =>
      rw [mapError_of_error f hx] at he
      cases he
      exact h e'
  ok := fun _ => trivial

theorem bind {x : Action ε β} {f : β → Action ε α} (hx : Ends Q (fun _ => True) x)
    (hf : ∀ b, Ends Q P (f b)) : Ends Q P (x >>= f) where
  error := by
    intro c s e he
    cases hresult : (x c s).result with
    | error e' =>
      rw [bind_of_error hresult] at he
      cases he
      exact hx.error hresult
    | ok b =>
      rw [bind_of_ok hresult] at he
      exact (hf b).error he
  ok := by
    intro c s a ha
    cases hresult : (x c s).result with
    | error e' =>
      rw [bind_of_error hresult] at ha
      cases ha
    | ok b =>
      rw [bind_of_ok hresult] at ha
      exact (hf b).ok ha

end Action.Ends

namespace Site

variable (site : Site)

/-! ### The session of a browser -/

/-- The session that a browser's request opens is that of the token it keeps. -/
theorem session_bearing (hne : site.settings.cookieName ≠ "")
    (hname : ∀ c ∈ site.settings.cookieName.toList, Cookie.IsPlain c) (r : Request)
    {token : Option String} (htoken : ∀ t ∈ token, ∀ c ∈ t.toList, Cookie.IsPlain c)
    (now : Instant) :
    site.session (r.bearing site.settings.cookieName token) now =
      match token with
      | some t => Session.ofToken site.settings now t
      | none => Session.empty := by
  rw [session, Session.ofCookies, Request.header?_bearing_cookie]
  cases token with
  | none => rfl
  | some t =>
    simp only [Option.map_some, Option.bind_some, Cookie.find?_pair hne hname (htoken t rfl)]

/-! ### Pages and the cookie -/

theorem submission_bearing (r : Request) (name : String) (token : Option String) :
    submission (r.bearing name token) = submission r := by
  have htype := r.header?_bearing_of_ne name token
    (show "content-type" ≠ "cookie" by decide)
  simp only [submission, announcesJson, htype]
  rfl

theorem saveEntry_bearing (user : User) (r : Request) (name : String) (token : Option String) :
    site.saveEntry user (r.bearing name token) = site.saveEntry user r := by
  funext date
  rw [saveEntry, saveEntry, submission_bearing]

theorem pageMethods_bearing (r : Request) (name : String) (token : Option String)
    (p : PageRoute) : site.pageMethods (r.bearing name token) p = site.pageMethods r p := by
  cases p with
  | entry raw => simp only [pageMethods, saveEntry_bearing]
  | _ => rfl

theorem pageAction_bearing (r : Request) (name : String) (token : Option String) (p : PageRoute) :
    site.pageAction (r.bearing name token) p = site.pageAction r p := by
  funext user
  rw [pageAction, pageAction, pageMethods_bearing]
  rfl

/-- Two conditions *bound the pages* when the problems that a page can have satisfy the one, and the
responses that it can give satisfy the other. -/
structure BoundsPages (Q : Problem → Prop) (P : Response → Prop) : Prop where
  of : ∀ status content, P (.of status content)
  toDay : ∀ day, P { Response.of 302 .nothing with location := some ("/entries/" ++ day) }
  ofStoreError : ∀ e, Q (.ofStoreError e)
  ofDateError : ∀ e, Q (.ofDateError e)
  ofSaveError : ∀ e, Q (.ofSaveError e)
  badRequest : ∀ message, Q (.badRequest message)

section

variable {Q : Problem → Prop} {P : Response → Prop} (h : BoundsPages Q P)

include h

theorem BoundsPages.pathDate (raw : String) {next : String → Action Problem Response}
    (hnext : ∀ date, (next date).Ends Q P) : (pathDate raw next).Ends Q P := by
  unfold Site.pathDate
  split
  · exact hnext _
  · exact .pure (h.of 400 _)

theorem BoundsPages.checkDate {f : Date → Action Problem Response} (hf : ∀ d, (f d).Ends Q P)
    (date : String) : (checkDate date >>= f).Ends Q P :=
  .bind (.ofExcept h.ofDateError _) hf

theorem BoundsPages.pageOf (user : User) (date : String) (editable : Bool) :
    (pageOf user date editable).Ends Q P := by
  refine .bind (.mapError h.ofStoreError _) fun found => ?_
  cases found with
  | some e => exact .pure (h.of 200 _)
  | none => exact .bind .drawId fun _ => .bind .now fun _ => .pure (h.of 200 _)

theorem BoundsPages.editEntry (user : User) (date : String) :
    (site.editEntry user date).Ends Q P := by
  refine h.checkDate (fun _ => .bind .now fun now => ?_) date
  split
  · exact h.pageOf user date true
  · exact .fail (h.ofSaveError .notEditable)

theorem BoundsPages.saveEntry (user : User) (r : Request) (date : String) :
    (site.saveEntry user r date).Ends Q P :=
  h.checkDate (fun _ => .bind (.ofExcept h.badRequest _) fun _ => .bind .now fun _ =>
    .bind (.mapError h.ofSaveError _) fun _ => .pure (h.of 200 _)) date

/-- Conditions that bound the pages bound what is done for a user who asks for one. -/
theorem BoundsPages.pageAction (r : Request) (p : PageRoute) (user : User) :
    (site.pageAction r p user).Ends Q P := by
  unfold Site.pageAction
  have hget : ((site.pageMethods r p).get user).Ends Q P := by
    cases p with
    | root => exact .bind .now fun _ => .pure (h.toDay _)
    | account => exact .pure (h.of 200 _)
    | entry raw =>
      exact h.pathDate raw fun date =>
        h.checkDate (fun _ => .bind .now fun _ => h.pageOf user date _) date
    | editing raw => exact h.pathDate raw (h.editEntry site user)
    | calendar raw =>
      exact h.pathDate raw fun date => h.checkDate (fun _ => .bind .now fun _ =>
        .bind (.mapError h.ofStoreError _) fun _ => .pure (h.of 200 _)) date
  cases hm : r.method with
  | get => exact hget
  | head => exact hget
  | post =>
    cases p with
    | entry raw => exact h.pathDate raw (h.saveEntry site user r)
    | _ => exact .pure (h.of 405 _)
  | options => exact .pure (h.of 405 _)
  | other name => exact .pure (h.of 405 _)

end

/-- No page sends to the login page, since that is not the page of a day. -/
theorem boundsPages_leavesSession : BoundsPages Problem.LeavesSession Response.LeavesSession where
  of := .of
  toDay := by
    refine fun day => ⟨rfl, fun h => ?_⟩
    have hslash : ("/entries/" ++ day).toList = "/auth".toList :=
      congrArg String.toList (Option.some.inj h)
    rw [String.toList_append] at hslash
    exact absurd (List.cons.inj (List.cons.inj hslash).2).1 (by decide)
  ofStoreError := Problem.leavesSession_ofStoreError
  ofDateError := Problem.leavesSession_ofDateError
  ofSaveError := Problem.leavesSession_ofSaveError
  badRequest := fun _ => .of 400 _

/-- An action *minds the page* when it leaves the session alone, in its responses as well as in its
problems. -/
def MindsPage (x : Action Problem Response) : Prop :=
  x.Ends Problem.LeavesSession Response.LeavesSession

/-- The pages leave the session alone. -/
theorem mindsPage_pageAction (r : Request) (p : PageRoute) (user : User) :
    MindsPage (site.pageAction r p user) :=
  boundsPages_leavesSession.pageAction site r p user

/-- What a page answers to a user leaves the session alone. -/
theorem leavesSession_page (r : Request) (p : PageRoute) (user : User) (c : Scene) (s : State) :
    (answer (site.pageAction r p user c s).result).LeavesSession := by
  cases h : (site.pageAction r p user c s).result with
  | ok response => exact (site.mindsPage_pageAction r p user).ok h
  | error problem => exact (site.mindsPage_pageAction r p user).error h

/-! ### Resources that anybody may read -/

section

variable {r : Request} (x : Action Problem Response) (c : Scene) (s : State)

/-- A resource that anybody may read is read, by either of two methods. -/
theorem openTo_of_reads (h : r.method = .get ∨ r.method = .head) :
    serve.openTo r x c s =
      ⟨.ok ((Methods.mk x none).dressed r.method (answer (x c s).result)), (x c s).state,
        (x c s).asked⟩ := by
  have hchosen : (Methods.mk x none).chosen (pure notAllowed) r.method = x := by
    rcases h with h | h <;> rw [h] <;> rfl
  unfold serve.openTo
  rw [Methods.serve_apply, hchosen, finish_apply]
  rfl

/-- By other methods it is refused. -/
theorem openTo_of_refuses (h : ¬(r.method = .get ∨ r.method = .head)) :
    serve.openTo r x c s = ⟨.ok (notAllowed.allowing "GET,HEAD"), s, []⟩ := by
  rw [not_or] at h
  unfold serve.openTo
  rw [Methods.serve_apply, finish_apply]
  cases hm : r.method with
  | get => exact absurd hm h.1
  | head => exact absurd hm h.2
  | _ => rfl

/-- A resource that anybody may read is read. -/
theorem openTo_get (h : r.method = .get) :
    serve.openTo r x c s =
      ⟨.ok (answer (x c s).result), (x c s).state, (x c s).asked⟩ := by
  rw [openTo_of_reads x c s (.inl h), h]
  rfl

/-- A resource that anybody may read is not written. -/
theorem openTo_post (h : r.method = .post) :
    serve.openTo r x c s = ⟨.ok (notAllowed.allowing "GET,HEAD"), s, []⟩ :=
  openTo_of_refuses x c s (by rw [h]; decide)

end

/-- A redirection with a cookie that can be written. -/
theorem redirect_of_isHeaderText {location cookie : String} (h : isHeaderText cookie = true) :
    redirect location cookie =
      { Response.of 302 .nothing with location := some location, setCookie := some cookie } :=
  if_pos h

theorem refresh_withoutCookie (session : Session) (now : Instant) (response : Response) :
    (site.refresh session now response).withoutCookie = response.withoutCookie := by
  simp only [refresh]
  split <;> rfl

end Site

end Daybook
