import Daybook.Proofs.Http.Cors
import Daybook.Proofs.Site.Browser
import Daybook.Proofs.Site.History
import Daybook.Site.Origins

/-!
# Answers to other origins

The site itself says nothing about other origins.  Behind a policy it answers as before, with the
headers of the policy added, only that questions in advance are answered without asking the site.
So credentials are for the origins of the list alone.

## Main definitions

* `Response.adding` : a response with further headers.
* `Action.IsBare` : an action whose responses have no such headers.

## Main results

* `Site.respond_headers` : the site itself says nothing about other origins.
* `Site.respondBehind_of_options`, `Site.respondBehind_of_ne` : the answers behind a policy.
* `Site.credentials_for_listed` : whom the answers are for.
-/

namespace Daybook

/-- A response with further headers. -/
def Response.adding (r : Response) (headers : List (String × String)) : Response :=
  { r with headers := r.headers ++ headers }

namespace Methods

variable {α : Type} (ms : Methods α) (method : Method) (r : Response)

theorem dressed_headers : (ms.dressed method r).headers = r.headers := by
  unfold dressed
  split <;> rfl

theorem dressed_adding (headers : List (String × String)) :
    ms.dressed method (r.adding headers) = (ms.dressed method r).adding headers := by
  unfold dressed
  split <;> rfl

end Methods

namespace Action

variable {ε α : Type}

theorem Ends.any {Q : ε → Prop} {P : α → Prop} (hQ : ∀ e, Q e) (hP : ∀ a, P a) (x : Action ε α) :
    Ends Q P x :=
  ⟨fun _ => hQ _, fun _ => hP _⟩

/-- An action is *bare* when its responses have none of the headers for other origins. -/
def IsBare (x : Action ε Response) : Prop :=
  x.Ends (fun _ => True) fun r => r.headers = []

namespace IsBare

theorem of (status : Nat) (content : Content) :
    IsBare (pure (.of status content) : Action ε Response) :=
  .pure rfl

theorem bind {x : Action ε α} {f : α → Action ε Response} (h : ∀ a, IsBare (f a)) :
    IsBare (x >>= f) :=
  Ends.bind (.any (fun _ => trivial) (fun _ => trivial) x) h

theorem map {x : Action ε Response} {f : Response → Response} (hx : IsBare x)
    (hf : ∀ r, (f r).headers = r.headers) : IsBare (x >>= fun r => pure (f r)) where
  error := fun _ => trivial
  ok := by
    intro c s r hr
    obtain ⟨r', hr', heq⟩ := exists_of_bind_eq_ok hr
    rw [← Except.ok.inj heq, hf]
    exact hx.ok hr'

end IsBare

end Action

namespace Cors.Policy

variable {ε : Type} {p : Policy} {r : Request}

/-- A question in advance is answered at once. -/
theorem apply_of_options (h : r.method = .options) (inner : Action ε Response) (c : Scene)
    (s : State) :
    p.apply r inner c s = ⟨.ok ((Response.of 200 .nothing).adding (p.headers r)), s, []⟩ := by
  unfold apply
  rw [if_pos h]
  rfl

/-- Other requests are answered as without the policy, with its headers. -/
theorem apply_of_ne (h : r.method ≠ .options) (inner : Action ε Response) (c : Scene)
    (s : State) :
    p.apply r inner c s =
      ⟨(inner c s).result.map (·.adding (p.headers r)), (inner c s).state, (inner c s).asked⟩ := by
  unfold apply
  rw [if_neg h]
  exact Action.map_apply _ _ c s

end Cors.Policy

namespace Site

open Daybook.Action (IsBare)

variable (site : Site)

/-! ### Answers of the site -/

theorem answer_headers {x : Action Problem Response} (h : IsBare x) (c : Scene) (s : State) :
    (answer (x c s).result).headers = [] := by
  cases hx : (x c s).result with
  | ok r => exact h.ok hx
  | error p => cases p <;> rfl

theorem isBare_finish {ε : Type} {x : Action Problem Response} (h : IsBare x) :
    IsBare (finish x : Action ε Response) where
  error := fun _ => trivial
  ok := by
    intro c s r hr
    rw [finish_apply] at hr
    cases hr
    exact answer_headers h c s

theorem redirect_headers (location cookie : String) : (redirect location cookie).headers = [] := by
  unfold redirect
  split <;> rfl

theorem refresh_headers (session : Session) (now : Instant) (r : Response) :
    (site.refresh session now r).headers = r.headers := by
  simp only [refresh]
  split <;> rfl

/-- The pages are bare.  Their problems need not be told apart, since none is answered with such
headers. -/
theorem boundsPages_bare : BoundsPages (fun _ => True) fun r => r.headers = [] :=
  ⟨fun _ _ => rfl, fun _ => rfl, fun _ => trivial, fun _ => trivial, fun _ => trivial,
    fun _ => trivial⟩

theorem isBare_guard (r : Request) {inner : User → Action Problem Response}
    (h : ∀ user, IsBare (inner user)) : IsBare (site.guard r inner) := by
  refine isBare_finish (.bind fun now => ?_)
  have hunauthorized : IsBare (pure site.unauthorized : Action Problem Response) :=
    .pure (redirect_headers _ _)
  simp only
  split
  · exact hunauthorized
  · refine .bind fun user => ?_
    cases user with
    | none => exact hunauthorized
    | some user => exact (isBare_finish (h user)).map (site.refresh_headers _ now)

theorem isBare_showLogin (r : Request) : IsBare (site.showLogin r) := by
  refine .bind fun now => ?_
  simp only
  split_ifs
  · exact .pure rfl
  · exact .of 500 _
  · exact .of 200 _

theorem afterDialog_headers (session : Session) (now : Instant) (found : Except Problem User) :
    (site.afterDialog session now found).headers = [] := by
  cases found with
  | ok user => exact redirect_headers _ _
  | error p =>
    cases p with
    | unauthorized _ => exact redirect_headers _ _
    | _ => rfl

theorem isBare_callback (r : Request) : IsBare (site.callback r) := by
  unfold callback
  simp only
  split
  · exact .of 400 _
  · refine .bind fun now => ⟨fun _ => trivial, ?_⟩
    intro c s response hresponse
    rw [← Except.ok.inj hresponse]
    exact site.afterDialog_headers _ now _

theorem isBare_serve {α ε : Type} {ms : Methods α} {run : α → Action ε Response} {refusal : α}
    {method : Method} (h : IsBare (run (ms.chosen refusal method))) :
    IsBare (ms.serve run refusal method) where
  error := fun _ => trivial
  ok := by
    intro c s r hr
    rw [Methods.serve_apply] at hr
    cases hrun : (run (ms.chosen refusal method) c s).result with
    | error e =>
      rw [hrun] at hr
      cases hr
    | ok response =>
      rw [hrun] at hr
      cases hr
      exact (ms.dressed_headers method response).trans (h.ok hrun)

theorem isBare_handle (r : Request) : IsBare (site.handle r) := by
  have hopen {x : Action Problem Response} (h : IsBare x) : IsBare (serve.openTo r x) := by
    refine isBare_serve (isBare_finish ?_)
    cases r.method with
    | get => exact h
    | head => exact h
    | _ => exact .of 405 _
  unfold handle
  cases Route.ofPath? r.path with
  | none => exact .of 404 _
  | some route =>
    cases route with
    | page p => exact isBare_serve (site.isBare_guard r (boundsPages_bare.pageAction site r p))
    | health => exact hopen (.of 200 _)
    | login => exact hopen (site.isBare_showLogin r)
    | logout => exact hopen (.bind fun _ => .pure (redirect_headers _ _))
    | callback => exact hopen (site.isBare_callback r)

/-- The site itself says nothing about other origins. -/
theorem respond_headers (c : Scene) (s : State) (r : Request) :
    (site.respond c s r).1.headers = [] :=
  (site.isBare_handle r).ok (site.handle_result r c s)

/-! ### Answers behind a policy -/

section

variable {site : Site} {p : Cors.Policy} {c : Scene} {s : State} {r : Request}

/-- A question in advance is answered without asking the site. -/
theorem respondBehind_of_options (h : r.method = .options) :
    ∃ allow, site.respondBehind p c s r =
      ({ Response.of 200 .nothing with allow := allow, headers := p.headers r }, s, []) := by
  have hserve {α : Type} (ms : Methods α) (run : α → Action Empty Response) (refusal : α) :
      ms.serve (fun x => p.apply r (run x)) refusal r.method c s =
        ⟨.ok { Response.of 200 .nothing with
          allow := some ms.allowed, headers := p.headers r }, s, []⟩ := by
    rw [Methods.serve_apply, Cors.Policy.apply_of_options h, h]
    cases ms.post <;> rfl
  have hhandle : ∃ allow, site.handleThrough (p.apply r) r c s =
      ⟨.ok { Response.of 200 .nothing with allow := allow, headers := p.headers r }, s, []⟩ := by
    unfold handleThrough
    cases Route.ofPath? r.path with
    | none => exact ⟨none, Cors.Policy.apply_of_options h _ c s⟩
    | some route => cases route <;> exact ⟨_, hserve _ _ _⟩
  obtain ⟨allow, hhandle⟩ := hhandle
  exact ⟨allow, by simp only [respondBehind, hhandle]⟩

/-- Other requests are answered as without the policy, with its headers. -/
theorem respondBehind_of_ne (h : r.method ≠ .options) :
    site.respondBehind p c s r =
      ({ (site.respond c s r).1 with headers := p.headers r }, (site.respond c s r).2) := by
  have hserve {α : Type} (ms : Methods α) (run : α → Action Empty Response) (refusal : α) :
      ms.serve (fun x => p.apply r (run x)) refusal r.method c s =
        ⟨(ms.serve run refusal r.method c s).result.map (·.adding (p.headers r)),
          (ms.serve run refusal r.method c s).state,
          (ms.serve run refusal r.method c s).asked⟩ := by
    rw [Methods.serve_apply, Methods.serve_apply, Cors.Policy.apply_of_ne h]
    cases (run (ms.chosen refusal r.method) c s).result with
    | error e => rfl
    | ok response => simp only [Except.map, ms.dressed_adding]
  have hhandle : site.handleThrough (p.apply r) r c s =
      ⟨(site.handle r c s).result.map (·.adding (p.headers r)), (site.handle r c s).state,
        (site.handle r c s).asked⟩ := by
    unfold handleThrough handle
    cases Route.ofPath? r.path with
    | none => exact Cors.Policy.apply_of_ne h _ c s
    | some route => cases route <;> exact hserve _ _ _
  have hresult := site.handle_result r c s
  have hrest : (site.respond c s r).2 = ((site.handle r c s).state, (site.handle r c s).asked) :=
    congrArg Prod.snd (site.respond_of_handle hresult)
  simp only [respondBehind, hhandle, hresult, hrest, Except.map, Response.adding,
    site.respond_headers, List.nil_append]

/-- Behind a policy, responses have its headers and no others for other origins. -/
theorem respondBehind_headers : (site.respondBehind p c s r).1.headers = p.headers r := by
  by_cases h : r.method = .options
  · obtain ⟨allow, hrespond⟩ := respondBehind_of_options h
    rw [hrespond]
  · rw [respondBehind_of_ne h]

end

/-- Take the policy of a setting, if it has one, and the response to any request behind it.  If the
response lets credentials be sent along, it does not let everybody in, and an origin that it lets in
is an item of the list and the origin that the request names first.  An item of printable characters
is let in when it is named so.  Where no list is set, or no item of it can stand in a header, no
credentials are sent along. -/
theorem credentials_for_listed (c : Scene) (s : State) (r : Request) {setting : Option String}
    {p : Cors.Policy} (h : Cors.Policy.ofSetting? setting = some p) :
    let headers := (site.respondBehind p c s r).1.headers
    (Cors.allowCredentials "true" ∈ headers →
        Cors.allowOrigin "*" ∉ headers ∧
          ∀ origin, Cors.allowOrigin origin ∈ headers →
            r.header? "origin" = some (Utf8.encode origin) ∧
              ∃ list ∈ setting, origin ∈ Cors.items list) ∧
      (∀ list ∈ setting, ∀ item ∈ Cors.items list, (∀ ch ∈ item.toList, IsPrintable ch) →
        r.header? "origin" = some (Utf8.encode item) →
          Cors.allowOrigin item ∈ headers ∧ Cors.allowCredentials "true" ∈ headers) ∧
      ((∀ list ∈ setting, ∀ item ∈ Cors.items list, isHeaderText item = false) →
        ∀ answer, Cors.allowCredentials answer ∉ headers) := by
  intro headers
  have hheaders : headers = p.headers r := respondBehind_headers
  rw [hheaders]
  refine ⟨Cors.Policy.guarded_of_allowCredentials h, ?_, Cors.Policy.allowCredentials_notMem h⟩
  intro list hlist item hitem hchars hnamed
  have htext : isHeaderText item = true := by
    rw [← String.ofList_toList (s := item)]
    exact isHeaderText_ofList hchars
  exact Cors.Policy.allowOrigin_mem_of_item h hlist hitem htext hnamed

end Site

namespace Sample

/-- The visitor comes from the second of the origins in a list that has a gap. -/
def fromSecond : Request :=
  { arrival with headers := [("origin", Utf8.encode "http://b.test")] }

/-- The answer is for that origin, with credentials. -/
theorem answer_for_second :
    let setting := some " http://a.test ,, http://b.test "
    let p := Cors.Policy.listed ["http://a.test", "", "http://b.test"]
    let headers := ((site .utc).respondBehind p (scene sentAt) .initial fromSecond).1.headers
    Cors.Policy.ofSetting? setting = some p ∧ Cors.allowOrigin "http://b.test" ∈ headers ∧
      Cors.allowCredentials "true" ∈ headers ∧ Cors.allowOrigin "*" ∉ headers := by
  intro setting p headers
  have hsetting : Cors.Policy.ofSetting? setting = some p := by decide +kernel
  have hitem : "http://b.test" ∈ Cors.items " http://a.test ,, http://b.test " := by decide +kernel
  have hchars : ("http://b.test".toList.all fun ch => decide (IsPrintable ch)) = true := by
    decide +kernel
  obtain ⟨honly, hnamed, -⟩ :=
    (site .utc).credentials_for_listed (scene sentAt) .initial fromSecond hsetting
  obtain ⟨hadmitted, hcredentials⟩ := hnamed _ rfl _ hitem
    (fun ch hch => of_decide_eq_true (List.all_eq_true.1 hchars ch hch)) rfl
  exact ⟨hsetting, hadmitted, hcredentials, (honly hcredentials).1⟩

end Sample

end Daybook
