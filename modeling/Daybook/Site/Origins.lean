import Daybook.Http.Cors
import Daybook.Site.Basic

/-!
# The site and other origins

A policy for other origins stands before everything that is chosen for a request: the access to the
pages, the resources that anybody may read, the refusal of a method, and the answer to a path that
leads nowhere.  Files that a server gives out besides the site do not stand behind it.

## Main definitions

* `Site.handleThrough` : what the site does with a request through a layer.
* `Site.respondBehind` : the response to a request behind a policy.
-/

namespace Daybook.Site

variable (site : Site)

/-- What a resource answers to a request through a layer. -/
def serveThrough (layer : Action Empty Response → Action Empty Response) (r : Request) :
    Route → Action Empty Response
  | .page p =>
    (site.pageMethods r p).serve (fun inner => layer (site.guard r inner))
      (fun _ => pure notAllowed) r.method
  | .health => openTo (pure (.of 200 .nothing))
  | .login => openTo (site.showLogin r)
  | .logout => openTo (site.logout r)
  | .callback => openTo (site.callback r)
where
  /-- A resource that anybody may read, through the layer. -/
  openTo (x : Action Problem Response) : Action Empty Response :=
    (Methods.mk x none).serve (fun inner => layer (finish inner)) (pure notAllowed) r.method

/-- What the site does with a request through a layer. -/
def handleThrough (layer : Action Empty Response → Action Empty Response) (r : Request) :
    Action Empty Response :=
  match Route.ofPath? r.path with
  | some route => site.serveThrough layer r route
  | none => layer (pure (.of 404 .nothing))

/-- Without a layer, it is what the site does. -/
theorem handleThrough_id (r : Request) : site.handleThrough id r = site.handle r := by
  rw [handleThrough, handle]
  cases Route.ofPath? r.path with
  | none => rfl
  | some route => cases route <;> rfl

/-- The response to a request behind a policy, with the state afterwards and the addresses of the
login provider that were asked. -/
def respondBehind (p : Cors.Policy) (c : Scene) (s : State) (r : Request) :
    Response × State × List String :=
  let o := site.handleThrough (p.apply r) r c s
  match o.result with
  | .ok response => (response, o.state, o.asked)

end Daybook.Site
