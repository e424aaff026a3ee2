import Daybook.Http.Message
import Daybook.Text.Blank
import Daybook.Text.Split

/-!
# Requests from other origins

A browser asks whether the pages of another origin may use the answers of this server.  Either every
origin may, without credentials, or the listed ones may, with credentials.

## Main definitions

* `Cors.Policy`, `Cors.Policy.ofSetting?` : who may use the answers, as set by a list of origins.
* `Cors.Policy.headers` : the headers that tell it to the browser.
* `Cors.Policy.apply` : the response to a request under a policy.
-/

namespace Daybook.Cors

/-- Who may use the answers: everybody, or the listed origins. -/
inductive Policy where
  | everybody
  | listed (origins : List String)
deriving DecidableEq, Repr

namespace Policy

/-- The origins of a list with commas between them.  Blanks around an origin do not count, and what
cannot stand in a header is left out. -/
def origins (setting : String) : List String :=
  ((Text.pieces ',' setting.toList).map fun p => String.ofList (Text.trim p)).filter isHeaderText

/-- The policy of a setting.  Without an origin everybody may use the answers.  There is no policy
that lists the wildcard, since it would give credentials to everybody. -/
def ofSetting? (setting : Option String) : Option Policy :=
  match setting.map origins with
  | none => some .everybody
  | some [] => some .everybody
  | some os => if "*" ∈ os then none else some (.listed os)

/-- The listed origin that a request comes from. -/
def admitted? (origins : List String) (r : Request) : Option String :=
  (r.header? "origin").bind fun bs => origins.find? fun o => Utf8.encode o == bs

/-- The headers on which the answers depend. -/
def vary : String × String :=
  ("vary", "origin, access-control-request-method, access-control-request-headers")

/-- The headers that tell a browser who may use an answer, and how.  A question in advance is told
more. -/
def headers (p : Policy) (r : Request) : List (String × String) :=
  match p with
  | .everybody =>
    let more :=
      if r.method = .options then
        [("access-control-allow-methods", "*"), ("access-control-allow-headers", "*")]
      else [("access-control-expose-headers", "*")]
    ("access-control-allow-origin", "*") :: more ++ [vary]
  | .listed origins =>
    let origin :=
      (admitted? origins r).toList.map fun o => ("access-control-allow-origin", o)
    let more :=
      if r.method = .options then
        [("access-control-allow-methods", "GET,POST,OPTIONS"),
         ("access-control-allow-headers", "content-type")]
      else []
    origin ++ ("access-control-allow-credentials", "true") :: more ++ [vary]

/-- The response to a request under a policy.  A question in advance is answered at once, and other
requests are answered as without the policy, with further headers. -/
def apply {m : Type → Type} [Monad m] (p : Policy) (r : Request) (inner : m Response) :
    m Response := do
  let response ← if r.method = .options then pure (.of 200 .nothing) else inner
  pure { response with headers := response.headers ++ p.headers r }

end Policy

end Daybook.Cors
