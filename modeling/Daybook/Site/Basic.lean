import Daybook.Http.MediaType
import Daybook.Service.Accounts
import Daybook.Session.Basic
import Daybook.Site.Problem
import Daybook.Site.Route

/-!
# The site

The site answers requests.  Its pages are for users who are logged in; all others are sent to the
login page.  The session of a user is given a new token when its token is a day old.

## Main definitions

* `Site` : the settings of a site and its time zone.
* `Site.showEntry`, `Site.editEntry`, `Site.saveEntry`, `Site.showCalendar` : the pages.
* `Site.showLogin`, `Site.logout`, `Site.callback` : logging in and out.
* `Site.guard` : the access to the pages.
* `Site.handle`, `Site.respond` : what the site does with a request, and the response.
-/

namespace Daybook

/-- The settings of a site, its time zone, and the addresses of its login provider. -/
structure Site where
  settings : LoginSettings
  zone : Zone
  endpoints : Endpoints

namespace Site

variable (site : Site)

/-- The session of a request. -/
def session (r : Request) (now : Instant) : Session :=
  Session.ofCookies site.settings now (r.header? "cookie")

/-- A redirection with a cookie.  The redirection is lost when the cookie cannot be written. -/
def redirect (location cookie : String) : Response :=
  if isHeaderText cookie then
    { Response.of 302 .nothing with location := some location, setCookie := some cookie }
  else .of 302 .badHeader

/-! ### Pages -/

/-- The date in a path.  The rest of the request is not looked at when it is not a text. -/
def pathDate (raw : String) (next : String → Action Problem Response) : Action Problem Response :=
  match Utf8.decode? (Percent.decode (Utf8.encode raw)) with
  | some date => next date
  | none => pure (.of 400 (.plain "Invalid URL: Invalid UTF-8 in `date`"))

/-- The date of a page, which has to be the written form of a day. -/
def checkDate (date : String) : Action Problem Date :=
  Action.ofExcept ((Date.read date).mapError .ofDateError)

/-- The page of a user's day: the entry that was saved, or an empty one. -/
def pageOf (user : User) (date : String) (editable : Bool) : Action Problem Response := do
  match ← (Journal.find user.id date).mapError .ofStoreError with
  | some e => pure (.of 200 (.page (.ofEntry e editable true)))
  | none =>
    let id ← Action.drawId
    let now ← Action.now
    pure (.of 200 (.page (.ofEntry (Entry.blank id user.id date now) editable false)))

/-- Shows the page of a day. -/
def showEntry (user : User) (date : String) : Action Problem Response := do
  let _ ← checkDate date
  let now ← Action.now
  pageOf user date (date = Journal.today site.zone now)

/-- Shows the page of today to be edited. -/
def editEntry (user : User) (date : String) : Action Problem Response := do
  let _ ← checkDate date
  let now ← Action.now
  if date = Journal.today site.zone now then pageOf user date true
  else Action.fail (.ofSaveError .notEditable)

/-- How many bytes the body of a request may have. -/
def bodyLimit : Nat :=
  2097152

/-- Whether the headers of a request announce a JSON text. -/
def announcesJson (r : Request) : Bool :=
  match (r.header? "content-type").bind Cookie.headerChars? with
  | some cs => (MediaType.parse? cs).any MediaType.isJson
  | none => false

/-- The words for a fault in the body of a request. -/
def bodyMessage (input : Bytes) (f : Json.Fault) : String :=
  (match f.cause.category with
    | .mismatched => "Failed to deserialize the JSON body into the target type: "
    | _ => "Failed to parse the request body as JSON: ") ++ f.describe input

/-- The submission in the body of a request. -/
def submission (r : Request) : Except String Submission :=
  if !announcesJson r then .error "Expected request with `Content-Type: application/json`"
  else if bodyLimit < r.body.length then
    .error "Failed to buffer the request body: length limit exceeded"
  else (Submission.codec.decodeStart r.body).mapError (bodyMessage r.body)

/-- Saves a text for a day. -/
def saveEntry (user : User) (r : Request) (date : String) : Action Problem Response := do
  let _ ← checkDate date
  let sent ← Action.ofExcept ((submission r).mapError .badRequest)
  let now ← Action.now
  let e ← (Journal.save user.id date sent.body (Journal.today site.zone now)).mapError .ofSaveError
  pure (.of 200 (.page (.ofEntry e true true)))

/-- Shows the month of a day. -/
def showCalendar (user : User) (date : String) : Action Problem Response := do
  let d ← checkDate date
  let now ← Action.now
  let v ← (Journal.month user.id site.zone (site.zone.startOfDay d) now).mapError .ofStoreError
  pure (.of 200 (.month v))

/-- Sends a user to the page of today. -/
def showRoot : Action Problem Response := do
  let now ← Action.now
  pure { Response.of 302 .nothing with
    location := some ("/entries/" ++ Journal.today site.zone now) }

/-! ### Logging in and out -/

/-- Shows the login page with the first pending message.  The messages are pending no longer. -/
def showLogin (r : Request) : Action Problem Response := do
  let now ← Action.now
  let (flashes, session) := (site.session r now).takeFlashes
  let page : LoginPage :=
    ⟨Provider.dialogUrl site.endpoints site.settings, flashes.head?⟩
  if session.changed then
    let cookie := session.setCookie site.settings now
    if isHeaderText cookie then
      pure { Response.of 200 (.login page) with setCookie := some cookie }
    else pure (.of 500 .badHeader)
  else pure (.of 200 (.login page))

/-- Logs a user out. -/
def logout (r : Request) : Action Problem Response := do
  let now ← Action.now
  pure (redirect "/auth" ((site.session r now).logout.setCookie site.settings now))

/-- The message for a login that has failed. -/
def loginFailed : String :=
  "Failed to log in with Facebook"

/-- The account of the user who comes back from the provider's dialog with a code or an error. -/
def identify (code error : Option String) : Action Problem User :=
  match error, code with
  | some e, _ => Action.fail (.unauthorized ("dialog returned " ++ e))
  | none, none => Action.fail (.unauthorized "missing code")
  | none, some code =>
    if code.isEmpty then Action.fail (.unauthorized "missing code")
    else do
      let p ← (Action.identify site.endpoints site.settings code).mapError .ofProviderError
      (Accounts.ofProfile p).mapError fun _ => .unauthorized "user could not be created"

/-- The response to a user who comes back from the provider's dialog, once they are known or not. -/
def afterDialog (session : Session) (now : Instant) : Except Problem User → Response
  | .ok user => redirect "/" ((session.login user.id).setCookie site.settings now)
  | .error (.unauthorized _) =>
    redirect "/auth" ((session.logout.addFlash loginFailed).setCookie site.settings now)
  | .error p => p.response

/-- Logs in the user who comes back from the provider's dialog. -/
def callback (r : Request) : Action Problem Response := do
  let fields := Form.parse (Utf8.encode r.query)
  match Form.repeated? ["code", "error"] fields with
  | some name =>
    pure (.of 400 (.plain ("Failed to deserialize query string: duplicate field `" ++ name ++ "`")))
  | none =>
    let now ← Action.now
    (site.identify (Form.value? "code" fields) (Form.value? "error" fields)).settle
      (site.afterDialog (site.session r now) now)

/-! ### Access -/

/-- The response to those who are not logged in. -/
def unauthorized : Response :=
  redirect "/auth" (Cookie.clear site.settings.cookieName)

/-- An action that ends with a response in any case. -/
def finish {ε : Type} (x : Action Problem Response) : Action ε Response :=
  x.settle fun
    | .ok r => r
    | .error p => p.response

/-- The response with a new token for a session that is stale, unless it sets a cookie already or
the cookie cannot be written. -/
def refresh (session : Session) (now : Instant) (r : Response) : Response :=
  let cookie := session.setCookie site.settings now
  if session.isStale now && r.setCookie.isNone && isHeaderText cookie then
    { r with setCookie := some cookie }
  else r

/-- Lets a user who is logged in pass, and refreshes the session. -/
def welcome (session : Session) (now : Instant) (user : Option User)
    (inner : User → Action Problem Response) : Action Problem Response :=
  match user with
  | none => pure site.unauthorized
  | some user => do
    let response ← finish (inner user)
    pure (site.refresh session now response)

/-- Lets the users who are logged in pass, and sends all others to the login page. -/
def guard (r : Request) (inner : User → Action Problem Response) : Action Empty Response :=
  finish do
    let now ← Action.now
    let session := site.session r now
    match session.userId with
    | none => pure site.unauthorized
    | some id =>
      let user ← (Action.getUser id).mapError .ofStoreError
      site.welcome session now user inner

/-! ### Requests -/

/-- The response to a method that a resource does not allow. -/
def notAllowed : Response :=
  .of 405 .nothing

/-- What the pages answer to a user. -/
def pageMethods (r : Request) : PageRoute → Methods (User → Action Problem Response)
  | .root => ⟨fun _ => site.showRoot, none⟩
  | .account => ⟨fun user => pure (.of 200 (.account (.ofUser user))), none⟩
  | .entry raw =>
    ⟨fun user => pathDate raw (site.showEntry user),
      some fun user => pathDate raw (site.saveEntry user r)⟩
  | .editing raw => ⟨fun user => pathDate raw (site.editEntry user), none⟩
  | .calendar raw => ⟨fun user => pathDate raw (site.showCalendar user), none⟩

/-- What a resource answers to a request. -/
def serve (r : Request) : Route → Action Empty Response
  | .page p => (site.pageMethods r p).serve (site.guard r) (fun _ => pure notAllowed) r.method
  | .health => openTo (pure (.of 200 .nothing))
  | .login => openTo (site.showLogin r)
  | .logout => openTo (site.logout r)
  | .callback => openTo (site.callback r)
where
  /-- A resource that anybody may read. -/
  openTo (x : Action Problem Response) : Action Empty Response :=
    (Methods.mk x none).serve finish (pure notAllowed) r.method

/-- What the site does with a request. -/
def handle (r : Request) : Action Empty Response :=
  match Route.ofPath? r.path with
  | some route => site.serve r route
  | none => pure (.of 404 .nothing)

/-- The response to a request in a scene and a state, with the state afterwards and the addresses of
the login provider that were asked. -/
def respond (c : Scene) (s : State) (r : Request) : Response × State × List String :=
  let o := site.handle r c s
  match o.result with
  | .ok response => (response, o.state, o.asked)

end Site

end Daybook
