import Daybook.Session.Cookie
import Daybook.Token.Basic

/-!
# Sessions

A session holds who is logged in and which messages are pending.  All of it is carried by a signed
token in a cookie; a token that is refused opens an empty session.

## Main definitions

* `Session` : a session, and whether it differs from the token it was read from.
* `Session.ofToken`, `Session.setCookie` : a session read from a token, and written to a cookie.
* `Session.login`, `Session.logout`, `Session.addFlash`, `Session.takeFlashes` : its changes.
* `Session.isStale` : whether a session should be given a new token.
-/

namespace Daybook

/-- Who is logged in, the pending messages, when the token was issued, and whether anything was
changed since. -/
structure Session where
  userId : Option Uuid
  flashes : List String
  issuedAt : Option Int64
  changed : Bool
deriving DecidableEq, Repr

namespace Session

/-- The session without a user and messages. -/
def empty : Session :=
  ⟨none, [], none, false⟩

/-- The session that a token opens at a time. -/
def ofToken (s : LoginSettings) (now : Instant) (token : String) : Session :=
  match Token.verify s.sessionSecret now.seconds token with
  | .ok c => ⟨c.uid, c.flashes, some c.issuedAt, false⟩
  | .error _ => empty

/-- The session after a user has logged in. -/
def login (x : Session) (user : Uuid) : Session :=
  { x with userId := some user, changed := true }

/-- The session after its user has logged out. -/
def logout (x : Session) : Session :=
  { x with userId := none, changed := true }

/-- The session with a further message. -/
def addFlash (x : Session) (message : String) : Session :=
  { x with flashes := x.flashes ++ [message], changed := true }

/-- The pending messages, and the session without them. -/
def takeFlashes (x : Session) : List String × Session :=
  (x.flashes, { x with flashes := [], changed := x.changed || !x.flashes.isEmpty })

/-- Whether the token of a session was issued more than a day before a time. -/
def isStale (x : Session) (now : Instant) : Bool :=
  match x.issuedAt with
  | some t => decide (86400 < Int64.ofInt now.seconds - t)
  | none => false

/-- The claims of a token that is issued at a time.  The session is taken to end within the range
of instants: that no token can be issued in the last days of the last year is left out here. -/
def claimsAt (s : LoginSettings) (now : Instant) (user : Option Uuid) (flashes : List String) :
    Claims :=
  ⟨user, flashes, Int64.ofInt now.seconds,
    Int64.ofInt (now.seconds + s.sessionDays.toInt * secondsPerDay)⟩
where
  /-- The number of seconds of a day. -/
  secondsPerDay : Int := 86400

/-- A token that is issued at a time. -/
def issueToken (s : LoginSettings) (now : Instant) (user : Option Uuid) (flashes : List String) :
    String :=
  Token.sign s.sessionSecret (claimsAt s now user flashes)

/-- The text that sets the cookie of a session, or clears it when there is nothing to carry. -/
def setCookie (x : Session) (s : LoginSettings) (now : Instant) : String :=
  if x.userId.isNone && x.flashes.isEmpty then Cookie.clear s.cookieName
  else
    Cookie.set s.cookieName (issueToken s now x.userId x.flashes) s.sessionDays s.secureCookies

/-- The session of a request, which is empty without a cookie. -/
def ofCookies (s : LoginSettings) (now : Instant) (header : Option Bytes) : Session :=
  match header.bind fun bs => Cookie.find? bs s.cookieName with
  | some token => ofToken s now token
  | none => empty

end Session

end Daybook
