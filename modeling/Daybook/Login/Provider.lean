import Daybook.Http.Percent
import Daybook.Http.Status
import Daybook.Login.Settings
import Daybook.Login.User
import Daybook.Text.Blank

/-!
# The login provider

A user who comes back from the provider's dialog brings a code.  The code is exchanged for an access
token, and the token for the user's profile.

## Main definitions

* `Endpoints`, `Provider.dialogUrl`, `Provider.tokenUrl`, `Provider.profileUrl` : the addresses.
* `Reply` : what comes back from an address.
* `ProviderError` : the ways in which an exchange fails.
* `Provider.readToken`, `Provider.readProfile` : what is taken from a reply.
* `Provider.identify` : the whole exchange, with the addresses that were asked.
-/

namespace Daybook

/-- The addresses of the provider's dialog, of its access tokens and of its profiles. -/
structure Endpoints where
  dialog : String
  accessToken : String
  profile : String
deriving DecidableEq, Repr

/-- The addresses of the provider. -/
def Endpoints.standard : Endpoints :=
  ⟨"https://www.facebook.com/dialog/oauth", "https://graph.facebook.com/oauth/access_token",
   "https://graph.facebook.com/me"⟩

/-- What comes back from an address. -/
inductive Reply where
  /-- Nothing comes back. -/
  | unreachable (reason : String)
  /-- The connection closes before the end of the body. -/
  | cut (status : Nat) (reason : String)
  /-- A whole response.  Its body is in the encoding UTF-8; one that was sent in another encoding,
  which its headers or a byte order mark name, has been turned into it. -/
  | whole (status : Nat) (body : Bytes)
deriving DecidableEq, Repr

/-- The ways in which an exchange with the provider fails. -/
inductive ProviderError where
  | tokenRequest (reason : String)
  | tokenRejected (status : Nat) (body : String)
  | malformedToken (reason : String)
  | missingField (name : String)
  | profileRequest (reason : String)
  | profileRejected (status : Nat)
  | malformedProfile (fault : Json.Fault)
deriving DecidableEq, Repr

namespace ProviderError

/-- Whether the provider itself has refused the exchange. -/
def isRejection : ProviderError → Bool
  | .tokenRejected .. => true
  | .profileRejected .. => true
  | _ => false

/-- The words for a failure. -/
def message : ProviderError → String
  | .tokenRequest reason => "Token exchange request failed: " ++ reason
  | .tokenRejected status _ => "Token exchange rejected with status " ++ Status.text status
  | .malformedToken reason => "Token response could not be parsed: " ++ reason
  | .missingField name => "Token response is missing `" ++ name ++ "`"
  | .profileRequest reason => "Profile request failed: " ++ reason
  | .profileRejected status => "Profile request rejected with status " ++ Status.text status
  | .malformedProfile fault => "Malformed profile response: " ++ fault.cause.message

end ProviderError

namespace Provider

/-! ### Addresses -/

/-- A query with the given names and values. -/
def query (fields : List (String × String)) : String :=
  "&".intercalate (fields.map fun (name, value) =>
    name ++ "=" ++ String.ofList (Percent.encode value))

/-- The address of the dialog to which a user is sent. -/
def dialogUrl (e : Endpoints) (s : LoginSettings) : String :=
  e.dialog ++ "?" ++ query [("client_id", s.appId), ("redirect_uri", s.redirectUrl)]

/-- The address that exchanges a code for an access token. -/
def tokenUrl (e : Endpoints) (s : LoginSettings) (code : String) : String :=
  e.accessToken ++ "?" ++ query [("client_id", s.appId), ("client_secret", s.appSecret),
    ("code", code), ("redirect_uri", s.redirectUrl)]

/-- The address of the profile of the owner of an access token. -/
def profileUrl (e : Endpoints) (token : String) : String :=
  e.profile ++ "?" ++ query [("access_token", token)]

/-! ### Replies -/

/-- The text of a body in the encoding UTF-8, without a byte order mark.  Other encodings are not
looked for here. -/
def bodyText (body : Bytes) : String :=
  match body with
  | 0xEF :: 0xBB :: 0xBF :: rest => Utf8.decodeLossy rest
  | _ => Utf8.decodeLossy body

/-- The JSON text of an access token. -/
def tokenCodec : Json.Codec (Option String) :=
  Json.record "TokenResponse" [.optional "access_token" Json.text false] (fun (token, _) => token)
    (fun token => (token, ()))

/-- The access token that the text of a reply names, if it is not empty. -/
def named (token : Option String) : Except ProviderError String :=
  match token with
  | some token => if token.isEmpty then .error (.missingField "access_token") else .ok token
  | none => .error (.missingField "access_token")

/-- The access token in the text of a reply, which is a JSON object or a form. -/
def parseToken (text : String) : Except ProviderError String :=
  let cs := Text.trim text.toList
  let input := Utf8.encode (String.ofList cs)
  if cs.head? = some '\x7b' then
    match tokenCodec.decode input with
    | .ok token => named token
    | .error fault => .error (.malformedToken (fault.describe input))
  else
    let fields := Form.parse input
    match Form.repeated? ["access_token"] fields with
    | some name => .error (.malformedToken ("duplicate field `" ++ name ++ "`"))
    | none => named (Form.value? "access_token" fields)

/-- The access token in a reply. -/
def readToken : Reply → Except ProviderError String
  | .unreachable reason => .error (.tokenRequest reason)
  | .cut _ reason => .error (.tokenRequest reason)
  | .whole status body =>
    if status = 200 then parseToken (bodyText body)
    else .error (.tokenRejected status (bodyText body))

/-- The profile in a reply. -/
def readProfile : Reply → Except ProviderError Profile
  | .unreachable reason => .error (.profileRequest reason)
  | .cut status reason =>
    if status = 200 then .error (.profileRequest reason) else .error (.profileRejected status)
  | .whole status body =>
    if status = 200 then
      match Profile.codec.decode (Utf8.encode (bodyText body)) with
      | .ok p => .ok p
      | .error fault => .error (.malformedProfile fault)
    else .error (.profileRejected status)

/-- The profile of the user who brings a code, and the addresses that were asked for it in order. -/
def identify (ask : String → Reply) (e : Endpoints) (s : LoginSettings) (code : String) :
    Except ProviderError Profile × List String :=
  let first := tokenUrl e s code
  match readToken (ask first) with
  | .error err => (.error err, [first])
  | .ok token =>
    let second := profileUrl e token
    (readProfile (ask second), [first, second])

end Provider

end Daybook
