import Daybook.Journal.Entry
import Daybook.Journal.Month
import Daybook.Login.User
import Daybook.Text.Split

/-!
# Requests and responses

## Main definitions

* `Method`, `Request` : what a client asks for.
* `Content`, `Response` : what it is answered.
* `Methods` : what a resource answers to each method.
-/

namespace Daybook

/-- The method of a request. -/
inductive Method where
  | get
  | head
  | post
  | options
  | other (name : String)
deriving DecidableEq, Repr

/-- The method with a name. -/
def Method.ofName (name : String) : Method :=
  if name = "GET" then .get
  else if name = "HEAD" then .head
  else if name = "POST" then .post
  else if name = "OPTIONS" then .options
  else .other name

/-- A request.  The names of its headers are in small letters. -/
structure Request where
  method : Method
  path : String
  query : String
  headers : List (String × Bytes)
  body : Bytes

namespace Request

/-- What follows the scheme of an address. -/
def afterScheme? : List Char → Option (List Char)
  | [] => none
  | ':' :: '/' :: '/' :: rest => some rest
  | _ :: rest => afterScheme? rest

/-- Whether a character ends the name of a server in an address. -/
def endsServer (c : Char) : Bool :=
  c == '/' || c == '?' || c == '#'

/-- An address without the scheme and the server that it may begin with. -/
def withinServer (address : List Char) : List Char :=
  match address with
  | '/' :: _ => address
  | _ =>
    match afterScheme? address with
    | some rest => rest.dropWhile (!endsServer ·)
    | none => address

/-- The path and the query of an address: what comes before and after the first question mark.  What
follows a number sign belongs to neither.  An empty path stands for the root. -/
def target (address : String) : String × String :=
  let cs := (withinServer address.toList).takeWhile (· ≠ '#')
  let path := Text.before '?' cs
  (if path.isEmpty then "/" else String.ofList path, String.ofList (Text.after '?' cs))

/-- The first header with a name. -/
def header? (r : Request) (name : String) : Option Bytes :=
  r.headers.lookup name

end Request

/-! ### Responses -/

/-- What a response says. -/
inductive Content where
  | nothing
  | plain (text : String)
  | error (message : String)
  | page (p : Page)
  | month (v : MonthView)
  | account (a : Account)
  | login (p : LoginPage)
deriving DecidableEq, Repr

/-- The JSON text of an error. -/
def errorCodec : Json.Codec String :=
  Json.record "ErrorResponse" [.required "error" Json.text] (fun (message, _) => message)
    (fun message => (message, ()))

namespace Content

/-- The kind of text that a content is written as. -/
def type? : Content → Option String
  | .nothing => none
  | .plain _ => some "text/plain; charset=utf-8"
  | _ => some "application/json"

/-- The text of a content. -/
def text : Content → String
  | .nothing => ""
  | .plain text => text
  | .error message => errorCodec.encode message
  | .page p => Page.codec.encode p
  | .month v => MonthView.codec.encode v
  | .account a => Account.codec.encode a
  | .login p => LoginPage.codec.encode p

end Content

/-- A response.  A withheld content is described but not sent. -/
structure Response where
  status : Nat
  content : Content
  location : Option String
  setCookie : Option String
  allow : Option String
  withheld : Bool
  headers : List (String × String)
deriving DecidableEq, Repr

namespace Response

/-- A response with a status and a content. -/
def of (status : Nat) (content : Content) : Response :=
  ⟨status, content, none, none, none, false, []⟩

/-- The text that is sent. -/
def body (r : Response) : String :=
  if r.withheld then "" else r.content.text

/-- The response to a request that asks for the description only. -/
def withhold (r : Response) : Response :=
  { r with withheld := true }

/-- A response that names the allowed methods. -/
def allowing (r : Response) (methods : String) : Response :=
  { r with allow := some (r.allow.getD methods) }

end Response

/-- Whether a text can be the value of a header: it has no control characters but tabs. -/
def isHeaderText (s : String) : Bool :=
  (Utf8.encode s).all fun b => (0x20 ≤ b && b != 0x7F) || b == 0x09

/-- The content of a response one of whose headers cannot be written. -/
def Content.badHeader : Content :=
  .plain "failed to parse header value"

/-! ### Methods of a resource -/

/-- What a resource answers when it is read and, if it can be, when it is written. -/
structure Methods (α : Type) where
  get : α
  post : Option α

namespace Methods

variable {m : Type → Type} [Functor m]

/-- The methods that a resource allows. -/
def allowed {α : Type} (ms : Methods α) : String :=
  if ms.post.isSome then "GET,HEAD,POST" else "GET,HEAD"

/-- The answer to a method.  What is chosen is run in the same way for all methods, also the
refusal, whose response names the allowed ones. -/
def serve {α : Type} (ms : Methods α) (run : α → m Response) (refusal : α) (method : Method) :
    m Response :=
  match method, ms.post with
  | .get, _ => run ms.get
  | .head, _ => Response.withhold <$> run ms.get
  | .post, some post => run post
  | _, _ => (·.allowing ms.allowed) <$> run refusal

end Methods

end Daybook
