import Daybook.Json.Record

/-!
# Users

A user logs in with a profile of the login provider, and has one account here for each profile.

## Main definitions

* `Profile` : what the provider says about a user.
* `User` : the account of a user.
* `Account`, `LoginPage` : what is shown of an account, and of the login page.
-/

namespace Daybook

open Json

/-- A user as the login provider knows them. -/
structure Profile where
  id : String
  name : String
deriving DecidableEq, Repr

/-- The JSON text of a profile. -/
def Profile.codec : Codec Profile :=
  record "FacebookProfile" [.required "id" text, .required "name" text]
    (fun (id, name, _) => ⟨id, name⟩) (fun p => (p.id, p.name, ()))

/-- An account.  `uid` is the identifier of its profile. -/
structure User where
  id : Uuid
  uid : String
  name : String
  createdAt : Instant
deriving DecidableEq, Repr

namespace User

/-- The members of an account. -/
def members : List Member :=
  [.required "id" uuid, .required "uid" text, .required "name" text,
   .required "created_at" instant]

/-- The JSON text of an account. -/
def codec : Codec User :=
  record "User" members (fun (id, uid, name, createdAt, _) => ⟨id, uid, name, createdAt⟩)
    (fun u => (u.id, u.uid, u.name, u.createdAt, ()))

end User

/-- What a user is shown of their account. -/
structure Account where
  id : Uuid
  name : String
deriving DecidableEq, Repr

namespace Account

/-- What is shown of an account. -/
def ofUser (u : User) : Account :=
  ⟨u.id, u.name⟩

/-- The JSON text of what is shown of an account. -/
def codec : Codec Account :=
  record "AuthUserResponse" [.required "id" uuid, .required "name" text]
    (fun (id, name, _) => ⟨id, name⟩) (fun a => (a.id, a.name, ()))

end Account

/-- The login page: where to log in, and a message if there is one. -/
structure LoginPage where
  authUrl : String
  error : Option String
deriving DecidableEq, Repr

/-- The JSON text of the login page. -/
def LoginPage.codec : Codec LoginPage :=
  record "LoginInitResponse" [.required "auth_url" text, .optional "error" text false]
    (fun (authUrl, error, _) => ⟨authUrl, error⟩) (fun p => (p.authUrl, p.error, ()))

end Daybook
