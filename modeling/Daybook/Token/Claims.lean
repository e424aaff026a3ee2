import Daybook.Json.Tree

/-!
# The claims of a session token

A token says who is logged in, which messages are pending, when it was issued and when it expires.

## Main definitions

* `Claims`, `Claims.codec` : the claims and their JSON text.
* `Claims.Registered` : what any token may say about its own validity.
-/

namespace Daybook

/-- What a session token says.  Times are seconds from the beginning of 1 January 1970. -/
structure Claims where
  uid : Option Uuid
  flashes : List String
  issuedAt : Int64
  expiresAt : Int64
deriving DecidableEq, Repr

namespace Claims

open Json Json.Reader

/-- The members of the claims. -/
def members : List Member :=
  [.optional "uid" uuid true, .listed "flashes" text, .required "iat" integer,
   .required "exp" integer]

/-- The JSON text of the claims. -/
def codec : Codec Claims :=
  record "SessionClaims" members (fun (uid, flashes, issuedAt, expiresAt, _) =>
    ⟨uid, flashes, issuedAt, expiresAt⟩)
    (fun c => (c.uid, c.flashes, c.issuedAt, c.expiresAt, ()))

/-! ### Registered claims -/

/-- What a token says about its validity: when it expires, and whether it names an audience. -/
structure Registered where
  expiresAt : Option Nat
  hasAudience : Bool
deriving DecidableEq, Repr

/-- Reads a number.  A list or an object is read up to its end if it is empty. -/
def anyNumber : Reader Number := do
  match ← aheadOfSpace with
  | none => failAhead (.truncated .value)
  | some b =>
    let refused : Cause := .mismatched (.unreadable "a number was expected")
    if b = 0x5B then do skip; closedBy (failSomewhere refused) endOfList
    else if b = 0x7B then do skip; closedBy (failSomewhere refused) endOfObject
    else
      match ← scalar b with
      | .number n => pure n
      | _ => fail refused

/-- A time: a natural number.  Anything else counts as no time. -/
def time : Reader (Option Nat) := do
  match ← attempt anyNumber with
  | some (.natural n) => pure (some n)
  | _ => pure none

/-- Whether a value names an audience: it is a text or a list of texts, which may be empty. -/
def namesAudience (t : Tree) : Bool :=
  match t with
  | .text _ => true
  | _ => t.texts?.isSome

/-- Whether an audience is named.  A value that cannot be read names none. -/
def audience : Reader Bool := do
  match ← attempt (Member.orNull (tree memberDepth)) with
  | some (some t) => pure (namesAudience t)
  | _ => pure false

/-- A registered claim, which is only read. -/
def registered {α : Type} (name : String) (r : Reader α) (absent : α) (mayEnd : Bool) : Member :=
  ⟨name, α, r, fun _ => none, some absent, if mayEnd then some absent else none⟩

/-- The registered claims. -/
def registeredMembers : List Member :=
  [registered "exp" time none true,
   registered "nbf" time none true,
   registered "sub" (attempt (Member.orNull text.read)) none false,
   registered "iss" (attempt (Member.orNull (tree memberDepth))) none false,
   registered "aud" audience false false]

/-- Reads the registered claims. -/
def readRegistered : Reader Registered := do
  let (expiresAt, _, _, _, hasAudience, _) ← readValues "RegisteredClaims" registeredMembers
  pure ⟨expiresAt, hasAudience⟩

end Claims

end Daybook
