import Daybook.Token.Base64
import Daybook.Token.Claims
import Daybook.Token.Digest
import Daybook.Token.Header

/-!
# Signed tokens

A token has three parts joined by points: a header, the claims, and the authentication code of the
first two parts under a secret.  It is accepted when the code is the right one and the claims have
not expired.

## Main definitions

* `Token.sign` : the token with given claims.
* `Token.Refusal` : the reasons for which a token is refused.
* `Token.verify` : the claims of a token that is accepted.
-/

namespace Daybook.Token

/-- The reasons for which a token is refused, in the order in which they are looked for. -/
inductive Refusal where
  /-- There are fewer than three parts. -/
  | parts
  /-- A part does not encode bytes. -/
  | encoding
  /-- A part does not hold what it should. -/
  | contents
  /-- The header names another algorithm. -/
  | algorithm
  /-- The authentication code is not the right one. -/
  | signature
  /-- There is no time of expiry. -/
  | noExpiry
  /-- The time of expiry has passed. -/
  | expired
  /-- An audience is named. -/
  | audience
deriving DecidableEq, Repr

/-- The written form of a text as a part of a token. -/
def part (s : String) : List Char :=
  Base64.encode (Utf8.encode s)

/-- The header of every token that is signed here. -/
def header : String :=
  "\x7b\"typ\":\"JWT\",\"alg\":\"HS256\"\x7d"

/-- The written form of the authentication code of a message. -/
def signature (secret : String) (message : List Char) : List Char :=
  Base64.encode (Digest.authenticate (Utf8.encode secret) (Utf8.encode (String.ofList message)))

/-- The token with the given claims. -/
def sign (secret : String) (claims : Claims) : String :=
  let message := part header ++ '.' :: part (Claims.codec.encode claims)
  String.ofList (message ++ '.' :: signature secret message)

/-- What comes before and after the last occurrence of a character. -/
def splitLast? (c : Char) (s : List Char) : Option (List Char × List Char) :=
  if c ∈ s then
    let r := s.reverse
    some ((r.dropWhile (· != c)).tail.reverse, (r.takeWhile (· != c)).reverse)
  else none

/-- The bytes of a part. -/
def partBytes (cs : List Char) : Except Refusal Bytes :=
  match Base64.decode? cs with
  | some bs => .ok bs
  | none => .error .encoding

/-- What a whole input holds. -/
def contents {α : Type} (r : Json.Reader α) (input : Bytes) : Except Refusal α :=
  match (Json.Codec.mk r fun _ => []).decode input with
  | .ok a => .ok a
  | .error _ => .error .contents

/-- How many seconds after its expiry a token is still accepted. -/
def leeway : Int :=
  60

/-- Checks the claims of a token about its validity.  The present is counted in 64 bits without a
sign. -/
def checkRegistered (now : Int) (r : Claims.Registered) : Except Refusal Unit :=
  match r.expiresAt with
  | none => .error .noExpiry
  | some expiry =>
    if (expiry : Int) < (now - leeway) % UInt64.size then .error .expired
    else if r.hasAudience then .error .audience
    else .ok ()

/-- The claims of a token, if it is accepted at a time. -/
def verify (secret : String) (now : Int) (token : String) : Except Refusal Claims := do
  let (message, code) ← split token.toList
  let (header, claims) ← split message
  let algorithm ← contents readHeader (← partBytes header)
  if algorithm ≠ .hs256 then throw .algorithm
  if code ≠ signature secret message then throw .signature
  let input ← partBytes claims
  let found ← contents Claims.codec.read input
  checkRegistered now (← contents Claims.readRegistered input)
  pure found
where
  /-- What comes before and after the last point. -/
  split (s : List Char) : Except Refusal (List Char × List Char) :=
    match splitLast? '.' s with
    | some parts => .ok parts
    | none => .error .parts

end Daybook.Token
