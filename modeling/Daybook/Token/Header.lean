import Daybook.Json.Tree

/-!
# The header of a token

The header names the algorithm of the signature, and may describe the key.

## Main definitions

* `Token.Algorithm` : the algorithms that a header may name.
* `Token.readHeader` : the reader of a header.
* `Token.isKey` : the values that describe a key.
-/

namespace Daybook.Token

open Json Json.Reader

/-- The algorithms that a header may name. -/
inductive Algorithm where
  | hs256
  | hs384
  | hs512
  | es256
  | es384
  | rs256
  | rs384
  | rs512
  | ps256
  | ps384
  | ps512
  | edDsa
deriving DecidableEq, Repr

/-- The names of the algorithms. -/
def algorithms : List (String × Algorithm) :=
  [("HS256", .hs256), ("HS384", .hs384), ("HS512", .hs512), ("ES256", .es256), ("ES384", .es384),
   ("RS256", .rs256), ("RS384", .rs384), ("RS512", .rs512), ("PS256", .ps256), ("PS384", .ps384),
   ("PS512", .ps512), ("EdDSA", .edDsa)]

/-- Reads the name of an algorithm. -/
def algorithmName : Reader Algorithm := do
  let name ← text.read
  match algorithms.lookup name with
  | some a => pure a
  | none => fail (.mismatched (.unreadable "unknown algorithm"))

/-- Reads an algorithm: its name, or an object with its name as key and `null` as value. -/
def algorithm : Reader Algorithm := do
  match ← aheadOfSpace with
  | some 0x7B => do
    skip
    let a ← algorithmName
    memberValue "alg" do
      match ← aheadOfSpace with
      | some 0x6E => do skip; identifier ['u', 'l', 'l']
      | _ => failAhead (.malformed .expectedValue)
    match ← aheadOfSpace with
    | some 0x7D => do skip; pure a
    | _ => failAhead (.malformed .expectedValue)
  | _ => algorithmName

/-! ### Keys -/

/-- The value of a key in an object in which that key occurs at most once. -/
def unique? (ms : List (String × Tree)) (name : String) : Option (Option Tree) :=
  match ms.filter (·.1 == name) with
  | [] => some none
  | [(_, t)] => some (some t)
  | _ => none

/-- Whether an object has a key exactly once, with a value that passes a test. -/
def hasOne (ms : List (String × Tree)) (name : String) (accept : Tree → Bool) : Bool :=
  match unique? ms name with
  | some (some t) => accept t
  | _ => false

/-- Whether an object lacks a key, or has it once with `null` or a value that passes a test. -/
def mayHave (ms : List (String × Tree)) (accept : Tree → Bool) (name : String) : Bool :=
  match unique? ms name with
  | some none => true
  | some (some .null) => true
  | some (some t) => accept t
  | none => false

/-- Whether a value is a text. -/
def isText : Tree → Bool
  | .text _ => true
  | _ => false

/-- Whether a value is one of some names: as a text, or as the only key of an object with a value
that holds nothing. -/
def isName (isNothing : Tree → Bool) (names : List String) : Tree → Bool
  | .text s => names.contains s
  | .object [(s, t)] => names.contains s && isNothing t
  | _ => false

/-- Whether a value is `null`. -/
def isNull : Tree → Bool
  | .null => true
  | _ => false

/-- Whether a value is `null` or an empty object. -/
def isNullOrEmpty : Tree → Bool
  | .null | .object [] => true
  | _ => false

/-- The algorithms that a key may be meant for. -/
def keyAlgorithms : List String :=
  algorithms.map (·.1) ++ ["RSA1_5", "RSA-OAEP", "RSA-OAEP-256"]

/-- The names of elliptic curves. -/
def curves : List String :=
  ["P-256", "P-384", "P-521", "Ed25519"]

/-- The names of the members that keys of all types share. -/
def sharedNames : List String :=
  ["use", "key_ops", "alg", "kid", "x5u", "x5c", "x5t", "x5t#S256"]

/-- Whether the members that keys of all types share are well formed. -/
def hasSharedMembers (ms : List (String × Tree)) : Bool :=
  ["use", "kid", "x5u", "x5t", "x5t#S256"].all (mayHave ms isText) &&
    ["key_ops", "x5c"].all (mayHave ms fun t => t.texts?.isSome) &&
    mayHave ms (isName isNullOrEmpty keyAlgorithms) "alg"

/-- Whether an object has the members of a key of some type. -/
def hasKeyMembers (ms : List (String × Tree)) : Bool :=
  let hasText name := hasOne ms name isText
  let hasName name names := hasOne ms name (isName isNull names)
  hasName "kty" ["EC"] && hasName "crv" curves && hasText "x" && hasText "y" ||
    hasName "kty" ["RSA"] && hasText "n" && hasText "e" ||
    hasName "kty" ["oct"] && hasText "k" ||
    hasName "kty" ["OKP"] && hasName "crv" curves && hasText "x"

/-- Whether a value describes a key. -/
def isKey : Tree → Bool
  | .object ms => hasSharedMembers ms && hasKeyMembers (ms.filter (!sharedNames.contains ·.1))
  | _ => false

/-- Reads the description of a key. -/
def key : Reader Tree := do
  let t ← tree memberDepth
  if isKey t then pure t else fail (.mismatched (.unreadable "not a key"))

/-! ### Headers -/

/-- A member of a header that is only read, and may be missing or `null`. -/
def described {α : Type} (name : String) (r : Reader α) : Member :=
  ⟨name, Option α, Member.orNull r, fun _ => none, some none, none⟩

/-- The members of a header. -/
def headerMembers : List Member :=
  [described "typ" text.read,
   ⟨"alg", Algorithm, algorithm, fun _ => none, none, none⟩,
   described "cty" text.read,
   described "jku" text.read,
   described "jwk" key,
   described "kid" text.read,
   described "x5u" text.read,
   described "x5c" (list text).read,
   described "x5t" text.read,
   described "x5t#S256" text.read]

/-- Reads a header for the algorithm it names. -/
def readHeader : Reader Algorithm := do
  let (_, a, _) ← readValues "Header" headerMembers
  pure a

end Daybook.Token
