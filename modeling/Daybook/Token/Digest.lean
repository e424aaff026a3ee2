import Daybook.Text.Utf8

/-!
# Digests and authentication codes

The digest SHA-256 of a string of bytes, and the authentication code HMAC-SHA-256 of a message under
a key.

## Main definitions

* `Digest.sha256` : the digest of a string of bytes.
* `Digest.authenticate` : the authentication code of a message.
-/

namespace Daybook.Digest

/-- The eight words that a digest is made of while it is computed. -/
structure State where
  a : UInt32
  b : UInt32
  c : UInt32
  d : UInt32
  e : UInt32
  f : UInt32
  g : UInt32
  h : UInt32
deriving DecidableEq, Repr

/-- The words at the start: fractional parts of the square roots of the first eight primes. -/
def initial : State :=
  ⟨0x6A09E667, 0xBB67AE85, 0x3C6EF372, 0xA54FF53A, 0x510E527F, 0x9B05688C, 0x1F83D9AB, 0x5BE0CD19⟩

/-- One constant for every round: fractional parts of the cube roots of the first 64 primes. -/
def roundConstants : List UInt32 :=
  [0x428A2F98, 0x71374491, 0xB5C0FBCF, 0xE9B5DBA5, 0x3956C25B, 0x59F111F1, 0x923F82A4, 0xAB1C5ED5,
   0xD807AA98, 0x12835B01, 0x243185BE, 0x550C7DC3, 0x72BE5D74, 0x80DEB1FE, 0x9BDC06A7, 0xC19BF174,
   0xE49B69C1, 0xEFBE4786, 0x0FC19DC6, 0x240CA1CC, 0x2DE92C6F, 0x4A7484AA, 0x5CB0A9DC, 0x76F988DA,
   0x983E5152, 0xA831C66D, 0xB00327C8, 0xBF597FC7, 0xC6E00BF3, 0xD5A79147, 0x06CA6351, 0x14292967,
   0x27B70A85, 0x2E1B2138, 0x4D2C6DFC, 0x53380D13, 0x650A7354, 0x766A0ABB, 0x81C2C92E, 0x92722C85,
   0xA2BFE8A1, 0xA81A664B, 0xC24B8B70, 0xC76C51A3, 0xD192E819, 0xD6990624, 0xF40E3585, 0x106AA070,
   0x19A4C116, 0x1E376C08, 0x2748774C, 0x34B0BCB5, 0x391C0CB3, 0x4ED8AA4A, 0x5B9CCA4F, 0x682E6FF3,
   0x748F82EE, 0x78A5636F, 0x84C87814, 0x8CC70208, 0x90BEFFFA, 0xA4506CEB, 0xBEF9A3F7, 0xC67178F2]

/-- A word rotated to the right. -/
def rotate (x : UInt32) (n : UInt32) : UInt32 :=
  (x >>> n) ||| (x <<< (32 - n))

/-- The state after a round with a word of the message and a constant. -/
def round (s : State) (constant word : UInt32) : State :=
  let sum₁ := rotate s.e 6 ^^^ rotate s.e 11 ^^^ rotate s.e 25
  let choice := (s.e &&& s.f) ^^^ ((~~~ s.e) &&& s.g)
  let t₁ := s.h + sum₁ + choice + constant + word
  let sum₀ := rotate s.a 2 ^^^ rotate s.a 13 ^^^ rotate s.a 22
  let majority := (s.a &&& s.b) ^^^ (s.a &&& s.c) ^^^ (s.b &&& s.c)
  ⟨t₁ + (sum₀ + majority), s.a, s.b, s.c, s.d + t₁, s.e, s.f, s.g⟩

/-- The word that follows a word and the fifteen words after it. -/
def nextWord (first : UInt32) (later : List UInt32) : UInt32 :=
  let x := later.getD 0 0
  let y := later.getD 13 0
  let small₀ := rotate x 7 ^^^ rotate x 18 ^^^ (x >>> 3)
  let small₁ := rotate y 17 ^^^ rotate y 19 ^^^ (y >>> 10)
  small₁ + later.getD 8 0 + small₀ + first

/-- One round for every constant.  The next sixteen words are at hand. -/
def rounds : List UInt32 → List UInt32 → State → State
  | [], _, s => s
  | _, [], s => s
  | k :: ks, w :: ws, s => rounds ks (ws ++ [nextWord w ws]) (round s k w)

/-- The sums of the words of two states. -/
def State.add (s t : State) : State :=
  ⟨s.a + t.a, s.b + t.b, s.c + t.c, s.d + t.d, s.e + t.e, s.f + t.f, s.g + t.g, s.h + t.h⟩

/-- Bytes as words of four bytes, most significant first. -/
def words : Bytes → List UInt32
  | p :: q :: r :: s :: rest =>
    ((p.toUInt32 <<< 24) ||| (q.toUInt32 <<< 16) ||| (r.toUInt32 <<< 8) ||| s.toUInt32) ::
      words rest
  | _ => []

/-- A word as four bytes, most significant first. -/
def wordBytes (w : UInt32) : Bytes :=
  [(w >>> 24).toUInt8, (w >>> 16).toUInt8, (w >>> 8).toUInt8, w.toUInt8]

/-- The state after a number of blocks of 64 bytes. -/
def absorb : Nat → Bytes → State → State
  | 0, _, s => s
  | n + 1, message, s =>
    absorb n (message.drop 64) (s.add (rounds roundConstants (words (message.take 64)) s))

/-- A number as eight bytes, most significant first. -/
def lengthBytes (n : Nat) : Bytes :=
  (List.range 8).map fun i => UInt8.ofNat (n / Nat.pow 256 (7 - i))

/-- A message followed by a one bit, zero bits and its length in bits, up to whole blocks. -/
def padded (message : Bytes) : Bytes :=
  message ++ 0x80 :: List.replicate ((119 - message.length % 64) % 64) 0 ++
    lengthBytes (8 * message.length)

/-- The digest of a message. -/
def sha256 (message : Bytes) : Bytes :=
  let blocks := padded message
  let s := absorb (blocks.length / 64) blocks initial
  [s.a, s.b, s.c, s.d, s.e, s.f, s.g, s.h].flatMap wordBytes

/-- A key of the length of a block: a longer one is replaced by its digest, and zeros follow. -/
def blockKey (key : Bytes) : Bytes :=
  let short := if 64 < key.length then sha256 key else key
  short ++ List.replicate (64 - short.length) 0

/-- The authentication code of a message under a key. -/
def authenticate (key message : Bytes) : Bytes :=
  let k := blockKey key
  sha256 (k.map (· ^^^ 0x5C) ++ sha256 (k.map (· ^^^ 0x36) ++ message))

end Daybook.Digest
