import Daybook.Proofs.Token.Base64
import Daybook.Proofs.Token.Claims
import Daybook.Token.Basic

/-!
# Signed tokens are accepted until they expire

## Main definitions

* `Token.message` : the part of a token that its authentication code is about.
* `Token.claims?`, `Token.expiry?` : what a token says, and the time of expiry that it names.

## Main results

* `Token.split_append` : what comes before and after the last point.
* `Token.verify_sign` : a signed token is accepted until a minute after it expires.
-/

namespace Daybook.Token

open Json Utf8

theorem ok_bind {α β : Type} (a : α) (f : α → Except Refusal β) : (Except.ok a >>= f) = f a :=
  rfl

theorem splitLast?_append {c : Char} {s t : List Char} (h : c ∉ t) :
    splitLast? c (s ++ c :: t) = some (s, t) := by
  have hkeep : ∀ d ∈ t.reverse, (d != c) = true := by
    intro d hd
    rw [bne_iff_ne]
    rintro rfl
    exact h (List.mem_reverse.1 hd)
  have hreverse : (s ++ c :: t).reverse = t.reverse ++ c :: s.reverse := by simp
  have hmem : c ∈ s ++ c :: t := List.mem_append_right _ List.mem_cons_self
  simp only [splitLast?, if_pos hmem, hreverse]
  rw [List.dropWhile_append_of_pos hkeep, List.takeWhile_append_of_pos hkeep]
  simp

theorem split_append {s t : List Char} (h : '.' ∉ t) :
    verify.split (s ++ '.' :: t) = .ok (s, t) := by
  simp only [verify.split, splitLast?_append h]

/-- No point stands in what is written in the alphabet of 64 characters. -/
theorem point_notMem_encode (bs : Bytes) : '.' ∉ Base64.encode bs := by
  intro h
  rcases Base64.inAlphabet_of_mem_encode _ h with h | h | h | h | h <;> revert h <;> decide

theorem partBytes_part (s : String) : partBytes (part s) = .ok (Utf8.encode s) := by
  simp only [partBytes, part, Base64.decode?_encode]

theorem contents_header : contents readHeader (Utf8.encode header) = .ok .hs256 := by
  rfl

theorem contents_eq_ok_iff {α : Type} {r : Reader α} {input : Bytes} {a : α} :
    contents r input = .ok a ↔ (Codec.mk r fun _ => []).decode input = .ok a := by
  unfold contents
  cases (Codec.mk r fun _ => []).decode input <;> simp

/-! ### The parts of a signed token -/

/-- The first two parts of the token for some claims. -/
def message (c : Claims) : List Char :=
  part header ++ '.' :: part (Claims.codec.encode c)

theorem split_sign (secret : String) (c : Claims) :
    verify.split (sign secret c).toList = .ok (message c, signature secret (message c)) := by
  rw [sign, String.toList_ofList]
  exact split_append (point_notMem_encode _)

theorem split_message (c : Claims) :
    verify.split (message c) = .ok (part header, part (Claims.codec.encode c)) :=
  split_append (point_notMem_encode _)

theorem contents_claims (c : Claims) :
    contents Claims.codec.read (Utf8.encode (Claims.codec.encode c)) = .ok c := by
  rw [Codec.encode, Utf8.encode_ofList]
  exact contents_eq_ok_iff.2 (Claims.decode_write c)

theorem contents_registered {c : Claims} (hexp : 0 ≤ c.expiresAt.toInt) :
    contents Claims.readRegistered (Utf8.encode (Claims.codec.encode c)) =
      .ok ⟨some c.expiresAt.toInt.natAbs, false⟩ := by
  rw [Codec.encode, Utf8.encode_ofList]
  exact contents_eq_ok_iff.2 (Claims.decode_registered hexp fun _ => [])

/-! ### Lifetime -/

section

variable {now : Int} (hpast : leeway ≤ now) (hfuture : now < UInt64.size)

include hpast hfuture

/-- The present is not cut off in 64 bits. -/
theorem emod_present : (now - leeway) % (UInt64.size : Int) = now - leeway :=
  Int.emod_eq_of_lt (by omega) (by simp only [leeway]; omega)

theorem checkRegistered_of_nonneg {e : Int} (he : 0 ≤ e) :
    checkRegistered now ⟨some e.natAbs, false⟩ =
      if now ≤ e + leeway then .ok () else .error .expired := by
  have hexpiry : (e.natAbs : Int) = e := by omega
  simp only [checkRegistered, emod_present hpast hfuture, hexpiry]
  by_cases hvalid : now ≤ e + leeway
  · rw [if_neg (by omega), if_pos hvalid]
    rfl
  · rw [if_pos (by omega), if_neg hvalid]

end

/-- A signed token is accepted until a minute after it expires. -/
theorem verify_sign (secret : String) {now : Int} (c : Claims) (hexp : 0 ≤ c.expiresAt.toInt)
    (hpast : leeway ≤ now) (hfuture : now < UInt64.size) :
    verify secret now (sign secret c) =
      if now ≤ c.expiresAt.toInt + leeway then .ok c else .error .expired := by
  rw [verify, split_sign, ok_bind]
  dsimp only
  rw [split_message, ok_bind]
  dsimp only
  rw [partBytes_part, ok_bind, contents_header, ok_bind, if_neg (by decide), if_neg (by simp),
    partBytes_part, ok_bind, contents_claims, ok_bind, contents_registered hexp, ok_bind,
    checkRegistered_of_nonneg hpast hfuture hexp]
  split_ifs <;> rfl

/-! ### Claims

What a token says can be read from it whether or not it is accepted. -/

/-- The claims of a token, whether or not it is accepted. -/
def claims? (token : String) : Option Claims :=
  (do
    let (message, _) ← verify.split token.toList
    let (_, claims) ← verify.split message
    contents Claims.codec.read (← partBytes claims) : Except Refusal Claims).toOption

theorem claims?_sign (secret : String) (c : Claims) : claims? (sign secret c) = some c := by
  rw [claims?, split_sign, ok_bind]
  dsimp only
  rw [split_message, ok_bind]
  dsimp only
  rw [partBytes_part, ok_bind, contents_claims]
  rfl

/-- The time of expiry that a token names, whether or not it is accepted. -/
def expiry? (token : String) : Option Int :=
  (do
    let (message, _) ← verify.split token.toList
    let (_, claims) ← verify.split message
    let c ← contents Claims.codec.read (← partBytes claims)
    pure c.expiresAt.toInt : Except Refusal Int).toOption

theorem expiry?_eq (token : String) :
    expiry? token = (claims? token).map fun c => c.expiresAt.toInt := by
  unfold expiry? claims?
  cases verify.split token.toList with
  | error e => rfl
  | ok parts =>
    obtain ⟨message, code⟩ := parts
    rw [ok_bind, ok_bind]
    dsimp only
    cases verify.split message with
    | error e => rfl
    | ok parts =>
      obtain ⟨header, claims⟩ := parts
      rw [ok_bind, ok_bind]
      dsimp only
      cases partBytes claims with
      | error e => rfl
      | ok bs =>
        rw [ok_bind, ok_bind]
        cases contents Claims.codec.read bs <;> rfl

theorem expiry?_sign (secret : String) (c : Claims) :
    expiry? (sign secret c) = some c.expiresAt.toInt := by
  rw [expiry?_eq, claims?_sign, Option.map_some]

end Daybook.Token
