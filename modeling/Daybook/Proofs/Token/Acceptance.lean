import Daybook.Proofs.Text.Split
import Daybook.Proofs.Token.Expiry

/-!
# Accepted tokens

A token is accepted only with the authentication code of its first two parts, written in the one way
in which it can be written.

## Main definitions

* `Token.codeOf` : the authentication code of a message.
* `Token.IsSigned` : the parts of a token whose last part is the right authentication code.

## Main results

* `Token.isSigned_of_verify` : accepted tokens are signed.
* `Token.expiresAt_of_verify` : they expired a minute ago at the earliest.
* `Token.IsSigned.eq_of_verify` : no other token with the same header and claims is accepted.
* `Token.IsSigned.codeOf_eq_of_verify` : none with the same last part is accepted whose first
  two parts have another authentication code.
-/

namespace Daybook.Token

open Json

/-- The authentication code of a message under a secret. -/
def codeOf (secret : String) (message : List Char) : Bytes :=
  Digest.authenticate (Utf8.encode secret) (Utf8.encode (String.ofList message))

/-- A token is *signed* when it consists of a header, which names the right algorithm, of the claims
and of the authentication code of both, in the alphabet of 64 characters. -/
structure IsSigned (secret : String) (token : String) (header claims : List Char) (c : Claims) :
    Prop where
  toList : token.toList = header ++ '.' :: (claims ++ '.' ::
    Base64.encode (codeOf secret (header ++ '.' :: claims)))
  header : ∃ bs, Base64.decode? header = some bs ∧ contents readHeader bs = .ok .hs256
  claims : ∃ bs, Base64.decode? claims = some bs ∧ Claims.codec.decode bs = .ok c

theorem exists_of_bind_eq_ok {α β : Type} {x : Except Refusal α} {f : α → Except Refusal β} {b : β}
    (h : (x >>= f) = .ok b) : ∃ a, x = .ok a ∧ f a = .ok b := by
  cases x with
  | error e => cases h
  | ok a => exact ⟨a, rfl, h⟩

theorem split_eq_ok {s message code : List Char} (h : verify.split s = .ok (message, code)) :
    s = message ++ '.' :: code ∧ '.' ∉ code := by
  by_cases hmem : '.' ∈ s
  · obtain ⟨code', message', hs, hnone⟩ := List.eq_append_cons_of_mem (List.mem_reverse.2 hmem)
    have hparts : s = message'.reverse ++ '.' :: code'.reverse := by
      rw [← List.reverse_reverse s, hs]
      simp
    have hcode : '.' ∉ code'.reverse := fun hc => hnone (List.mem_reverse.1 hc)
    rw [hparts, split_append hcode] at h
    cases h
    exact ⟨hparts, hcode⟩
  · simp only [verify.split, splitLast?, if_neg hmem] at h
    cases h

theorem partBytes_eq_ok {cs : List Char} {bs : Bytes} (h : partBytes cs = .ok bs) :
    Base64.decode? cs = some bs := by
  unfold partBytes at h
  split at h
  · next hread =>
    cases h
    exact hread
  · cases h

theorem point_notMem_of_decode? {cs : List Char} {bs : Bytes} (h : Base64.decode? cs = some bs) :
    '.' ∉ cs :=
  Base64.notMem_of_decode? (by decide) h

variable {secret token : String} {now : Int} {c : Claims}

/-- What is found in an accepted token. -/
theorem verify_eq_ok (h : verify secret now token = .ok c) :
    ∃ header claims, IsSigned secret token header claims c ∧
      ∃ bs r, contents Claims.codec.read bs = .ok c ∧ contents Claims.readRegistered bs = .ok r ∧
        checkRegistered now r = .ok () := by
  unfold verify at h
  obtain ⟨⟨message, code⟩, houter, h⟩ := exists_of_bind_eq_ok h
  obtain ⟨⟨header, claims⟩, hinner, h⟩ := exists_of_bind_eq_ok h
  obtain ⟨bs, hheader, h⟩ := exists_of_bind_eq_ok h
  obtain ⟨algorithm, halgorithm, h⟩ := exists_of_bind_eq_ok h
  by_cases hhs256 : algorithm = .hs256
  · by_cases hcode : code = signature secret message
    · dsimp only at h
      rw [if_neg fun hne => hne hhs256, if_neg fun hne => hne hcode] at h
      obtain ⟨input, hinput, h⟩ := exists_of_bind_eq_ok h
      obtain ⟨found, hfound, h⟩ := exists_of_bind_eq_ok h
      obtain ⟨r, hr, h⟩ := exists_of_bind_eq_ok h
      obtain ⟨u, hcheck, h⟩ := exists_of_bind_eq_ok h
      cases h
      obtain ⟨htoken, -⟩ := split_eq_ok houter
      obtain ⟨rfl, -⟩ := split_eq_ok hinner
      refine ⟨header, claims, ⟨?_, ⟨bs, partBytes_eq_ok hheader, hhs256 ▸ halgorithm⟩,
        ⟨input, partBytes_eq_ok hinput, contents_eq_ok_iff.1 hfound⟩⟩, input, r, hfound, hr, hcheck⟩
      rw [htoken, hcode, List.append_assoc]
      rfl
    · dsimp only at h
      rw [if_neg fun hne => hne hhs256, if_pos hcode] at h
      cases h
  · dsimp only at h
    rw [if_pos hhs256] at h
    cases h

/-- The claims of an accepted token are those that can be read from it. -/
theorem claims?_of_verify (h : verify secret now token = .ok c) : claims? token = some c := by
  obtain ⟨header, claims, hsigned, -⟩ := verify_eq_ok h
  obtain ⟨bs, hbs, hclaims⟩ := hsigned.claims
  have hsplit : verify.split token.toList = .ok (header ++ '.' :: claims,
      Base64.encode (codeOf secret (header ++ '.' :: claims))) := by
    rw [hsigned.toList, ← List.cons_append, ← List.append_assoc]
    exact split_append (point_notMem_encode _)
  have hmessage : verify.split (header ++ '.' :: claims) = .ok (header, claims) :=
    split_append (point_notMem_of_decode? hbs)
  have hbytes : partBytes claims = .ok bs := by
    simp only [partBytes, hbs]
  rw [claims?, hsplit, ok_bind]
  dsimp only
  rw [hmessage, ok_bind]
  dsimp only
  rw [hbytes, ok_bind, contents_eq_ok_iff.2 hclaims]
  rfl

/-- A token that was signed here and is accepted carries the claims that were signed. -/
theorem eq_of_verify_sign {c' : Claims} (h : verify secret now (sign secret c) = .ok c') : c' = c :=
  Option.some.inj ((claims?_of_verify h).symm.trans (claims?_sign secret c))

/-- Accepted tokens are signed. -/
theorem isSigned_of_verify (h : verify secret now token = .ok c) :
    ∃ header claims, IsSigned secret token header claims c :=
  let ⟨header, claims, hsigned, _⟩ := verify_eq_ok h
  ⟨header, claims, hsigned⟩

/-- Accepted tokens expired a minute ago at the earliest. -/
theorem expiresAt_of_verify (h : verify secret now token = .ok c) (hpast : leeway ≤ now)
    (hfuture : now < UInt64.size) : now - leeway ≤ c.expiresAt.toInt := by
  obtain ⟨-, -, -, bs, r, hclaims, hregistered, hcheck⟩ := verify_eq_ok h
  unfold checkRegistered at hcheck
  split at hcheck
  · cases hcheck
  · next expiry hexpiry =>
    rw [emod_present hpast hfuture] at hcheck
    split_ifs at hcheck with hexpired haudience
    rw [Claims.toInt_expiresAt hclaims hregistered hexpiry]
    exact Int.not_lt.1 hexpired

namespace IsSigned

variable {header claims : List Char} (hsigned : IsSigned secret token header claims c)

include hsigned

theorem point_notMem : '.' ∉ header ∧ '.' ∉ claims := by
  obtain ⟨bs, hheader, -⟩ := hsigned.header
  obtain ⟨bs', hclaims, -⟩ := hsigned.claims
  exact ⟨point_notMem_of_decode? hheader, point_notMem_of_decode? hclaims⟩

/-- No other token with the same header and claims is accepted. -/
theorem eq_of_verify {other : String} {code : List Char} {c' : Claims}
    (hother : other.toList = header ++ '.' :: (claims ++ '.' :: code))
    (h : verify secret now other = .ok c') : other = token := by
  obtain ⟨header', claims', hsigned'⟩ := isSigned_of_verify h
  obtain ⟨hheader, hclaims⟩ := hsigned.point_notMem
  obtain ⟨hheader', hclaims'⟩ := hsigned'.point_notMem
  have htoken := hother.symm.trans hsigned'.toList
  obtain ⟨rfl, htoken⟩ := Text.eq_of_append_eq hheader hheader' htoken
  obtain ⟨rfl, rfl⟩ := Text.eq_of_append_eq hclaims hclaims' htoken
  exact String.toList_inj.1 (hother.trans hsigned.toList.symm)

/-- The header and the claims alone are not accepted. -/
theorem verify_ne_ok {other : String} {c' : Claims}
    (hother : other.toList = header ++ '.' :: claims) : verify secret now other ≠ .ok c' := by
  intro h
  obtain ⟨header', claims', hsigned'⟩ := isSigned_of_verify h
  obtain ⟨hheader, hclaims⟩ := hsigned.point_notMem
  have htoken := hother.symm.trans hsigned'.toList
  obtain ⟨rfl, rfl⟩ := Text.eq_of_append_eq hheader hsigned'.point_notMem.1 htoken
  exact hclaims (List.mem_append_right _ List.mem_cons_self)

omit hsigned in
/-- A token with the authentication code of a message as its last part is accepted only if its
first two parts have the same code. -/
theorem codeOf_eq_of_verify {other : String} {message message' : List Char} {c' : Claims}
    (hother : other.toList = message' ++ '.' :: Base64.encode (codeOf secret message))
    (h : verify secret now other = .ok c') : codeOf secret message' = codeOf secret message := by
  obtain ⟨header', claims', hsigned'⟩ := isSigned_of_verify h
  have htoken := hother.symm.trans hsigned'.toList
  rw [← List.cons_append, ← List.append_assoc] at htoken
  have hsplit := split_append (s := message') (point_notMem_encode (codeOf secret message))
  rw [htoken, split_append (point_notMem_encode _)] at hsplit
  obtain ⟨rfl, hcode⟩ := Prod.mk.inj (Except.ok.inj hsplit)
  exact Base64.encode_injective hcode

end IsSigned

end Daybook.Token
