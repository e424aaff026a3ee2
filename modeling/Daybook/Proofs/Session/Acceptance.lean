import Daybook.Proofs.Session.Lifetime
import Daybook.Proofs.Token.Acceptance

/-!
# Only signed tokens open a session

## Main definitions

* `Session.IsVoid` : nobody is logged in, no message is pending, and no new token is due.
* `Session.Refuses` : a token is not accepted and opens a void session.

## Main results

* `Session.ofToken_signed` : a session that is not void was signed and has not expired, and an
  accepted token allows no changes.
-/

namespace Daybook.Session

open Token (IsSigned codeOf)

/-- A session is *void* when it has no user and no messages, was not changed, and is never due to
be given a new token. -/
structure IsVoid (x : Session) : Prop where
  userId : x.userId = none
  flashes : x.flashes = []
  changed : x.changed = false
  isStale : ∀ t, x.isStale t = false

theorem isVoid_empty : empty.IsVoid :=
  ⟨rfl, rfl, rfl, fun _ => rfl⟩

/-- A token that is not accepted at a time and opens a void session then. -/
def Refuses (s : LoginSettings) (now : Instant) (token : String) : Prop :=
  (∀ c, Token.verify s.sessionSecret now.seconds token ≠ .ok c) ∧ (ofToken s now token).IsVoid

variable {s : LoginSettings} {now : Instant} {token : String}

theorem refuses_of_verify_ne_ok (h : ∀ c, Token.verify s.sessionSecret now.seconds token ≠ .ok c) :
    Refuses s now token := by
  refine ⟨h, ?_⟩
  unfold ofToken
  split
  · next c hc => exact absurd hc (h c)
  · exact isVoid_empty

/-- What an accepted token carries is what the session holds. -/
theorem ofToken_of_verify {c : Claims}
    (h : Token.verify s.sessionSecret now.seconds token = .ok c) :
    (ofToken s now token).userId = c.uid ∧ (ofToken s now token).flashes = c.flashes := by
  simp only [ofToken, h, and_self]

/-- Only signed, unexpired tokens open a session.  A token either opens a void session or is signed,
expired a minute ago at the earliest, and opens the session that it carries.  No other token with
the header and the claims of an accepted token is accepted, and none with its last part whose first
two parts have another authentication code. -/
theorem ofToken_signed (s : LoginSettings) {now : Instant} (hnow : 60 ≤ now.seconds) :
    (∀ token, (ofToken s now token).IsVoid ∨
      ∃ header claims c, IsSigned s.sessionSecret token header claims c ∧
        now.seconds - 60 ≤ c.expiresAt.toInt ∧ (ofToken s now token).userId = c.uid ∧
        (ofToken s now token).flashes = c.flashes) ∧
    ∀ token c, Token.verify s.sessionSecret now.seconds token = .ok c →
      ∃ header claims, IsSigned s.sessionSecret token header claims c ∧
        (∀ other code, other ≠ token →
          (other.toList = header ++ '.' :: claims ∨
            other.toList = header ++ '.' :: (claims ++ '.' :: code)) → Refuses s now other) ∧
        ∀ other message, codeOf s.sessionSecret message ≠
            codeOf s.sessionSecret (header ++ '.' :: claims) →
          other.toList = message ++ '.' ::
            Base64.encode (codeOf s.sessionSecret (header ++ '.' :: claims)) →
          Refuses s now other := by
  have hfuture : now.seconds < UInt64.size := by
    have := now.seconds_inRange.2
    simp only [lastSecond] at this
    simp only [UInt64.size]
    omega
  constructor
  · intro token
    cases h : Token.verify s.sessionSecret now.seconds token with
    | error e =>
      refine .inl (refuses_of_verify_ne_ok fun c hc => ?_).2
      rw [h] at hc
      cases hc
    | ok c =>
      obtain ⟨header, claims, hsigned⟩ := Token.isSigned_of_verify h
      exact .inr ⟨header, claims, c, hsigned, Token.expiresAt_of_verify h hnow hfuture,
        ofToken_of_verify h⟩
  · intro token c h
    obtain ⟨header, claims, hsigned⟩ := Token.isSigned_of_verify h
    refine ⟨header, claims, hsigned, fun other code hne hother => ?_,
      fun other message hcode hother => ?_⟩
    · refine refuses_of_verify_ne_ok fun c' hc' => ?_
      rcases hother with hother | hother
      · exact hsigned.verify_ne_ok hother hc'
      · exact hne (hsigned.eq_of_verify hother hc')
    · exact refuses_of_verify_ne_ok fun c' hc' =>
        hcode (IsSigned.codeOf_eq_of_verify hother hc')

/-- A token that was just issued is accepted, and a letter more at its end makes it refused. -/
theorem ofToken_signed_issued :
    let s : LoginSettings := ⟨"secret", 1, "session", false, "app", "key", "url"⟩
    let now : Instant := ⟨1000000000, 0, by decide, by decide⟩
    let token := issueToken s now none ["Hello"]
    60 ≤ now.seconds ∧ (ofToken s now token).flashes = ["Hello"] ∧
      (∃ header claims c, IsSigned s.sessionSecret token header claims c ∧
        now.seconds - 60 ≤ c.expiresAt.toInt ∧ c.flashes = ["Hello"]) ∧
      Refuses s now (token ++ "A") := by
  intro s now token
  have hnow : 60 ≤ now.seconds := by decide
  have hs : KeptForDays s := ⟨by decide, by decide⟩
  have hverify := verify_claimsAt hs hnow hnow none ["Hello"]
  rw [if_pos (by decide)] at hverify
  obtain ⟨hopens, haccepted⟩ := ofToken_signed s hnow
  have hflashes := (ofToken_of_verify hverify).2
  refine ⟨hnow, hflashes, ?_, ?_⟩
  · rcases hopens token with hvoid | ⟨header, claims, c, hsigned, hexpiry, -, hc⟩
    · cases hflashes.symm.trans hvoid.flashes
    · exact ⟨header, claims, c, hsigned, hexpiry, hc.symm.trans hflashes⟩
  · obtain ⟨header, claims, hsigned, hother, -⟩ := haccepted token _ hverify
    have hlonger : (token ++ "A").toList = header ++ '.' :: (claims ++ '.' ::
        (Base64.encode (codeOf s.sessionSecret (header ++ '.' :: claims)) ++ ['A'])) := by
      rw [String.toList_append, hsigned.toList]
      simp only [List.append_assoc, List.cons_append]
      rfl
    have hne : token ++ "A" ≠ token := by
      intro he
      have hlength := congrArg String.length he
      rw [String.length_append] at hlength
      exact absurd hlength (by simp)
    exact hother (token ++ "A") _ hne (.inr hlonger)

end Daybook.Session
