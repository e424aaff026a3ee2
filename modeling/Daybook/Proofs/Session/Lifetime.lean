import Daybook.Proofs.Token.Signing
import Daybook.Session.Basic

/-!
# The lifetime of a session's token

A token says when it was issued, and expires a number of days later.  It is read back as it was
issued up to a minute after that, and is refused from then on.

## Main results

* `Session.toInt_issuedAt`, `Session.toInt_expiresAt` : the times of the claims, which fit 64 bits.
* `Session.verify_issueToken` : what is read from an issued token, at any time.
* `Session.isStale_claimsAt` : when a session should be given a new token.
-/

namespace Daybook.Session

/-- Session cookies are kept for one day up to ten years. -/
def KeptForDays (s : LoginSettings) : Prop :=
  1 ≤ s.sessionDays.toInt ∧ s.sessionDays.toInt ≤ 3650

section

variable (s : LoginSettings) (t : Instant) (user : Option Uuid) (flashes : List String)

theorem toInt_issuedAt : (claimsAt s t user flashes).issuedAt.toInt = t.seconds := by
  obtain ⟨hlow, hhigh⟩ := t.seconds_inRange
  simp only [firstSecond, lastSecond] at hlow hhigh
  exact Int64.toInt_ofInt_of_le (by omega) (by omega)

variable {s} in
theorem toInt_expiresAt (hs : KeptForDays s) :
    (claimsAt s t user flashes).expiresAt.toInt = t.seconds + s.sessionDays.toInt * 86400 := by
  obtain ⟨hlow, hhigh⟩ := t.seconds_inRange
  obtain ⟨hshort, hlong⟩ := hs
  simp only [firstSecond, lastSecond] at hlow hhigh
  simp only [claimsAt, claimsAt.secondsPerDay]
  exact Int64.toInt_ofInt_of_le (by omega) (by omega)

variable {s} in
theorem expiry?_issueToken (hs : KeptForDays s) :
    Token.expiry? (issueToken s t user flashes) =
      some (t.seconds + s.sessionDays.toInt * 86400) := by
  rw [issueToken, Token.expiry?_sign, toInt_expiresAt t user flashes hs]

end

/-- What is read from an issued token, up to a minute after it expires and later. -/
theorem verify_claimsAt {s : LoginSettings} (hs : KeptForDays s) {t₀ t₁ : Instant}
    (h₀ : 60 ≤ t₀.seconds) (h₁ : 60 ≤ t₁.seconds) (user : Option Uuid) (flashes : List String) :
    Token.verify s.sessionSecret t₁.seconds (issueToken s t₀ user flashes) =
      if t₁.seconds ≤ t₀.seconds + s.sessionDays.toInt * 86400 + 60 then
        .ok (claimsAt s t₀ user flashes)
      else .error .expired := by
  have hexpiry := toInt_expiresAt t₀ user flashes hs
  have hfuture : t₁.seconds < UInt64.size := by
    have := t₁.seconds_inRange.2
    simp only [lastSecond] at this
    simp only [UInt64.size]
    omega
  rw [issueToken, Token.verify_sign _ _ _ h₁ hfuture, hexpiry]
  · rfl
  · rw [hexpiry]
    have := hs.1
    omega

/-- A session is stale when its token was issued more than a day before. -/
theorem isStale_claimsAt (s : LoginSettings) (t now : Instant) (user : Option Uuid)
    (flashes : List String) (changed : Bool) :
    isStale ⟨user, flashes, some (claimsAt s t user flashes).issuedAt, changed⟩ now =
      decide (t.seconds + 86400 < now.seconds) := by
  have hissued := toInt_issuedAt s t user flashes
  have hpresent : (Int64.ofInt now.seconds).toInt = now.seconds :=
    toInt_issuedAt s now user flashes
  obtain ⟨hlow, hhigh⟩ := t.seconds_inRange
  obtain ⟨hlow', hhigh'⟩ := now.seconds_inRange
  simp only [firstSecond, lastSecond] at hlow hhigh hlow' hhigh'
  have hage : (Int64.ofInt now.seconds - (claimsAt s t user flashes).issuedAt).toInt =
      now.seconds - t.seconds := by
    rw [Int64.toInt_sub, hpresent, hissued]
    exact Int.bmod_eq_of_le (by omega) (by omega)
  have hday : (86400 : Int64).toInt = 86400 := by decide
  simp only [isStale, Int64.lt_iff_toInt_lt, hage, hday]
  exact decide_eq_decide.2 ⟨fun h => by omega, fun h => by omega⟩

/-- An issued token is read back as it was issued, up to a minute after it expires. -/
theorem verify_issueToken {s : LoginSettings} (hs : KeptForDays s) {t₀ t₁ : Instant}
    (h₀ : 60 ≤ t₀.seconds) (h₁ : 60 ≤ t₁.seconds) (user : Option Uuid) (flashes : List String) :
    ∃ issuedAt expiresAt : Int64, issuedAt.toInt = t₀.seconds ∧
      expiresAt.toInt = t₀.seconds + s.sessionDays.toInt * 86400 ∧
      Token.verify s.sessionSecret t₁.seconds (issueToken s t₀ user flashes) =
        if t₁.seconds ≤ t₀.seconds + s.sessionDays.toInt * 86400 + 60 then
          .ok ⟨user, flashes, issuedAt, expiresAt⟩
        else .error .expired :=
  ⟨_, _, toInt_issuedAt s t₀ user flashes, toInt_expiresAt t₀ user flashes hs,
    verify_claimsAt hs h₀ h₁ user flashes⟩

/-- A token that is kept for a day, a minute after it has expired. -/
theorem verify_issueToken_of_day :
    let s : LoginSettings := ⟨"secret", 1, "session", false, "app", "key", "url"⟩
    let issued : Instant := ⟨1000000000, 0, by decide, by decide⟩
    let late : Instant := ⟨1000086460, 0, by decide, by decide⟩
    KeptForDays s ∧ 60 ≤ issued.seconds ∧ 60 ≤ late.seconds ∧
      ∃ issuedAt expiresAt : Int64, issuedAt.toInt = 1000000000 ∧ expiresAt.toInt = 1000086400 ∧
        Token.verify s.sessionSecret late.seconds (issueToken s issued none ["\""]) =
          .ok ⟨none, ["\""], issuedAt, expiresAt⟩ := by
  intro s issued late
  have hs : KeptForDays s := ⟨by decide, by decide⟩
  have hissued : 60 ≤ issued.seconds := by decide
  have hlate : 60 ≤ late.seconds := by decide
  obtain ⟨issuedAt, expiresAt, hat, hexpiry, hread⟩ :=
    verify_issueToken hs hissued hlate none ["\""]
  rw [if_pos (by decide)] at hread
  exact ⟨hs, hissued, hlate, issuedAt, expiresAt, hat, hexpiry.trans (by decide), hread⟩

end Daybook.Session
