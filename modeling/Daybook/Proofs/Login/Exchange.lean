import Daybook.Login.Provider

/-!
# Replies of the login provider

A reply grants what was asked for, refuses it, or has gone wrong on the way.  A token is granted and
refused by whole replies only; a profile is refused by the status alone, however much of the reply
arrives.

## Main definitions

* `Reply.Grants`, `Reply.RefusesToken`, `Reply.FailsToken` : what comes back for a code.
* `Reply.Shows`, `Reply.RefusesProfile`, `Reply.FailsProfile` : what comes back for a token.
* `Provider.Vouches` : the provider gives a token for a code, and a profile for the token.

## Main results

* `Provider.readToken_cases`, `Provider.readProfile_cases` : how each reply is read.
* `Provider.Vouches.unique` : a code leads to one profile.
* `Provider.identify_of_vouches` : the profile that is found, and the addresses that are asked.
-/

namespace Daybook

namespace Reply

/-- A reply *grants* a token when it is whole, has the status 200 and names the token, which is not
empty. -/
def Grants (r : Reply) (token : String) : Prop :=
  token ≠ "" ∧ ∃ body, r = .whole 200 body ∧
    Provider.parseToken (Provider.bodyText body) = .ok token

/-- A reply *refuses* a token when it is whole and has another status. -/
def RefusesToken (r : Reply) : Prop :=
  ∃ status body, status ≠ 200 ∧ r = .whole status body

/-- The replies that neither grant nor refuse a token. -/
inductive FailsToken : Reply → Prop
  | unreachable (reason : String) : FailsToken (.unreachable reason)
  | cut (status : Nat) (reason : String) : FailsToken (.cut status reason)
  | unread {body : Bytes} {e : ProviderError}
      (h : Provider.parseToken (Provider.bodyText body) = .error e) : FailsToken (.whole 200 body)

/-- A reply *shows* a profile when it is whole, has the status 200 and is the text of the
profile. -/
def Shows (r : Reply) (p : Profile) : Prop :=
  ∃ body, r = .whole 200 body ∧
    Profile.codec.decode (Utf8.encode (Provider.bodyText body)) = .ok p

/-- A reply *refuses* a profile when it has another status, also when it is not whole. -/
def RefusesProfile (r : Reply) : Prop :=
  ∃ status, status ≠ 200 ∧ ((∃ body, r = .whole status body) ∨ ∃ reason, r = .cut status reason)

/-- The replies that neither show nor refuse a profile. -/
inductive FailsProfile : Reply → Prop
  | unreachable (reason : String) : FailsProfile (.unreachable reason)
  | cut (reason : String) : FailsProfile (.cut 200 reason)
  | unread {body : Bytes} {fault : Json.Fault}
      (h : Profile.codec.decode (Utf8.encode (Provider.bodyText body)) = .error fault) :
      FailsProfile (.whole 200 body)

end Reply

namespace Provider

/-! ### Tokens -/

theorem named_cases (token : Option String) :
    (∃ text, token = some text ∧ text ≠ "" ∧ named token = .ok text) ∨
      named token = .error (.missingField "access_token") := by
  cases token with
  | none => exact .inr rfl
  | some text =>
    simp only [named]
    split
    · exact .inr rfl
    · next hempty =>
      refine .inl ⟨text, rfl, ?_, rfl⟩
      rintro rfl
      exact hempty rfl

/-- A text names a token that is not empty, or it is at fault, which is no refusal. -/
theorem parseToken_cases (text : String) :
    (∃ token, token ≠ "" ∧ parseToken text = .ok token) ∨
      ∃ e, parseToken text = .error e ∧ e.isRejection = false := by
  have hnamed (token : Option String) :
      (∃ text, text ≠ "" ∧ named token = .ok text) ∨
        ∃ e, named token = .error e ∧ e.isRejection = false := by
    rcases named_cases token with ⟨text, -, hne, hok⟩ | herror
    · exact .inl ⟨text, hne, hok⟩
    · exact .inr ⟨_, herror, rfl⟩
  simp only [parseToken]
  split
  · split
    · exact hnamed _
    · exact .inr ⟨_, rfl, rfl⟩
  · split
    · exact .inr ⟨_, rfl, rfl⟩
    · exact hnamed _

variable {r : Reply}

theorem readToken_of_grants {token : String} (h : r.Grants token) : readToken r = .ok token := by
  obtain ⟨-, body, rfl, hparse⟩ := h
  rw [readToken, if_pos rfl, hparse]

theorem readToken_of_refuses (h : r.RefusesToken) :
    ∃ e, readToken r = .error e ∧ e.isRejection = true := by
  obtain ⟨status, body, hstatus, rfl⟩ := h
  exact ⟨_, if_neg hstatus, rfl⟩

theorem readToken_of_fails (h : r.FailsToken) :
    ∃ e, readToken r = .error e ∧ e.isRejection = false := by
  cases h with
  | unreachable reason => exact ⟨_, rfl, rfl⟩
  | cut status reason => exact ⟨_, rfl, rfl⟩
  | @unread body e hparse =>
    rcases parseToken_cases (bodyText body) with ⟨token, -, hok⟩ | ⟨e', herror, hno⟩
    · rw [hparse] at hok
      cases hok
    · exact ⟨e', by rw [readToken, if_pos rfl, herror], hno⟩

/-! ### Profiles -/

theorem readProfile_of_shows {p : Profile} (h : r.Shows p) : readProfile r = .ok p := by
  obtain ⟨body, rfl, hdecode⟩ := h
  simp only [readProfile, if_pos, hdecode]

theorem readProfile_of_refuses (h : r.RefusesProfile) :
    ∃ e, readProfile r = .error e ∧ e.isRejection = true := by
  obtain ⟨status, hstatus, ⟨body, rfl⟩ | ⟨reason, rfl⟩⟩ := h
  · exact ⟨_, if_neg hstatus, rfl⟩
  · exact ⟨_, if_neg hstatus, rfl⟩

theorem readProfile_of_fails (h : r.FailsProfile) :
    ∃ e, readProfile r = .error e ∧ e.isRejection = false := by
  cases h with
  | unreachable reason => exact ⟨_, rfl, rfl⟩
  | cut reason => exact ⟨_, rfl, rfl⟩
  | @unread body fault hdecode =>
    exact ⟨.malformedProfile fault, by simp only [readProfile, if_pos, hdecode], rfl⟩

/-! ### The whole exchange -/

/-- The provider *vouches* for a code when it grants a token for the code, and shows a profile for
the token. -/
structure Vouches (ask : String → Reply) (e : Endpoints) (s : LoginSettings) (code token : String)
    (p : Profile) : Prop where
  granted : (ask (tokenUrl e s code)).Grants token
  shown : (ask (profileUrl e token)).Shows p

variable {ask : String → Reply} {e : Endpoints} {s : LoginSettings} {code token : String}

/-- A code leads to one token and one profile. -/
theorem Vouches.unique {p p' : Profile} {token' : String} (h : Vouches ask e s code token p)
    (h' : Vouches ask e s code token' p') : token = token' ∧ p = p' := by
  have htoken : token = token' :=
    Except.ok.inj ((readToken_of_grants h.granted).symm.trans (readToken_of_grants h'.granted))
  subst htoken
  exact ⟨rfl, Except.ok.inj
    ((readProfile_of_shows h.shown).symm.trans (readProfile_of_shows h'.shown))⟩

theorem identify_of_granted (h : (ask (tokenUrl e s code)).Grants token) :
    identify ask e s code =
      (readProfile (ask (profileUrl e token)), [tokenUrl e s code, profileUrl e token]) := by
  simp only [identify, readToken_of_grants h]

/-- Who brings a code for which the provider vouches is identified by the profile. -/
theorem identify_of_vouches {p : Profile} (h : Vouches ask e s code token p) :
    identify ask e s code = (.ok p, [tokenUrl e s code, profileUrl e token]) := by
  rw [identify_of_granted h.granted, readProfile_of_shows h.shown]

theorem identify_of_readToken_error {error : ProviderError}
    (h : readToken (ask (tokenUrl e s code)) = .error error) :
    identify ask e s code = (.error error, [tokenUrl e s code]) := by
  simp only [identify, h]

end Provider

end Daybook
