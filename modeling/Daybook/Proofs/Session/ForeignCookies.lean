import Daybook.Proofs.Session.Acceptance
import Daybook.Proofs.Session.Cookies

/-!
# Cookies of other programs

A browser sends the cookies of all programs on a host in one header.  What others have set does not
keep the server from finding its token there, wherever it stands, as long as all bytes of the header
are visible.  A header with other bytes is not read at all, and the session is empty.

## Main results

* `Session.foreign_cookies_ignored` : the session that is opened by a token among the cookies of
  others.
* `Session.accented_cookie_empties` : a letter beyond ASCII in another cookie empties the session.
-/

namespace Daybook

theorem Cookie.find?_of_invisible {header : Bytes} (h : header.all isVisible = false)
    (name : String) : find? header name = none := by
  have hnone : headerChars? header = none := if_neg (Bool.not_eq_true _ ▸ h)
  rw [find?, hnone]
  rfl

namespace Session

/-- The cookies of other programs do not matter.  A token that was issued to a user with some
messages, and is accepted, opens the session of that user with those messages when it comes in a
header among other cookies, if all bytes of the header are visible.  Otherwise no header is read. -/
theorem foreign_cookies_ignored {s : LoginSettings} (hname : Cookie.IsName s.cookieName)
    (neighbours : Cookie.Neighbours s.cookieName) (issued now : Instant) (user : Option Uuid)
    (flashes : List String) (haccepted : ∃ c, Token.verify s.sessionSecret now.seconds
      (issueToken s issued user flashes) = .ok c) :
    let header := neighbours.header (issueToken s issued user flashes)
    let x := ofCookies s now (some header)
    (header.all Cookie.isVisible = true → x.userId = user ∧ x.flashes = flashes) ∧
      (header.all Cookie.isVisible = false → x = empty) := by
  intro header x
  have hplain : ∀ c ∈ (issueToken s issued user flashes).toList, Cookie.IsPlain c :=
    isPlain_of_mem_issueToken
  constructor
  · intro hvisible
    obtain ⟨c, hc⟩ := haccepted
    have hfind : Cookie.find? header s.cookieName = some (issueToken s issued user flashes) :=
      neighbours.find?_header hname
        (Cookie.notMem_of_isPlain hplain Cookie.IsPlain.not_isPlain_separators.1)
        (Cookie.trim_of_isPlain hplain) hvisible
    have hx : x = ofToken s now (issueToken s issued user flashes) := by
      simp only [x, ofCookies, Option.bind_some, hfind]
    rw [hx]
    have hopened := ofToken_of_verify hc
    rwa [Token.eq_of_verify_sign hc] at hopened
  · intro hvisible
    simp only [x, ofCookies, Option.bind_some, Cookie.find?_of_invisible hvisible]

/-- A token between the cookies of two other programs, one of which has no value. -/
theorem foreign_cookies_ignored_of_two :
    let s : LoginSettings := ⟨"secret", 1, Settings.cookieName, false, "app", "key", "url"⟩
    let now : Instant := ⟨1000000000, 0, by decide, by decide⟩
    let token := issueToken s now (some default) ["Hello"]
    let neighbours : Cookie.Neighbours s.cookieName :=
      ⟨[Utf8.encode "theme=\"a=b\" "], [0x20], [0x09], [Utf8.encode "debug"],
        by simpa using ⟨by decide, by decide⟩, by simp, by simp, by decide⟩
    let header := neighbours.header token
    Cookie.IsName s.cookieName ∧ (∃ c, Token.verify s.sessionSecret now.seconds token = .ok c) ∧
      header.all Cookie.isVisible = true ∧ (ofCookies s now (some header)).userId = some default ∧
      (ofCookies s now (some header)).flashes = ["Hello"] := by
  intro s now token neighbours header
  have hs : KeptForDays s := ⟨by decide, by decide⟩
  have hnow : 60 ≤ now.seconds := by decide
  have hname : Cookie.IsName s.cookieName :=
    Cookie.isName_of_isPlain (by decide) Settings.isPlain_of_mem_cookieName
  have haccepted := verify_claimsAt hs hnow hnow (some default) ["Hello"]
  rw [if_pos (by decide)] at haccepted
  have hvisible : header.all Cookie.isVisible = true := by
    have htoken : (Utf8.encode token).all Cookie.isVisible = true :=
      Cookie.isVisible_of_isPrintable fun c hc => (isPlain_of_mem_issueToken c hc).isPrintable
    simp only [header, neighbours, Cookie.Neighbours.header, Cookie.Neighbours.pieces,
      List.cons_append, List.nil_append, List.intercalate_cons_cons, List.intercalate_singleton,
      List.all_append, List.all_cons, Utf8.encode_append, htoken]
    decide
  exact ⟨hname, ⟨_, haccepted⟩, hvisible,
    (foreign_cookies_ignored hname neighbours now now (some default) ["Hello"] ⟨_, haccepted⟩).1
      hvisible⟩

/-- A letter beyond ASCII in the cookie of another program empties the session of a user whose token
is accepted. -/
theorem accented_cookie_empties :
    let s : LoginSettings := ⟨"secret", 1, Settings.cookieName, false, "app", "key", "url"⟩
    let now : Instant := ⟨1000000000, 0, by decide, by decide⟩
    let token := issueToken s now (some default) []
    let header := Utf8.encode ("theme=é; " ++ s.cookieName ++ "=" ++ token)
    isHeaderText ("theme=é; " ++ s.cookieName ++ "=" ++ token) = true ∧
      (ofToken s now token).userId = some default ∧ ofCookies s now (some header) = empty := by
  intro s now token header
  have hs : KeptForDays s := ⟨by decide, by decide⟩
  have hnow : 60 ≤ now.seconds := by decide
  have haccepted := verify_claimsAt hs hnow hnow (some default) []
  rw [if_pos (by decide)] at haccepted
  have hinvisible : header.all Cookie.isVisible = false := by
    simp only [header, String.append_assoc, Utf8.encode_append, List.all_append]
    exact Bool.and_eq_false_imp.2 fun h => absurd h (by decide)
  refine ⟨?_, (ofToken_of_verify haccepted).1, ?_⟩
  · have htoken : isHeaderText token = true := Token.isHeaderText_sign _ _
    simp only [isHeaderText_append, htoken]
    decide
  · simp only [ofCookies, Option.bind_some, Cookie.find?_of_invisible hinvisible]

end Session

end Daybook
