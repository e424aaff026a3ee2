import Daybook.Proofs.Session.CookieHeader
import Daybook.Proofs.Session.Lifetime
import Daybook.Proofs.Text.Decimal

/-!
# Cookies in the hands of a browser

A browser keeps the value of a cookie that is set, forgets a cookie that is cleared, and sends back
what it keeps.  The value of a session's cookie comes back as it was set.

## Main definitions

* `Cookie.received`, `Cookie.maxAge?` : what a browser keeps of the text that sets or clears a
  cookie, and for how long.
* `Cookie.IsPlain` : the characters of names and tokens.

## Main results

* `Cookie.find?_pair_of_isName` : the server finds the value that a browser sends back.
* `Session.received_setCookie_of_notMem`, `Session.maxAge?_setCookie` : what a browser keeps of a
  session, and for how long.
-/

namespace Daybook

namespace Cookie

/-! ### Plain characters -/

/-- The characters of names and tokens: letters, digits, hyphens, underscores and points. -/
def IsPlain (c : Char) : Prop :=
  Base64.InAlphabet c ∨ c = '.'

namespace IsPlain

variable {c : Char}

theorem isPrintable (h : IsPlain c) : IsPrintable c := by
  rcases h with h | rfl
  · exact h.isPrintable
  · exact ⟨by decide, by decide⟩

theorem ne_of_not (h : IsPlain c) {d : Char} (hd : ¬IsPlain d) : d ≠ c := by
  rintro rfl
  exact hd h

theorem not_isPlain_separators : ¬IsPlain ';' ∧ ¬IsPlain '=' ∧ ¬IsPlain ' ' := by
  unfold IsPlain Base64.InAlphabet
  decide

theorem isBlank_eq_false (h : IsPlain c) : Text.isBlank c = false := by
  obtain ⟨hlow, hhigh⟩ := h.isPrintable
  have hspace : c.toNat ≠ 0x20 :=
    fun he => h.ne_of_not not_isPlain_separators.2.2 (Char.toNat_inj.1 he.symm)
  simp [Text.isBlank]
  omega

end IsPlain

theorem notMem_of_isPlain {cs : List Char} (h : ∀ c ∈ cs, IsPlain c) {d : Char}
    (hd : ¬IsPlain d) : d ∉ cs :=
  fun hmem => hd (h d hmem)

theorem trim_of_isPlain {cs : List Char} (h : ∀ c ∈ cs, IsPlain c) : Text.trim cs = cs :=
  Text.trim_of_forall fun c hc => (h c hc).isBlank_eq_false

/-- Plain characters make the name of a cookie. -/
theorem isName_of_isPlain {name : String} (hne : name ≠ "")
    (h : ∀ c ∈ name.toList, IsPlain c) : IsName name :=
  let ⟨hsemicolon, hequals, _⟩ := IsPlain.not_isPlain_separators
  ⟨hne, trim_of_isPlain h, notMem_of_isPlain h hsemicolon, notMem_of_isPlain h hequals⟩

/-- A name and a value that consist of plain characters are not split. -/
theorem semicolon_notMem {name value : List Char} (hname : ∀ c ∈ name, IsPlain c)
    (hvalue : ∀ c ∈ value, IsPlain c) : ';' ∉ name ++ '=' :: value := by
  obtain ⟨hsemicolon, -, -⟩ := IsPlain.not_isPlain_separators
  intro hc
  rcases List.mem_append.1 hc with hc | hc
  · exact notMem_of_isPlain hname hsemicolon hc
  · rcases List.mem_cons.1 hc with hc | hc
    · exact absurd hc (by decide)
    · exact notMem_of_isPlain hvalue hsemicolon hc

/-! ### What a browser sends back -/

/-- The server finds the value that a browser sends back. -/
theorem find?_pair_of_isName {name value : String} (hname : IsName name)
    (hvisible : (Utf8.encode name).all isVisible = true) (hvalue : ∀ c ∈ value.toList, IsPlain c) :
    find? (Utf8.encode (name ++ "=" ++ value)) name = some value := by
  have hvisible : (Utf8.encode (name ++ "=" ++ value)).all isVisible = true := by
    have hrest := isVisible_of_isPrintable fun c hc => (hvalue c hc).isPrintable
    rw [Utf8.encode_append, Utf8.encode_append, List.all_append, List.all_append, hvisible, hrest]
    rfl
  rw [← Neighbours.header_alone] at hvisible ⊢
  exact (Neighbours.alone name).find?_header hname
    (notMem_of_isPlain hvalue IsPlain.not_isPlain_separators.1) (trim_of_isPlain hvalue) hvisible

theorem find?_pair {name value : String} (hne : name ≠ "")
    (hname : ∀ c ∈ name.toList, IsPlain c) (hvalue : ∀ c ∈ value.toList, IsPlain c) :
    find? (Utf8.encode (name ++ "=" ++ value)) name = some value :=
  find?_pair_of_isName (isName_of_isPlain hne hname)
    (isVisible_of_isPrintable fun c hc => (hname c hc).isPrintable) hvalue

/-! ### What a browser keeps -/

/-- What a browser keeps of the text that sets or clears a cookie: the value, unless the cookie is
to be forgotten at once. -/
def received (text : String) : Option String :=
  match Text.pieces ';' text.toList with
  | pair :: attributes =>
    if "Max-Age=0".toList ∈ attributes.map Text.trim then none
    else some (String.ofList (Text.after '=' pair))
  | [] => none

/-- The number of seconds for which a browser is to keep a cookie that is set. -/
def maxAge? (text : String) : Option Nat :=
  (Text.pieces ';' text.toList).tail.findSome? fun piece =>
    if Text.trim (Text.before '=' piece) = "Max-Age".toList then
      Decimal.read? (Text.after '=' piece)
    else none

/-- The digits of a number of seconds are plain. -/
theorem isPlain_of_mem_digits (seconds : Nat) : ∀ c ∈ Decimal.digits seconds, IsPlain c := by
  intro c hc
  have h : c.isDigit = true := Nat.isDigit_of_mem_toDigits (by decide) (by decide) hc
  exact .inl (.inr (.inr (.inl (Decimal.toNat_of_isDigit h))))

theorem maxAge_eq_iff (seconds : Nat) :
    "Max-Age=0".toList = "Max-Age=".toList ++ Decimal.digits seconds ↔ seconds = 0 := by
  rw [show "Max-Age=0".toList = "Max-Age=".toList ++ ['0'] from rfl, List.append_cancel_left_eq]
  constructor
  · intro h
    refine Classical.byContradiction fun hne => ?_
    obtain ⟨c, cs, hcs, hc⟩ := Decimal.digits_eq_cons (Nat.pos_of_ne_zero hne)
    rw [hcs] at h
    exact hc (List.cons.inj h).1.symm
  · rintro rfl
    rfl

/-- Of the attributes of a cookie only its age says that it is to be forgotten at once. -/
theorem maxAge_mem_attributes_iff (seconds : Nat) (secure : Bool) :
    "Max-Age=0".toList ∈ List.map Text.trim ([" Path=/".toList, " HttpOnly".toList,
      " SameSite=Lax".toList, " Max-Age=".toList ++ Decimal.digits seconds] ++
        if secure then [" Secure".toList] else []) ↔ seconds = 0 := by
  have htrim : Text.trim (" Max-Age=".toList ++ Decimal.digits seconds) =
      "Max-Age=".toList ++ Decimal.digits seconds := by
    refine (Text.trim_space _).trans (Text.trim_of_forall fun c hc => ?_)
    rcases List.mem_append.1 hc with hc | hc
    · have hnone : ∀ c ∈ "Max-Age=".toList, Text.isBlank c = false := by simp [Text.isBlank]
      exact hnone c hc
    · exact (isPlain_of_mem_digits seconds c hc).isBlank_eq_false
  have hothers : ∀ secure : Bool, "Max-Age=0".toList ≠ Text.trim " Path=/".toList ∧
      "Max-Age=0".toList ≠ Text.trim " HttpOnly".toList ∧
      "Max-Age=0".toList ≠ Text.trim " SameSite=Lax".toList ∧
      "Max-Age=0".toList ∉ (if secure then [" Secure".toList] else []).map Text.trim := by
    decide
  obtain ⟨hpath, honly, hsite, hsecure⟩ := hothers secure
  rw [List.map_append, List.mem_append, List.map_cons, List.map_cons, List.map_cons,
    List.map_cons, htrim]
  simp only [List.mem_cons, hpath, honly, hsite, hsecure, maxAge_eq_iff, List.map_nil,
    List.not_mem_nil, false_or, or_false]

section

variable {name : String} (hsemicolon : ';' ∉ name.toList)

include hsemicolon

/-- The pieces of the text of a cookie: its name and value, and its attributes. -/
theorem pieces_cookie {value : String} (hvalue : ∀ c ∈ value.toList, IsPlain c) (seconds : Nat)
    (secure : Bool) :
    Text.pieces ';' (name ++ "=" ++ value ++ attributes ++ String.ofList (Decimal.digits seconds) ++
        if secure then "; Secure" else "").toList =
      [name.toList ++ '=' :: value.toList, " Path=/".toList, " HttpOnly".toList,
        " SameSite=Lax".toList, " Max-Age=".toList ++ Decimal.digits seconds] ++
          if secure then [" Secure".toList] else [] := by
  have hplain := IsPlain.not_isPlain_separators.1
  have htext : (name ++ "=" ++ value ++ attributes ++ String.ofList (Decimal.digits seconds) ++
      if secure then "; Secure" else "").toList =
        name.toList ++ '=' :: value.toList ++ attributes.toList ++ Decimal.digits seconds ++
          (if secure then "; Secure" else "").toList := by
    simp [List.append_assoc]
  have hpair : ';' ∉ name.toList ++ '=' :: value.toList := by
    simp [hsemicolon, notMem_of_isPlain hvalue hplain]
  have hmaxAge : ';' ∉ " Max-Age=".toList ++ Decimal.digits seconds := by
    intro hc
    rcases List.mem_append.1 hc with hc | hc
    · exact absurd hc (by decide)
    · exact notMem_of_isPlain (isPlain_of_mem_digits seconds) hplain hc
  have hattributes : attributes.toList = ';' :: (" Path=/".toList ++ ';' :: (" HttpOnly".toList ++
      ';' :: (" SameSite=Lax".toList ++ ';' :: " Max-Age=".toList))) := by
    decide
  have hlast : Text.pieces ';' (" Max-Age=".toList ++ Decimal.digits seconds ++
      (if secure then "; Secure" else "").toList) =
        (" Max-Age=".toList ++ Decimal.digits seconds) ::
          if secure then [" Secure".toList] else [] := by
    cases secure with
    | false => simpa using Text.pieces_of_notMem hmaxAge
    | true => exact Text.pieces_append hmaxAge " Secure".toList
  rw [htext, hattributes]
  simp only [List.append_assoc, List.cons_append] at hlast ⊢
  rw [← List.cons_append, ← List.append_assoc, Text.pieces_append hpair,
    Text.pieces_append (by decide), Text.pieces_append (by decide), Text.pieces_append (by decide),
    hlast]
  rfl

/-- A browser keeps the value of a cookie unless it is to be forgotten at once. -/
theorem received_cookie (hequals : '=' ∉ name.toList) (value : String)
    (hvalue : ∀ c ∈ value.toList, IsPlain c) (seconds : Nat) (secure : Bool) :
    received (name ++ "=" ++ value ++ attributes ++ String.ofList (Decimal.digits seconds) ++
        if secure then "; Secure" else "") =
      if seconds = 0 then none else some value := by
  have hafter : Text.after '=' (name.toList ++ '=' :: value.toList) = value.toList :=
    Text.after_append hequals _
  have hmem := maxAge_mem_attributes_iff seconds secure
  rw [received, pieces_cookie hsemicolon hvalue seconds secure]
  simp only [List.cons_append, hafter, String.ofList_toList]
  simp only [List.cons_append] at hmem
  simp only [hmem]

/-- The age of a cookie is read from its text. -/
theorem maxAge?_cookie (value : String) (hvalue : ∀ c ∈ value.toList, IsPlain c) (seconds : Nat)
    (secure : Bool) :
    maxAge? (name ++ "=" ++ value ++ attributes ++ String.ofList (Decimal.digits seconds) ++
        if secure then "; Secure" else "") = some seconds := by
  have hage : " Max-Age=".toList ++ Decimal.digits seconds =
      " Max-Age".toList ++ '=' :: Decimal.digits seconds := rfl
  have hread : Decimal.read? (Decimal.digits seconds) = some seconds := by
    simpa [Decimal.padded] using Decimal.read?_padded 0 seconds
  have hothers : Text.trim (Text.before '=' " Path=/".toList) ≠ "Max-Age".toList ∧
      Text.trim (Text.before '=' " HttpOnly".toList) ≠ "Max-Age".toList ∧
      Text.trim (Text.before '=' " SameSite=Lax".toList) ≠ "Max-Age".toList := by
    decide
  obtain ⟨hpath, honly, hsite⟩ := hothers
  have hname : Text.trim (Text.before '=' (" Max-Age".toList ++ '=' :: Decimal.digits seconds)) =
      "Max-Age".toList := by
    rw [Text.before_append (by decide)]
    decide
  rw [maxAge?, pieces_cookie hsemicolon hvalue seconds secure, hage]
  simp only [List.cons_append, List.tail_cons, List.findSome?_cons, if_neg hpath, if_neg honly,
    if_neg hsite, if_pos hname, Text.after_append (show '=' ∉ " Max-Age".toList by decide), hread]

end

end Cookie

/-! ### Sessions -/

/-- The name that the server gives its cookies consists of plain characters. -/
theorem Settings.isPlain_of_mem_cookieName : ∀ c ∈ cookieName.toList, Cookie.IsPlain c := by
  have hdigits : (cookieName.toList.all fun c =>
      Base64.digit ((Base64.value? c).getD 0) == c) = true := rfl
  intro c hc
  rw [← beq_iff_eq.1 (List.all_eq_true.1 hdigits c hc)]
  exact .inl (Base64.inAlphabet_digit _)

/-- A token consists of plain characters. -/
theorem Token.isPlain_of_mem_sign {secret : String} {claims : Claims} :
    ∀ c ∈ (sign secret claims).toList, Cookie.IsPlain c := by
  intro c hc
  have hencode {bs : Bytes} (h : c ∈ Base64.encode bs) : Cookie.IsPlain c :=
    .inl (Base64.inAlphabet_of_mem_encode c h)
  rw [sign, String.toList_ofList] at hc
  simp only [List.mem_append, List.mem_cons] at hc
  rcases hc with (hc | hc | hc) | hc | hc
  · exact hencode hc
  · exact .inr hc
  · exact hencode hc
  · exact .inr hc
  · exact hencode hc

namespace Session

theorem isPlain_of_mem_issueToken {s : LoginSettings} {now : Instant} {user : Option Uuid}
    {flashes : List String} : ∀ c ∈ (issueToken s now user flashes).toList, Cookie.IsPlain c :=
  Token.isPlain_of_mem_sign

theorem toInt_secondsOfDays {s : LoginSettings} (hs : KeptForDays s) :
    (Cookie.secondsOfDays s.sessionDays).toInt = s.sessionDays.toInt * 86400 := by
  obtain ⟨hshort, hlong⟩ := hs
  have hday : (86400 : Int64).toInt = 86400 := by decide
  rw [Cookie.secondsOfDays, Int64.toInt_mul, hday]
  exact Int.bmod_eq_of_le (by omega) (by omega)

/-- The text that sets the cookie of a session which has a user or messages. -/
theorem setCookie_of_ne {s : LoginSettings} (hs : KeptForDays s) {x : Session}
    (h : ¬(x.userId.isNone && x.flashes.isEmpty) = true) (now : Instant) :
    x.setCookie s now = s.cookieName ++ "=" ++ issueToken s now x.userId x.flashes ++
      Cookie.attributes ++ String.ofList (Decimal.digits (s.sessionDays.toInt * 86400).natAbs) ++
        if s.secureCookies then "; Secure" else "" := by
  have hpositive : ¬s.sessionDays.toInt * 86400 < 0 := by
    have := hs.1
    omega
  rw [setCookie, if_neg h, Cookie.set, toInt_secondsOfDays hs, Decimal.integer_eq,
    if_neg hpositive]

section

variable {s : LoginSettings} (hs : KeptForDays s) (hsemicolon : ';' ∉ s.cookieName.toList)

include hs hsemicolon

/-- A browser keeps the token of a session that has a user or messages, and nothing of an empty
one, if the name of the cookie can be told from the rest. -/
theorem received_setCookie_of_notMem (hequals : '=' ∉ s.cookieName.toList) (x : Session)
    (now : Instant) :
    Cookie.received (x.setCookie s now) =
      if x.userId.isNone && x.flashes.isEmpty then none
      else some (issueToken s now x.userId x.flashes) := by
  split_ifs with hempty
  · have hcleared := Cookie.received_cookie hsemicolon hequals "" (by simp) 0 false
    have htext : Cookie.clear s.cookieName = s.cookieName ++ "=" ++ "" ++ Cookie.attributes ++
        String.ofList (Decimal.digits 0) ++ if false then "; Secure" else "" := by
      rw [Cookie.clear, String.append_empty, if_neg Bool.false_ne_true, String.append_empty]
      rfl
    rw [setCookie, if_pos hempty, htext, hcleared, if_pos rfl]
  · have hpositive : ¬(s.sessionDays.toInt * 86400).natAbs = 0 := by
      have := hs.1
      omega
    rw [setCookie_of_ne hs hempty,
      Cookie.received_cookie hsemicolon hequals _ isPlain_of_mem_issueToken _ s.secureCookies,
      if_neg hpositive]

/-- The cookie of a session that has a user or messages is to be kept as long as its token. -/
theorem maxAge?_setCookie {x : Session} (h : ¬(x.userId.isNone && x.flashes.isEmpty) = true)
    (now : Instant) :
    Cookie.maxAge? (x.setCookie s now) = some (s.sessionDays.toInt * 86400).natAbs := by
  rw [setCookie_of_ne hs h, Cookie.maxAge?_cookie hsemicolon _ isPlain_of_mem_issueToken]

end

theorem received_setCookie {s : LoginSettings} (hs : KeptForDays s)
    (hname : ∀ c ∈ s.cookieName.toList, Cookie.IsPlain c) (x : Session) (now : Instant) :
    Cookie.received (x.setCookie s now) =
      if x.userId.isNone && x.flashes.isEmpty then none
      else some (issueToken s now x.userId x.flashes) :=
  let ⟨hsemicolon, hequals, _⟩ := Cookie.IsPlain.not_isPlain_separators
  received_setCookie_of_notMem hs (Cookie.notMem_of_isPlain hname hsemicolon)
    (Cookie.notMem_of_isPlain hname hequals) x now

end Session

end Daybook
