import Daybook.Http.Message
import Daybook.Proofs.Text.Decimal
import Daybook.Proofs.Text.Utf8
import Daybook.Proofs.Token.Base64
import Daybook.Session.Basic
import Daybook.Settings.Basic

/-!
# Texts of headers

A header can hold a text when no byte of it is a control character other than the tab.  Tokens and
numerals consist of printable ASCII characters, so the text that sets or clears a session's cookie
can be held exactly when the name of the cookie can.

## Main results

* `isHeaderText_ofList` : printable ASCII characters make the text of a header.
* `Base64.isPrintable_of_mem_encode`, `Decimal.isPrintable_of_mem_integer` : what codes and numerals
  are made of.
* `Session.isHeaderText_setCookie` : the cookie of a session can be written.
* `Settings.isHeaderText_cookieName` : so it is with the name that the server uses.
-/

namespace Daybook

theorem isHeaderText_append (s t : String) :
    isHeaderText (s ++ t) = (isHeaderText s && isHeaderText t) := by
  rw [isHeaderText, Utf8.encode_append, List.all_append]
  rfl

/-! ### Printable characters -/

/-- A character is *printable* when it is an ASCII character and no control character. -/
def IsPrintable (c : Char) : Prop :=
  0x20 ≤ c.toNat ∧ c.toNat < 0x7F

instance (c : Char) : Decidable (IsPrintable c) :=
  inferInstanceAs (Decidable (_ ∧ _))

/-- Printable characters make the text of a header. -/
theorem isHeaderText_ofList {cs : List Char} (h : ∀ c ∈ cs, IsPrintable c) :
    isHeaderText (String.ofList cs) = true := by
  rw [isHeaderText, Utf8.encode_ofList, List.all_flatMap, List.all_eq_true]
  intro c hc
  obtain ⟨hlow, hhigh⟩ := h c hc
  have hbyte : String.utf8EncodeChar c = [UInt8.ofNat c.toNat] :=
    Utf8.utf8EncodeChar_of_lt (Nat.lt_succ_of_lt hhigh)
  have hn : (UInt8.ofNat c.toNat).toNat = c.toNat := by
    rw [UInt8.toNat_ofNat']
    omega
  simp only [hbyte, List.all_cons, List.all_nil, Bool.and_true, Bool.or_eq_true, Bool.and_eq_true,
    decide_eq_true_eq, bne_iff_ne, UInt8.le_iff_toNat_le, ne_eq, ← UInt8.toNat_inj, hn]
  exact .inl ⟨hlow, by have : (0x7F : UInt8).toNat = 127 := rfl; omega⟩

namespace Base64

theorem InAlphabet.isPrintable {c : Char} (h : InAlphabet c) : IsPrintable c := by
  have hwithin {lo hi : Char} (hlo : 0x20 ≤ lo.toNat) (hhi : hi.toNat < 0x7F)
      (hc : lo ≤ c ∧ c ≤ hi) : IsPrintable c :=
    ⟨Nat.le_trans hlo hc.1, Nat.lt_of_le_of_lt hc.2 hhi⟩
  rcases h with h | h | h | rfl | rfl
  · exact hwithin (by decide) (by decide) h
  · exact hwithin (by decide) (by decide) h
  · exact hwithin (by decide) (by decide) h
  · exact ⟨by decide, by decide⟩
  · exact ⟨by decide, by decide⟩

/-- Codes of bytes are printable. -/
theorem isPrintable_of_mem_encode {bs : Bytes} : ∀ c ∈ encode bs, IsPrintable c :=
  fun c hc => (inAlphabet_of_mem_encode c hc).isPrintable

end Base64

/-- Numerals are printable. -/
theorem Decimal.isPrintable_of_mem_integer {n : Int} : ∀ c ∈ integer n, IsPrintable c := by
  have hdigits (k : Nat) : ∀ c ∈ digits k, IsPrintable c := by
    intro c hc
    have h : c.isDigit = true := Nat.isDigit_of_mem_toDigits (by decide) (by decide) hc
    obtain ⟨hlow, hhigh⟩ := toNat_of_isDigit h
    exact ⟨by omega, by omega⟩
  intro c hc
  simp only [integer, signed, padded, Nat.zero_sub, List.replicate_zero, List.nil_append] at hc
  split at hc
  · rcases List.mem_cons.1 hc with rfl | hc
    · exact ⟨by decide, by decide⟩
    · exact hdigits _ c hc
  · exact hdigits _ c hc

/-! ### Cookies -/

theorem Token.isHeaderText_sign (secret : String) (claims : Claims) :
    isHeaderText (sign secret claims) = true := by
  refine isHeaderText_ofList fun c hc => ?_
  have hdot : IsPrintable '.' := ⟨by decide, by decide⟩
  simp only [List.mem_append, List.mem_cons] at hc
  rcases hc with (hc | rfl | hc) | rfl | hc
  · exact Base64.isPrintable_of_mem_encode c hc
  · exact hdot
  · exact Base64.isPrintable_of_mem_encode c hc
  · exact hdot
  · exact Base64.isPrintable_of_mem_encode c hc

namespace Session

/-- The cookie of a session can be written when its name can. -/
theorem isHeaderText_setCookie (x : Session) {s : LoginSettings} (now : Instant)
    (h : isHeaderText s.cookieName = true) : isHeaderText (x.setCookie s now) = true := by
  unfold setCookie
  split
  · rw [Cookie.clear, isHeaderText_append, isHeaderText_append, isHeaderText_append, h]
    rfl
  · have hsecure : isHeaderText (if s.secureCookies then "; Secure" else "") = true := by
      split <;> rfl
    rw [Cookie.set]
    simp only [isHeaderText_append, h, hsecure, issueToken, Token.isHeaderText_sign,
      isHeaderText_ofList Decimal.isPrintable_of_mem_integer, Bool.true_and, Bool.and_true]
    rfl

end Session

/-- The name that the server gives its cookies can be written. -/
theorem Settings.isHeaderText_cookieName : isHeaderText cookieName = true :=
  rfl

end Daybook
