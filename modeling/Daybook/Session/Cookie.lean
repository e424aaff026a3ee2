import Daybook.Login.Settings
import Daybook.Text.Blank
import Daybook.Text.Split
import Daybook.Text.Utf8

/-!
# Cookies

A session travels in a cookie.  The server sets or clears it by a header of its response, and the
browser sends it back with all its other cookies in one header.

## Main definitions

* `Cookie.set`, `Cookie.clear` : the texts that set and clear a session's cookie.
* `Cookie.find?` : the value of a cookie among those of a header.
-/

namespace Daybook.Cookie

/-- What all session cookies have in common. -/
def attributes : String :=
  "; Path=/; HttpOnly; SameSite=Lax; Max-Age="

/-- The number of seconds in a number of days, in 64 bits. -/
def secondsOfDays (days : Int64) : Int64 :=
  days * 86400

/-- The text that sets a cookie for a number of days. -/
def set (name value : String) (days : Int64) (secure : Bool) : String :=
  name ++ "=" ++ value ++ attributes ++
    String.ofList (Decimal.integer (secondsOfDays days).toInt) ++ if secure then "; Secure" else ""

/-- The text that clears a cookie. -/
def clear (name : String) : String :=
  name ++ "=" ++ attributes ++ "0"

/-! ### Reading -/

/-- Whether a byte is a printable ASCII character or a tab. -/
def isVisible (b : UInt8) : Bool :=
  (0x20 ≤ b && b < 0x7F) || b == 0x09

/-- The characters of a header whose bytes are all visible. -/
def headerChars? (bs : Bytes) : Option (List Char) :=
  if bs.all isVisible then some (bs.map fun b => Char.ofNat b.toNat) else none

/-- The name and the value of a cookie, without blanks around them.  A piece without an equality
sign, or without a name, is no cookie. -/
def pair? (piece : List Char) : Option (List Char × List Char) :=
  if '=' ∈ piece then
    let name := Text.trim (Text.before '=' piece)
    let value := Text.trim (Text.after '=' piece)
    if name.isEmpty then none else some (name, value)
  else none

/-- The value of the first cookie with a name in the header of a request. -/
def find? (header : Bytes) (name : String) : Option String := do
  let cs ← headerChars? header
  let value ← ((Text.pieces ';' cs).filterMap pair?).lookup name.toList
  some (String.ofList value)

end Daybook.Cookie
