import Daybook.Text.Decimal
import Daybook.Text.Visible

/-!
# Settings of the login

## Main definitions

* `LoginSettings` : how sessions are signed, kept and named, and how this application is known to
  the login provider.
* `LoginSettings.summary` : the settings without their secrets.
-/

namespace Daybook

/-- How sessions are signed, kept and named, and how this application is known to the login
provider. -/
structure LoginSettings where
  sessionSecret : String
  sessionDays : Int64
  cookieName : String
  secureCookies : Bool
  appId : String
  appSecret : String
  redirectUrl : String
deriving DecidableEq, Repr

namespace LoginSettings

/-- The settings without their secrets. -/
def summary (s : LoginSettings) : String :=
  "AuthConfig \x7b session_duration_days: " ++
    String.ofList (Decimal.integer s.sessionDays.toInt) ++
    ", cookie_name: " ++ Text.visible s.cookieName ++
    ", secure_cookies: " ++ (if s.secureCookies then "true" else "false") ++
    ", facebook_app_id: " ++ Text.visible s.appId ++
    ", auth_redirect_uri: " ++ Text.visible s.redirectUrl ++ ", .. \x7d"

end LoginSettings

end Daybook
