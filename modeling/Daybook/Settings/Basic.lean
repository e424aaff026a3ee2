import Daybook.Login.Settings
import Daybook.Settings.Arguments
import Daybook.Zone.Catalogue

/-!
# Settings of the server

## Main definitions

* `Settings`, `Settings.read` : the settings, as read from the command line and the environment.
* `Settings.login`, `Settings.zone`, `Settings.bindAddress` : what follows from them.
-/

namespace Daybook

/-- The settings of the server. -/
structure Settings where
  databaseUrl : Option String
  databaseTls : Bool
  appId : String
  appSecret : String
  redirectUrl : String
  sessionKey : String
  timezone : String
  host : String
  port : UInt16
  sessionDays : Int64
  timeoutSeconds : UInt64
  environment : String
  origins : Option String
  frontend : String
deriving DecidableEq, Repr

namespace Settings

/-- The name of the cookie that carries a session. -/
def cookieName : String :=
  "morning_pages_session"

/-- The settings with the given values and otherwise their defaults. -/
def ofGiven (given : Arguments.Given) : Settings :=
  let value? (f : Flag) : Option String := given.lookup f <|> f.default?
  let value (f : Flag) : String := (value? f).getD ""
  { databaseUrl := value? .databaseUrl
    databaseTls := value .databaseTls == "true"
    appId := value .appId
    appSecret := value .appSecret
    redirectUrl := value .redirectUrl
    sessionKey := value .sessionKey
    timezone := value .timezone
    host := value .host
    port := UInt16.ofNat ((Flag.port? (value .port)).getD 0).toNat
    sessionDays := Int64.ofInt ((Flag.sessionDays? (value .sessionDays)).getD 0)
    timeoutSeconds := UInt64.ofNat ((Flag.count? (value .timeout)).getD 0)
    environment := value .environment
    origins := value? .origins
    frontend := value .frontend }

/-- The settings given by arguments and variables. -/
def read (arguments : List String) (environment : List (String × String)) :
    Except UsageError Settings :=
  (Arguments.read arguments environment).map ofGiven

/-- Whether the server is in production. -/
def isProduction (s : Settings) : Bool :=
  s.environment == "production"

/-- The settings of the login.  In production cookies travel over secure connections only. -/
def login (s : Settings) : LoginSettings :=
  ⟨s.sessionKey, s.sessionDays, cookieName, s.isProduction, s.appId, s.appSecret, s.redirectUrl⟩

/-- The zone whose calendar tells which day is today. -/
def zone (s : Settings) : Except DateError Zone :=
  Zone.read s.timezone

/-- The address that the server listens at. -/
def bindAddress (s : Settings) : String :=
  s.host ++ ":" ++ String.ofList (Decimal.digits s.port.toNat)

end Settings

end Daybook
