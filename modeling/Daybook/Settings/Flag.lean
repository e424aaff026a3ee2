import Daybook.Text.Decimal

/-!
# Flags and variables

Each setting of the server is given by a flag on the command line or by a variable of the
environment, or it has a default.

## Main definitions

* `Flag`, `Flag.name`, `Flag.environmentName`, `Flag.default?` : the settings, where they are given,
  and what they are otherwise.
* `Flag.check` : the values that a setting takes.
* `UsageError`, `UsageError.message` : the mistakes in giving settings, and the words for them.
-/

namespace Daybook

/-- The settings of the server. -/
inductive Flag where
  | databaseUrl
  | databaseTls
  | appId
  | appSecret
  | redirectUrl
  | sessionKey
  | timezone
  | host
  | port
  | sessionDays
  | timeout
  | environment
  | origins
  | frontend
deriving DecidableEq, Repr

/-- The mistakes in giving settings. -/
inductive UsageError where
  /-- Help was asked for. -/
  | help
  /-- An argument is neither a flag nor the value of one. -/
  | unknownArgument
  /-- A flag is given twice. -/
  | repeated
  /-- A value is missing, or is not one of the possible ones. -/
  | invalidValue
  /-- A value is not a number of the right size. -/
  | outOfRange
  /-- A flag that takes no value is given one. -/
  | unexpectedValue
  /-- A setting without a default is not given. -/
  | missing
deriving DecidableEq, Repr

/-- The words for a mistake in giving settings. -/
def UsageError.message : UsageError → String
  | .help => "every setting is given by a flag or by a variable of the environment"
  | .unknownArgument => "an argument is neither a flag nor the value of one"
  | .repeated => "a flag is given twice"
  | .invalidValue => "a value is missing or is not one of the possible ones"
  | .outOfRange => "a value is not a number of the right size"
  | .unexpectedValue => "a flag that takes no value is given one"
  | .missing => "a setting without a default is not given"

namespace Flag

/-- All settings, in the order in which the environment is looked through. -/
def all : List Flag :=
  [.databaseUrl, .databaseTls, .appId, .appSecret, .redirectUrl, .sessionKey, .timezone, .host,
   .port, .sessionDays, .timeout, .environment, .origins, .frontend]

/-- The name of a setting on the command line. -/
def name : Flag → String
  | .databaseUrl => "database-url"
  | .databaseTls => "database-tls"
  | .appId => "fb-app-id"
  | .appSecret => "fb-app-secret"
  | .redirectUrl => "fb-redirect-url"
  | .sessionKey => "session-key"
  | .timezone => "timezone"
  | .host => "host"
  | .port => "port"
  | .sessionDays => "session-days"
  | .timeout => "oauth-timeout-secs"
  | .environment => "rust-env"
  | .origins => "cors-allowed-origins"
  | .frontend => "frontend-dir"

/-- The name of a setting in the environment. -/
def environmentName : Flag → String
  | .databaseUrl => "DATABASE_URL"
  | .databaseTls => "DATABASE_TLS"
  | .appId => "FB_APP_ID"
  | .appSecret => "FB_APP_SECRET"
  | .redirectUrl => "FB_REDIRECT_URL"
  | .sessionKey => "SESSION_KEY"
  | .timezone => "TIMEZONE"
  | .host => "HOST"
  | .port => "PORT"
  | .sessionDays => "SESSION_DAYS"
  | .timeout => "OAUTH_TIMEOUT_SECS"
  | .environment => "RUST_ENV"
  | .origins => "CORS_ALLOWED_ORIGINS"
  | .frontend => "FRONTEND_DIR"

/-- The value of a setting that is not given. -/
def default? : Flag → Option String
  | .timezone => some "Asia/Tokyo"
  | .host => some "0.0.0.0"
  | .port => some "3000"
  | .sessionDays => some "30"
  | .timeout => some "10"
  | .environment => some "development"
  | .frontend => some "frontend/dist"
  | _ => none

/-- Whether a setting has to be given. -/
def isRequired : Flag → Bool
  | .appId => true
  | .appSecret => true
  | .redirectUrl => true
  | .sessionKey => true
  | _ => false

/-- The setting with a name on the command line. -/
def ofName? (s : String) : Option Flag :=
  all.find? fun f => f.name == s

/-- A number in decimal digits, possibly behind a sign, between two bounds. -/
def number? (first last : Int) (s : String) : Option Int :=
  match Decimal.readSigned? s.toList with
  | some n => if first ≤ n ∧ n ≤ last then some n else none
  | none => none

/-- A number in decimal digits, possibly behind a plus sign, of 64 bits. -/
def count? (s : String) : Option Nat :=
  let cs := s.toList
  match Decimal.read? (if cs.head? = some '+' then cs.drop 1 else cs) with
  | some n => if n < UInt64.size then some n else none
  | none => none

/-- The number of a port. -/
def port? (s : String) : Option Int :=
  number? 0 65535 s

/-- The number of days that a session may last: up to ten years. -/
def sessionDays? (s : String) : Option Int :=
  number? 1 3650 s

/-- Whether a setting takes a value. -/
def check (f : Flag) (value : String) : Except UsageError Unit :=
  match f with
  | .databaseTls =>
    if value = "true" ∨ value = "false" then .ok () else .error .invalidValue
  | .port => if (port? value).isSome then .ok () else .error .outOfRange
  | .sessionDays => if (sessionDays? value).isSome then .ok () else .error .outOfRange
  | .timeout => if (count? value).isSome then .ok () else .error .outOfRange
  | _ => .ok ()

end Flag

end Daybook
