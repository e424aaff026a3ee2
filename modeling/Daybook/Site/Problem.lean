import Daybook.Calendar.Error
import Daybook.Http.Message
import Daybook.Login.Provider
import Daybook.Service.Journal

/-!
# Problems that end a request

Failures inside the application are answered without their details.  Mistakes of the client are
answered with a message, and a client who is not logged in is sent to the login page.

## Main definitions

* `Problem`, `Problem.message` : what has gone wrong, and the words for it.
* `Problem.response` : what the client is answered.
-/

namespace Daybook

/-- What has gone wrong with a request. -/
inductive Problem where
  | internal (detail : String)
  | provider (e : ProviderError)
  | badRequest (message : String)
  | unauthorized (reason : String)
deriving DecidableEq, Repr

namespace Problem

/-- The words for a problem. -/
def message : Problem → String
  | .internal detail => detail
  | .provider e => "OAuth error: " ++ e.message
  | .badRequest message => "Invalid request: " ++ message
  | .unauthorized reason => "Unauthorized: " ++ reason

/-- The problem with a request that names a date or a zone wrongly. -/
def ofDateError : DateError → Problem
  | .invalidDate _ => .badRequest "Invalid date. e.g. 2014-01-02"
  | .unknownZone name => .internal (DateError.unknownZone name).message

/-- The problem with a request for which the store fails. -/
def ofStoreError (e : StoreError) : Problem :=
  .internal e.message

/-- The problem with an entry that is not written. -/
def ofSaveError : SaveError → Problem
  | .notEditable => .badRequest SaveError.notEditable.message
  | .store e => ofStoreError e

/-- A refusal by the provider sends the user back to the login page; its other failures are
problems. -/
def ofProviderError (e : ProviderError) : Problem :=
  if e.isRejection then .unauthorized e.message else .provider e

/-- What the client is answered. -/
def response : Problem → Response
  | .internal _ => .of 500 (.error "Internal server error")
  | .provider _ => .of 500 (.error "Failed to communicate with Facebook")
  | .badRequest message => .of 400 (.error message)
  | .unauthorized _ => { Response.of 302 .nothing with location := some "/auth" }

end Problem

end Daybook
