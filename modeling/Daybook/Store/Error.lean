/-!
# Failures of the store

A task of the store fails because the store cannot be reached, or because an account for a profile
exists already.  The failure of a task is the cause of the failure of the task that it was part of.

## Main definitions

* `StoreError`, `StoreError.chain` : a failure, and its messages from the outermost task inwards.
-/

namespace Daybook

/-- The tasks that can fail. -/
inductive StoreTask where
  | lookUpUser
  | createUser
  | loadEntry (date : String)
  | saveEntry (date : String)
  | loadDates
deriving DecidableEq, Repr

/-- A failure of the store. -/
inductive StoreError where
  /-- The store cannot be reached, for a reason of its own. -/
  | unavailable (reason : String)
  /-- An account for a profile exists already. -/
  | uidTaken (uid : String)
  /-- A task failed because of another failure. -/
  | during (task : StoreTask) (cause : StoreError)
deriving DecidableEq, Repr

/-- The message for the failure of a task. -/
def StoreTask.message : StoreTask → String
  | .lookUpUser => "Failed to look up user"
  | .createUser => "Failed to create user"
  | .loadEntry date => "Failed to load entry for " ++ date
  | .saveEntry date => "Failed to save entry for " ++ date
  | .loadDates => "Failed to load entry dates"

namespace StoreError

/-- The outermost message of a failure. -/
def message : StoreError → String
  | .unavailable _ => "Failed to get connection"
  | .uidTaken uid => "User with uid " ++ uid ++ " already exists"
  | .during task _ => task.message

/-- The messages of a failure, from the outermost task inwards. -/
def chain : StoreError → List String
  | .during task cause => task.message :: cause.chain
  | e => [e.message]

end StoreError

end Daybook
