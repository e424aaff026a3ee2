import Daybook.Login.Provider
import Daybook.Store.Entries
import Daybook.Store.Users

/-!
# Actions on the kept data

An action runs in a scene, which fixes the present and everything that comes from outside, and takes
the kept data from one state to the next.  It ends with a result or a failure, and tells which
addresses of the login provider it has asked.

## Main definitions

* `State` : the data that are kept.
* `Scene` : the surroundings of an action.
* `Action` : actions, with sequencing and failure.
* `Action.users`, `Action.entries` : calls of the store.
-/

namespace Daybook

/-- The data that are kept: accounts and entries, and how many identifiers were drawn and how many
calls of the store were made. -/
structure State where
  users : Users
  entries : Entries
  drawn : Nat
  calls : Nat

/-- The state before anything has happened. -/
def State.initial : State :=
  ⟨.empty, .empty, 0, 0⟩

instance : Inhabited State :=
  ⟨State.initial⟩

/-- The surroundings of an action: the present, the supply of identifiers, the reasons for which
calls of the store fail, by their number, and the replies of the login provider. -/
structure Scene where
  now : Instant
  freshId : Nat → Uuid
  userOutage : Nat → Option String
  entryOutage : Nat → Option String
  ask : String → Reply

/-- How an action ends. -/
structure Outcome (ε α : Type) where
  result : Except ε α
  state : State
  asked : List String

/-- What is done in a scene and a state. -/
def Action (ε α : Type) : Type :=
  Scene → State → Outcome ε α

namespace Action

variable {ε ε' α β : Type}

/-- The action that does nothing. -/
protected def pure (a : α) : Action ε α :=
  fun _ s => ⟨.ok a, s, []⟩

/-- One action after another, unless the first fails. -/
protected def bind (x : Action ε α) (f : α → Action ε β) : Action ε β := fun c s =>
  let o := x c s
  match o.result with
  | .ok a =>
    let o' := f a c o.state
    ⟨o'.result, o'.state, o.asked ++ o'.asked⟩
  | .error e => ⟨.error e, o.state, o.asked⟩

instance : Monad (Action ε) where
  pure := Action.pure
  bind := Action.bind

/-- The action that fails. -/
def fail (e : ε) : Action ε α :=
  fun _ s => ⟨.error e, s, []⟩

/-- The action with a result or a failure that is known. -/
def ofExcept (r : Except ε α) : Action ε α :=
  fun _ s => ⟨r, s, []⟩

/-- An action with its result or its failure turned into a result. -/
def settle (x : Action ε α) (f : Except ε α → β) : Action ε' β := fun c s =>
  let o := x c s
  ⟨.ok (f o.result), o.state, o.asked⟩

/-- An action with its failure turned into another. -/
def mapError (x : Action ε α) (f : ε → ε') : Action ε' α := fun c s =>
  let o := x c s
  ⟨o.result.mapError f, o.state, o.asked⟩

/-- The present. -/
def now : Action ε Instant :=
  fun c s => ⟨.ok c.now, s, []⟩

/-- A fresh identifier. -/
def drawId : Action ε Uuid :=
  fun c s => ⟨.ok (c.freshId s.drawn), { s with drawn := s.drawn + 1 }, []⟩

/-- Asks the login provider for the profile of the user who brings a code. -/
def identify (e : Endpoints) (settings : LoginSettings) (code : String) :
    Action ProviderError Profile := fun c s =>
  let (r, asked) := Provider.identify c.ask e settings code
  ⟨r, s, asked⟩

/-! ### Calls of the store -/

/-- An action that is part of a task of the store. -/
def during (task : StoreTask) (x : Action StoreError α) : Action StoreError α :=
  x.mapError (.during task)

/-- A call of the store, which fails if there is a reason for it. -/
def call (outage : Scene → Nat → Option String) (x : Action StoreError α) : Action StoreError α :=
  fun c s =>
    let s' := { s with calls := s.calls + 1 }
    match outage c s.calls with
    | some reason => ⟨.error (.unavailable reason), s', []⟩
    | none => x c s'

/-- The account with an identifier. -/
def getUser (id : Uuid) : Action StoreError (Option User) :=
  call Scene.userOutage fun _ s => ⟨.ok (s.users.get? id), s, []⟩

/-- The account for the profile with an identifier. -/
def findUserByUid (uid : String) : Action StoreError (Option User) :=
  call Scene.userOutage fun _ s => ⟨.ok (s.users.findByUid? uid), s, []⟩

/-- Makes an account for a profile that has none.  An identifier is drawn for it. -/
def createUser (p : Profile) : Action StoreError User :=
  call Scene.userOutage fun c s =>
    match s.users.create (c.freshId s.drawn) c.now p with
    | .ok (u, users) => ⟨.ok u, { s with users := users, drawn := s.drawn + 1 }, []⟩
    | .error e => ⟨.error e, s, []⟩

/-- The entry of a user and a date. -/
def getEntry (user : Uuid) (date : String) : Action StoreError (Option Entry) :=
  call Scene.entryOutage fun _ s => ⟨.ok (s.entries.find? user date), s, []⟩

/-- The entries of a user between two dates. -/
def entriesInRange (user : Uuid) (first last : Option String) : Action StoreError (List Entry) :=
  call Scene.entryOutage fun _ s => ⟨.ok (s.entries.inRange user first last), s, []⟩

/-- Puts a text under a user and a date.  An identifier is drawn for a first entry. -/
def upsertEntry (user : Uuid) (date body : String) : Action StoreError Entry :=
  call Scene.entryOutage fun c s =>
    let (e, entries) := s.entries.upsert (c.freshId s.drawn) c.now user date body
    let drawn := if s.entries.isNew user date then s.drawn + 1 else s.drawn
    ⟨.ok e, { s with entries := entries, drawn := drawn }, []⟩

end Action

end Daybook
