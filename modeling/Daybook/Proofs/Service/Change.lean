import Daybook.Proofs.Store.Filing
import Daybook.Service.Journal

/-!
# What actions change

Most actions only read the accounts and the entries.  Two write: the account of a profile is made
when there is none, and the text of a day is put when the day is today.  A failing action writes
nothing.

## Main definitions

* `State.SameData` : the same accounts and entries.
* `State.Registered`, `State.Wrote` : a state after an account was made, or a text was put.
* `Scene.InMemory` : the store never fails.
* `Action.KeepsData` : the actions that only read.

## Main results

* `Action.upsertEntry_cases` : what putting a text changes.
* `Journal.save_cases` : what is saved, and when.
* `Journal.keepsData_find`, `Journal.keepsData_month` : reading changes nothing.
-/

namespace Daybook

namespace State

/-- The same accounts and entries.  Identifiers may have been drawn, and calls made. -/
structure SameData (s s' : State) : Prop where
  users : s'.users = s.users
  entries : s'.entries = s.entries

theorem SameData.refl (s : State) : s.SameData s :=
  ⟨rfl, rfl⟩

theorem SameData.trans {s s' s'' : State} (h : s.SameData s') (h' : s'.SameData s'') :
    s.SameData s'' :=
  ⟨h'.users.trans h.users, h'.entries.trans h.entries⟩

/-- The state after an account was made for a profile that had none. -/
structure Registered (c : Scene) (s : State) (p : Profile) (u : User) (s' : State) : Prop where
  created : s.users.create (c.freshId s.drawn) c.now p = .ok (u, s'.users)
  entries : s'.entries = s.entries

/-- An account that was made stands under its identifier. -/
theorem Registered.get?_self {c : Scene} {s s' : State} {p : Profile} {u : User}
    (h : s.Registered c p u s') : s'.users.get? u.id = some u := by
  obtain ⟨-, hnew, husers⟩ := Users.create_eq_ok_iff.1 h.created
  rw [husers, hnew]
  exact Table.get?_insert_self _ _ _

/-- The state after a text was put under a user and a date. -/
structure Wrote (c : Scene) (s : State) (user : Uuid) (date body : String) (e : Entry)
    (s' : State) : Prop where
  users : s'.users = s.users
  upserted : s.entries.upsert (c.freshId s.drawn) c.now user date body = (e, s'.entries)

namespace Wrote

variable {c : Scene} {s s' : State} {user : Uuid} {date body : String} {e : Entry}

/-- A text that is put changes the entry under its user and date only. -/
theorem get?_eq (h : s.Wrote c user date body e s') (k : Uuid × String) :
    s'.entries.get? k = if k = (user, date) then some e else s.entries.get? k := by
  have hget : (s.entries.upsert (c.freshId s.drawn) c.now user date body).2.get? k = _ :=
    Entries.get?_upsert _ _ user date body k
  rwa [h.upserted] at hget

theorem get?_of_ne (h : s.Wrote c user date body e s') {k : Uuid × String}
    (hk : k ≠ (user, date)) : s'.entries.get? k = s.entries.get? k :=
  (h.get?_eq k).trans (if_neg hk)

theorem get?_self (h : s.Wrote c user date body e s') :
    s'.entries.get? (user, date) = some e :=
  (h.get?_eq (user, date)).trans (if_pos rfl)

theorem body_eq (h : s.Wrote c user date body e s') : e.body = body :=
  congrArg (fun r => r.1.body) h.upserted.symm

/-- A text that is put makes an entry of its user and date. -/
theorem owner_eq (h : s.Wrote c user date body e s') (hfiled : s.entries.Filed) :
    e.userId = user ∧ e.date = date := by
  have howner := hfiled.owner_upsert (c.freshId s.drawn) c.now user date body
  rwa [h.upserted, Prod.mk.injEq] at howner

/-- An entry keeps its identifier when its text is replaced. -/
theorem id_eq (h : s.Wrote c user date body e s') {former : Entry}
    (hformer : s.entries.find? user date = some former) : e.id = former.id := by
  have hid := Entries.id_upsert (c.freshId s.drawn) c.now user date body hformer
  rwa [h.upserted] at hid

end Wrote

/-- The state after a further call of the store. -/
def called (s : State) : State :=
  { s with calls := s.calls + 1 }

theorem sameData_called (s : State) : s.SameData s.called :=
  ⟨rfl, rfl⟩

end State

/-- The store is in memory: no call of it fails. -/
structure Scene.InMemory (c : Scene) : Prop where
  users : ∀ n, c.userOutage n = none
  entries : ∀ n, c.entryOutage n = none

namespace Action

variable {ε ε' α β : Type}

/-! ### Running an action -/

theorem bind_of_ok {x : Action ε α} {f : α → Action ε β} {c : Scene} {s : State} {a : α}
    (h : (x c s).result = .ok a) :
    (x >>= f) c s =
      ⟨(f a c (x c s).state).result, (f a c (x c s).state).state,
        (x c s).asked ++ (f a c (x c s).state).asked⟩ := by
  change Action.bind x f c s = _
  simp only [Action.bind, h]

theorem bind_of_error {x : Action ε α} {f : α → Action ε β} {c : Scene} {s : State} {e : ε}
    (h : (x c s).result = .error e) : (x >>= f) c s = ⟨.error e, (x c s).state, (x c s).asked⟩ := by
  change Action.bind x f c s = _
  simp only [Action.bind, h]

/-- When one action after another gives a result, the first has given one to the second. -/
theorem exists_of_bind_eq_ok {x : Action ε α} {f : α → Action ε β} {c : Scene} {s : State} {b : β}
    (h : ((x >>= f) c s).result = .ok b) :
    ∃ a, (x c s).result = .ok a ∧ (f a c (x c s).state).result = .ok b := by
  cases hx : (x c s).result with
  | ok a =>
    rw [bind_of_ok hx] at h
    exact ⟨a, rfl, h⟩
  | error e =>
    rw [bind_of_error hx] at h
    cases h

theorem now_bind (f : Instant → Action ε β) (c : Scene) (s : State) :
    (Action.now >>= f) c s = f c.now c s :=
  rfl

theorem ofExcept_ok_bind (a : α) (f : α → Action ε β) (c : Scene) (s : State) :
    (Action.ofExcept (.ok a) >>= f) c s = f a c s :=
  rfl

theorem ofExcept_error_bind (e : ε) (f : α → Action ε β) (c : Scene) (s : State) :
    (Action.ofExcept (.error e) >>= f) c s = ⟨.error e, s, []⟩ :=
  rfl

theorem mapError_of_ok {x : Action ε α} {c : Scene} {s : State} {a : α} (f : ε → ε')
    (h : (x c s).result = .ok a) : (x.mapError f c s).result = .ok a :=
  congrArg (Except.mapError f) h

theorem mapError_of_error {x : Action ε α} {c : Scene} {s : State} {e : ε} (f : ε → ε')
    (h : (x c s).result = .error e) : (x.mapError f c s).result = .error (f e) :=
  congrArg (Except.mapError f) h

theorem map_apply (f : α → β) (x : Action ε α) (c : Scene) (s : State) :
    (f <$> x) c s = ⟨(x c s).result.map f, (x c s).state, (x c s).asked⟩ := by
  change Action.bind x (fun a => Action.pure (f a)) c s = _
  simp only [Action.bind, Action.pure]
  cases (x c s).result <;> simp [Except.map]

/-- A call of the store fails when there is a reason for it. -/
theorem call_of_outage {outage : Scene → Nat → Option String} {c : Scene} {s : State}
    {reason : String} (h : outage c s.calls = some reason) (x : Action StoreError α) :
    call outage x c s = ⟨.error (.unavailable reason), s.called, []⟩ := by
  simp only [call, h, State.called]

/-- Otherwise the call is made. -/
theorem call_of_service {outage : Scene → Nat → Option String} {c : Scene} {s : State}
    (h : outage c s.calls = none) (x : Action StoreError α) :
    call outage x c s = x c s.called := by
  simp only [call, h, State.called]

section

variable {c : Scene} {s : State}

theorem getUser_of_outage {reason : String} (h : c.userOutage s.calls = some reason) (id : Uuid) :
    getUser id c s = ⟨.error (.unavailable reason), s.called, []⟩ :=
  call_of_outage h _

theorem getUser_of_service (h : c.userOutage s.calls = none) (id : Uuid) :
    getUser id c s = ⟨.ok (s.users.get? id), s.called, []⟩ :=
  call_of_service h _

theorem findUserByUid_of_service (h : c.userOutage s.calls = none) (uid : String) :
    findUserByUid uid c s = ⟨.ok (s.users.findByUid? uid), s.called, []⟩ :=
  call_of_service h _

theorem getEntry_of_service (h : c.entryOutage s.calls = none) (user : Uuid) (date : String) :
    getEntry user date c s = ⟨.ok (s.entries.find? user date), s.called, []⟩ :=
  call_of_service h _

theorem entriesInRange_of_service (h : c.entryOutage s.calls = none) (user : Uuid)
    (first last : Option String) :
    entriesInRange user first last c s =
      ⟨.ok (s.entries.inRange user first last), s.called, []⟩ :=
  call_of_service h _

theorem upsertEntry_of_service (h : c.entryOutage s.calls = none) (user : Uuid)
    (date body : String) :
    upsertEntry user date body c s =
      let put := s.entries.upsert (c.freshId s.drawn) c.now user date body
      ⟨.ok put.1,
        { s.called with
          entries := put.2
          drawn := if s.entries.isNew user date then s.drawn + 1 else s.drawn }, []⟩ :=
  call_of_service h _

end

/-! ### Actions that only read -/

/-- An action *keeps the data* when all accounts and entries stay as they are, whatever it ends
with. -/
def KeepsData (x : Action ε α) : Prop :=
  ∀ (c : Scene) (s : State), s.SameData (x c s).state

namespace KeepsData

theorem pure (a : α) : KeepsData (Pure.pure a : Action ε α) :=
  fun _ s => .refl s

theorem fail (e : ε) : KeepsData (Action.fail e : Action ε α) :=
  fun _ s => .refl s

theorem ofExcept (r : Except ε α) : KeepsData (Action.ofExcept r) :=
  fun _ s => .refl s

theorem now : KeepsData (Action.now : Action ε Instant) :=
  fun _ s => .refl s

theorem drawId : KeepsData (Action.drawId : Action ε Uuid) :=
  fun _ _ => ⟨rfl, rfl⟩

theorem bind {x : Action ε α} {f : α → Action ε β} (hx : KeepsData x)
    (hf : ∀ a, KeepsData (f a)) : KeepsData (x >>= f) := by
  intro c s
  cases h : (x c s).result with
  | error e =>
    rw [bind_of_error h]
    exact hx c s
  | ok a =>
    rw [bind_of_ok h]
    exact (hx c s).trans (hf a c _)

theorem settle {x : Action ε α} (hx : KeepsData x) (f : Except ε α → β) :
    KeepsData (x.settle f : Action ε' β) :=
  hx

theorem mapError {x : Action ε α} (hx : KeepsData x) (f : ε → ε') : KeepsData (x.mapError f) :=
  hx

theorem during {x : Action StoreError α} (hx : KeepsData x) (task : StoreTask) :
    KeepsData (x.during task) :=
  hx

theorem call {x : Action StoreError α} (hx : KeepsData x)
    (outage : Scene → Nat → Option String) : KeepsData (Action.call outage x) := by
  intro c s
  unfold Action.call
  split
  · exact s.sameData_called
  · exact s.sameData_called.trans (hx c _)

theorem getUser (id : Uuid) : KeepsData (Action.getUser id) :=
  .call (fun _ s => .refl s) _

theorem getEntry (user : Uuid) (date : String) : KeepsData (Action.getEntry user date) :=
  .call (fun _ s => .refl s) _

theorem entriesInRange (user : Uuid) (first last : Option String) :
    KeepsData (Action.entriesInRange user first last) :=
  .call (fun _ s => .refl s) _

end KeepsData

/-! ### Actions that write -/

/-- Putting a text fails and changes nothing, or puts it. -/
theorem upsertEntry_cases (user : Uuid) (date body : String) (c : Scene) (s : State) :
    ((∃ e, (upsertEntry user date body c s).result = .error e) ∧
        s.SameData (upsertEntry user date body c s).state) ∨
      ∃ e, (upsertEntry user date body c s).result = .ok e ∧
        s.Wrote c user date body e (upsertEntry user date body c s).state := by
  simp only [upsertEntry, call]
  split
  · exact .inl ⟨⟨_, rfl⟩, s.sameData_called⟩
  · exact .inr ⟨_, rfl, rfl, rfl⟩

theorem upsertEntry_of_inMemory {c : Scene} (hc : c.InMemory) (user : Uuid) (date body : String)
    (s : State) :
    ∃ e, (upsertEntry user date body c s).result = .ok e ∧
      s.Wrote c user date body e (upsertEntry user date body c s).state := by
  simp only [upsertEntry, call, hc.entries]
  exact ⟨_, rfl, rfl, rfl⟩

end Action

namespace Journal

/-- A text is saved for today only.  A failure changes nothing. -/
theorem save_cases (user : Uuid) (date body today : String) (c : Scene) (s : State) :
    ((∃ e, (save user date body today c s).result = .error e) ∧
        s.SameData (save user date body today c s).state) ∨
      date = today ∧ ∃ e, (save user date body today c s).result = .ok e ∧
        s.Wrote c user date body e (save user date body today c s).state := by
  unfold save
  split
  · next hdate =>
    rcases Action.upsertEntry_cases user date body c s with ⟨⟨e, he⟩, hs⟩ | ⟨e, he, hw⟩
    · exact .inl ⟨⟨_, Action.mapError_of_error _ (Action.mapError_of_error _ he)⟩, hs⟩
    · exact .inr ⟨hdate, e, Action.mapError_of_ok _ (Action.mapError_of_ok _ he), hw⟩
  · exact .inl ⟨⟨.notEditable, rfl⟩, .refl s⟩

/-- In memory, a text for today is saved. -/
theorem save_of_inMemory {c : Scene} (hc : c.InMemory) (user : Uuid) (today body : String)
    (s : State) :
    ∃ e, (save user today body today c s).result = .ok e ∧
      s.Wrote c user today body e (save user today body today c s).state := by
  obtain ⟨e, he, hw⟩ := Action.upsertEntry_of_inMemory hc user today body s
  rw [save, if_pos rfl]
  exact ⟨e, Action.mapError_of_ok _ (Action.mapError_of_ok _ he), hw⟩

open Daybook.Action (KeepsData)

theorem keepsData_find (user : Uuid) (date : String) : KeepsData (find user date) :=
  (KeepsData.getEntry user date).during _

theorem keepsData_month (user : Uuid) (zone : Zone) (reference : Int) (now : Instant) :
    KeepsData (month user zone reference now) :=
  .bind (.bind ((KeepsData.entriesInRange _ _ _).during _) fun _ => .pure _) fun _ => .pure _

end Journal

end Daybook
