import Daybook.Proofs.Service.Change
import Daybook.Service.Accounts

/-!
# The account of a profile

The account of a profile is looked up, and made if there is none.  As long as the store answers, the
profile has an account afterwards, since nobody else comes between the two calls.

## Main definitions

* `Scene.Serves` : the store answers the calls for the account of a profile.
* `Scene.IsDown` : every call for an account fails.
* `Accounts.lookUp`, `Accounts.make` : the two steps towards an account.

## Main results

* `Accounts.ofProfile_of_serves`, `Accounts.ofProfile_of_not_serves` : the account of a profile.
* `Accounts.ofProfile_cases` : what is changed for it.
-/

namespace Daybook

/-- The store *serves* a profile in a state when it answers the look-up of the account and, if there
is none, the call that makes it. -/
def Scene.Serves (c : Scene) (s : State) (p : Profile) : Prop :=
  c.userOutage s.calls = none ∧
    (s.users.findByUid? p.id = none → c.userOutage (s.calls + 1) = none)

theorem Scene.InMemory.serves {c : Scene} (h : c.InMemory) (s : State) (p : Profile) :
    c.Serves s p :=
  ⟨h.users s.calls, fun _ => h.users (s.calls + 1)⟩

namespace Users

variable {us : Users} {uid : String}

theorem findByUid?_eq_none_iff : us.findByUid? uid = none ↔ ∀ u ∈ us.values, u.uid ≠ uid := by
  simp [findByUid?]

theorem uid_of_findByUid? {u : User} (h : us.findByUid? uid = some u) : u.uid = uid := by
  simpa using List.find?_some h

theorem mem_values_of_findByUid? {u : User} (h : us.findByUid? uid = some u) : u ∈ us.values :=
  List.mem_of_find?_eq_some h

/-- A profile without an account is given one. -/
theorem create_of_unknown {p : Profile} (h : us.findByUid? p.id = none) (id : Uuid)
    (now : Instant) :
    us.create id now p = .ok (⟨id, p.id, p.name, now⟩, us.insert id ⟨id, p.id, p.name, now⟩) :=
  create_eq_ok_iff.2 ⟨findByUid?_eq_none_iff.1 h, rfl, rfl⟩

/-- A profile with an account is not given another. -/
theorem create_of_found {p : Profile} {u : User} (h : us.findByUid? p.id = some u) (id : Uuid)
    (now : Instant) : us.create id now p = .error (.uidTaken p.id) := by
  have hany : (us.values.any fun u => u.uid == p.id) = true :=
    List.any_eq_true.2 ⟨u, mem_values_of_findByUid? h, beq_iff_eq.2 (uid_of_findByUid? h)⟩
  rw [create, if_pos hany]

end Users

/-- The account that is made next for a profile. -/
def Scene.newUser (c : Scene) (s : State) (p : Profile) : User :=
  ⟨c.freshId s.drawn, p.id, p.name, c.now⟩

/-- The state after an account was made for a profile. -/
def State.withNew (s : State) (c : Scene) (p : Profile) : State :=
  { s with
    users := s.users.insert (c.freshId s.drawn) (c.newUser s p)
    drawn := s.drawn + 1 }

namespace Accounts

variable {p : Profile} {c : Scene} {s : State}

/-- The first step towards the account of a profile: it is looked up. -/
def lookUp (p : Profile) : Action StoreError (Option User) :=
  (Action.findUserByUid p.id).during .lookUpUser

/-- The second step, if there is no account: it is made. -/
def make (p : Profile) : Action StoreError User :=
  (Action.createUser p).during .createUser

theorem lookUp_of_outage {reason : String} (h : c.userOutage s.calls = some reason) :
    lookUp p c s = ⟨.error (.during .lookUpUser (.unavailable reason)), s.called, []⟩ := by
  have hcall : Action.findUserByUid p.id c s = ⟨.error (.unavailable reason), s.called, []⟩ :=
    Action.call_of_outage h _
  simp only [lookUp, Action.during, Action.mapError, hcall, Except.mapError]

theorem lookUp_of_service (h : c.userOutage s.calls = none) :
    lookUp p c s = ⟨.ok (s.users.findByUid? p.id), s.called, []⟩ := by
  simp only [lookUp, Action.during, Action.mapError, Action.findUserByUid_of_service h,
    Except.mapError]

theorem make_of_outage {reason : String} (h : c.userOutage s.calls = some reason) :
    make p c s = ⟨.error (.during .createUser (.unavailable reason)), s.called, []⟩ := by
  have hcall : Action.createUser p c s = ⟨.error (.unavailable reason), s.called, []⟩ :=
    Action.call_of_outage h _
  simp only [make, Action.during, Action.mapError, hcall, Except.mapError]

/-- An account is made for a profile that has none. -/
theorem createUser_of_unknown (h : c.userOutage s.calls = none)
    (hu : s.users.findByUid? p.id = none) :
    Action.createUser p c s = ⟨.ok (c.newUser s p), s.called.withNew c p, []⟩ := by
  have hcreate : s.called.users.create (c.freshId s.called.drawn) c.now p = _ :=
    Users.create_of_unknown hu _ _
  refine (Action.call_of_service h _).trans ?_
  simp only [hcreate]
  rfl

/-- No account is made for a profile that has one by now. -/
theorem createUser_of_found (h : c.userOutage s.calls = none) {u : User}
    (hu : s.users.findByUid? p.id = some u) :
    Action.createUser p c s = ⟨.error (.uidTaken p.id), s.called, []⟩ := by
  have hcreate : s.called.users.create (c.freshId s.called.drawn) c.now p = _ :=
    Users.create_of_found hu _ _
  refine (Action.call_of_service h _).trans ?_
  simp only [hcreate]

theorem make_of_unknown (h : c.userOutage s.calls = none)
    (hu : s.users.findByUid? p.id = none) :
    make p c s = ⟨.ok (c.newUser s p), s.called.withNew c p, []⟩ := by
  simp only [make, Action.during, Action.mapError, createUser_of_unknown h hu, Except.mapError]

theorem make_of_found (h : c.userOutage s.calls = none) {u : User}
    (hu : s.users.findByUid? p.id = some u) :
    make p c s = ⟨.error (.during .createUser (.uidTaken p.id)), s.called, []⟩ := by
  simp only [make, Action.during, Action.mapError, createUser_of_found h hu, Except.mapError]

/-! ### Both steps -/

theorem ofProfile_eq (p : Profile) :
    ofProfile p = lookUp p >>= fun
      | some u => pure u
      | none => make p :=
  rfl

/-- A look-up that fails ends the search for an account. -/
theorem ofProfile_of_outage {reason : String} (h : c.userOutage s.calls = some reason) :
    ofProfile p c s = ⟨.error (.during .lookUpUser (.unavailable reason)), s.called, []⟩ := by
  have hlook : lookUp p c s = _ := lookUp_of_outage h
  rw [ofProfile_eq, Action.bind_of_error (congrArg Outcome.result hlook), hlook]

/-- A profile that has an account keeps it. -/
theorem ofProfile_of_found (h : c.userOutage s.calls = none) {u : User}
    (hu : s.users.findByUid? p.id = some u) : ofProfile p c s = ⟨.ok u, s.called, []⟩ := by
  have hlook : lookUp p c s = _ := lookUp_of_service h
  rw [hu] at hlook
  rw [ofProfile_eq, Action.bind_of_ok (congrArg Outcome.result hlook), hlook]
  rfl

/-- For a profile without an account, one is to be made. -/
theorem ofProfile_of_unknown (h : c.userOutage s.calls = none)
    (hu : s.users.findByUid? p.id = none) : ofProfile p c s = make p c s.called := by
  have hlook : lookUp p c s = _ := lookUp_of_service h
  rw [hu] at hlook
  rw [ofProfile_eq, Action.bind_of_ok (congrArg Outcome.result hlook), hlook]
  rfl

/-- A store that serves a profile has an account for it afterwards: the one that it had, or a new
one. -/
theorem ofProfile_of_serves (h : c.Serves s p) :
    ∃ u, (ofProfile p c s).result = .ok u ∧ (ofProfile p c s).asked = [] ∧
      (s.users.findByUid? p.id = some u ∧ s.SameData (ofProfile p c s).state ∨
        s.users.findByUid? p.id = none ∧ s.Registered c p u (ofProfile p c s).state) := by
  obtain ⟨hlook, hmake⟩ := h
  cases hu : s.users.findByUid? p.id with
  | some u =>
    rw [ofProfile_of_found hlook hu]
    exact ⟨u, rfl, rfl, .inl ⟨rfl, s.sameData_called⟩⟩
  | none =>
    have hcall : c.userOutage s.called.calls = none := hmake hu
    rw [ofProfile_of_unknown hlook hu, make_of_unknown hcall hu]
    exact ⟨_, rfl, rfl, .inr ⟨rfl, Users.create_of_unknown hu _ _, rfl⟩⟩

/-- A store that does not serve a profile gives no account for it, and nothing is changed. -/
theorem ofProfile_of_not_serves (h : ¬c.Serves s p) :
    ∃ e, (ofProfile p c s).result = .error e ∧ (ofProfile p c s).asked = [] ∧
      s.SameData (ofProfile p c s).state := by
  cases hlook : c.userOutage s.calls with
  | some reason =>
    rw [ofProfile_of_outage hlook]
    exact ⟨_, rfl, rfl, s.sameData_called⟩
  | none =>
    have hu : s.users.findByUid? p.id = none ∧ c.userOutage (s.calls + 1) ≠ none := by
      rw [Scene.Serves, not_and] at h
      exact Classical.not_imp.1 (h hlook)
    obtain ⟨reason, hmake⟩ := Option.ne_none_iff_exists'.1 hu.2
    have hcall : c.userOutage s.called.calls = some reason := hmake
    rw [ofProfile_of_unknown hlook hu.1, make_of_outage hcall]
    exact ⟨_, rfl, rfl, s.sameData_called.trans s.called.sameData_called⟩

/-- The account of a profile is the one that exists, or it is made.  A failure changes nothing. -/
theorem ofProfile_cases (p : Profile) (c : Scene) (s : State) :
    ((∃ e, (ofProfile p c s).result = .error e) ∧ s.SameData (ofProfile p c s).state) ∨
      (∃ u, (ofProfile p c s).result = .ok u ∧ s.users.findByUid? p.id = some u ∧
        s.SameData (ofProfile p c s).state) ∨
      ∃ u, (ofProfile p c s).result = .ok u ∧ s.Registered c p u (ofProfile p c s).state := by
  by_cases h : c.Serves s p
  · obtain ⟨u, hu, -, ⟨hfound, hs⟩ | ⟨-, hr⟩⟩ := ofProfile_of_serves h
    · exact .inr (.inl ⟨u, hu, hfound, hs⟩)
    · exact .inr (.inr ⟨u, hu, hr⟩)
  · obtain ⟨e, he, -, hs⟩ := ofProfile_of_not_serves h
    exact .inl ⟨⟨e, he⟩, hs⟩

end Accounts

end Daybook
