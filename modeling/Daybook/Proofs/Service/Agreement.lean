import Daybook.Proofs.Service.Change
import Daybook.Service.Accounts

/-!
# Actions in scenes that are alike

Scenes are alike when they have the same present and the same supply of identifiers, and the same
calls of the store fail, each for whatever reason.  Two actions agree, each in its own scene, when
from any state they lead to the same state and end with the same result, or with failures that
correspond to each other.  Agreement is kept when actions are put together.

## Main definitions

* `Scene.Alike` : scenes that differ in the reasons of failures and in the login provider.
* `Outcome.Agrees`, `Action.Agree` : outcomes and actions that agree.

## Main results

* `Action.Agree.bind`, `Action.Agree.mapError`, `Action.Agree.settle` : actions put together.
* `Journal.agree_save`, `Journal.agree_month`, `Accounts.agree_ofProfile` : the services.
-/

namespace Daybook

/-- Scenes are *alike* when they have the same present and the same supply of identifiers, and the
same calls of the store fail.  The reasons may differ, and the login provider may. -/
structure Scene.Alike (c₁ c₂ : Scene) : Prop where
  now : c₁.now = c₂.now
  freshId : c₁.freshId = c₂.freshId
  users : ∀ n, (c₁.userOutage n).isSome = (c₂.userOutage n).isSome
  entries : ∀ n, (c₁.entryOutage n).isSome = (c₂.entryOutage n).isSome

/-- Outcomes *agree* when they have the same state, and the same result or corresponding failures.
The addresses that were asked may differ. -/
inductive Outcome.Agrees {ε α : Type} (R : ε → ε → Prop) : Outcome ε α → Outcome ε α → Prop
  | ok (a : α) (s : State) (asked₁ asked₂ : List String) :
    Agrees R ⟨.ok a, s, asked₁⟩ ⟨.ok a, s, asked₂⟩
  | error {e₁ e₂ : ε} (h : R e₁ e₂) (s : State) (asked₁ asked₂ : List String) :
    Agrees R ⟨.error e₁, s, asked₁⟩ ⟨.error e₂, s, asked₂⟩

/-- It does not matter to the agreement which addresses were asked. -/
theorem Outcome.Agrees.asked {ε α : Type} {R : ε → ε → Prop} {o₁ o₂ : Outcome ε α}
    (h : o₁.Agrees R o₂) (asked₁ asked₂ : List String) :
    Outcome.Agrees R ⟨o₁.result, o₁.state, asked₁⟩ ⟨o₂.result, o₂.state, asked₂⟩ := by
  cases h with
  | ok a s => exact .ok a s asked₁ asked₂
  | error h s => exact .error h s asked₁ asked₂

/-- What is made of the same results is the same. -/
theorem Outcome.Agrees.map {ε α β : Type} {R : ε → ε → Prop} {o₁ o₂ : Outcome ε α}
    (h : o₁.Agrees R o₂) (f : α → β) :
    Outcome.Agrees R ⟨o₁.result.map f, o₁.state, o₁.asked⟩
      ⟨o₂.result.map f, o₂.state, o₂.asked⟩ := by
  cases h with
  | ok a s asked₁ asked₂ => exact .ok (f a) s asked₁ asked₂
  | error h s asked₁ asked₂ => exact .error h s asked₁ asked₂

namespace Action

variable {ε ε' α β : Type} {R : ε → ε → Prop} {R' : ε' → ε' → Prop} {c₁ c₂ : Scene}

/-- Actions *agree*, each in its own scene, when their outcomes do in every state. -/
def Agree (R : ε → ε → Prop) (c₁ c₂ : Scene) (x₁ x₂ : Action ε α) : Prop :=
  ∀ s, (x₁ c₁ s).Agrees R (x₂ c₂ s)

namespace Agree

theorem pure (a : α) : Agree R c₁ c₂ (Pure.pure a) (Pure.pure a) :=
  fun s => .ok a s [] []

theorem fail {e₁ e₂ : ε} (h : R e₁ e₂) :
    Agree R c₁ c₂ (Action.fail e₁ : Action ε α) (Action.fail e₂) :=
  fun s => .error h s [] []

theorem ofExcept (h : ∀ e, R e e) (r : Except ε α) :
    Agree R c₁ c₂ (Action.ofExcept r) (Action.ofExcept r) := by
  intro s
  cases r with
  | ok a => exact .ok a s [] []
  | error e => exact .error (h e) s [] []

theorem bind {x₁ x₂ : Action ε α} {f₁ f₂ : α → Action ε β} (hx : Agree R c₁ c₂ x₁ x₂)
    (hf : ∀ a, Agree R c₁ c₂ (f₁ a) (f₂ a)) : Agree R c₁ c₂ (x₁ >>= f₁) (x₂ >>= f₂) := by
  intro s
  change (Action.bind x₁ f₁ c₁ s).Agrees R (Action.bind x₂ f₂ c₂ s)
  unfold Action.bind
  have h := hx s
  generalize x₁ c₁ s = o₁ at h ⊢
  generalize x₂ c₂ s = o₂ at h ⊢
  cases h with
  | ok a s' => exact (hf a s').asked _ _
  | error h s' => exact .error h s' _ _

theorem mapError {x₁ x₂ : Action ε α} (hx : Agree R c₁ c₂ x₁ x₂) {f : ε → ε'}
    (hf : ∀ e₁ e₂, R e₁ e₂ → R' (f e₁) (f e₂)) :
    Agree R' c₁ c₂ (x₁.mapError f) (x₂.mapError f) := by
  intro s
  unfold Action.mapError
  have h := hx s
  generalize x₁ c₁ s = o₁ at h ⊢
  generalize x₂ c₂ s = o₂ at h ⊢
  cases h with
  | ok a s' => exact .ok a s' _ _
  | error h s' => exact .error (hf _ _ h) s' _ _

/-- What is made of the result does not tell corresponding failures apart. -/
theorem settle {x₁ x₂ : Action ε α} (hx : Agree R c₁ c₂ x₁ x₂) {f : Except ε α → β}
    (hf : ∀ e₁ e₂, R e₁ e₂ → f (.error e₁) = f (.error e₂)) :
    Agree R' c₁ c₂ (x₁.settle f) (x₂.settle f) := by
  intro s
  unfold Action.settle
  have h := hx s
  generalize x₁ c₁ s = o₁ at h ⊢
  generalize x₂ c₂ s = o₂ at h ⊢
  cases h with
  | ok a s' => exact .ok _ s' _ _
  | error h s' =>
    dsimp only
    rw [hf _ _ h]
    exact .ok _ s' _ _

/-! ### Scenes that are alike -/

variable (hc : c₁.Alike c₂)

include hc

theorem now : Agree R c₁ c₂ (Action.now : Action ε Instant) Action.now := by
  intro s
  unfold Action.now
  rw [hc.now]
  exact .ok _ s [] []

theorem drawId : Agree R c₁ c₂ (Action.drawId : Action ε Uuid) Action.drawId := by
  intro s
  unfold Action.drawId
  rw [hc.freshId]
  exact .ok _ _ [] []

end Agree

/-! ### Calls of the store

The failures of the store all correspond to each other. -/

/-- The calls of the store agree in scenes in which the same of them fail. -/
theorem Agree.call {outage : Scene → Nat → Option String}
    (hout : ∀ n, (outage c₁ n).isSome = (outage c₂ n).isSome) {x₁ x₂ : Action StoreError α}
    (hx : Agree (fun _ _ => True) c₁ c₂ x₁ x₂) :
    Agree (fun _ _ => True) c₁ c₂ (Action.call outage x₁) (Action.call outage x₂) := by
  intro s
  have h := hout s.calls
  unfold Action.call
  cases h₁ : outage c₁ s.calls with
  | none =>
    rw [h₁, Option.isSome_none, eq_comm, Option.isSome_eq_false_iff, Option.isNone_iff_eq_none] at h
    simp only [h]
    exact hx _
  | some reason =>
    rw [h₁, Option.isSome_some, eq_comm, Option.isSome_iff_exists] at h
    obtain ⟨reason', h₂⟩ := h
    simp only [h₂]
    exact .error trivial _ [] []

/-- What a task of the store says about a failure does not matter. -/
theorem Agree.during {x₁ x₂ : Action StoreError α} (hx : Agree (fun _ _ => True) c₁ c₂ x₁ x₂)
    (task : StoreTask) : Agree (fun _ _ => True) c₁ c₂ (x₁.during task) (x₂.during task) :=
  hx.mapError fun _ _ h => h

variable (hc : c₁.Alike c₂)

include hc

theorem agree_getUser (id : Uuid) : Agree (fun _ _ => True) c₁ c₂ (getUser id) (getUser id) :=
  .call hc.users fun s => .ok _ s [] []

theorem agree_findUserByUid (uid : String) :
    Agree (fun _ _ => True) c₁ c₂ (findUserByUid uid) (findUserByUid uid) :=
  .call hc.users fun s => .ok _ s [] []

theorem agree_createUser (p : Profile) :
    Agree (fun _ _ => True) c₁ c₂ (createUser p) (createUser p) := by
  refine .call hc.users fun s => ?_
  simp only [hc.freshId, hc.now]
  cases s.users.create (c₂.freshId s.drawn) c₂.now p with
  | ok r => exact .ok _ _ [] []
  | error e => exact .error trivial s [] []

theorem agree_getEntry (user : Uuid) (date : String) :
    Agree (fun _ _ => True) c₁ c₂ (getEntry user date) (getEntry user date) :=
  .call hc.entries fun s => .ok _ s [] []

theorem agree_entriesInRange (user : Uuid) (first last : Option String) :
    Agree (fun _ _ => True) c₁ c₂ (entriesInRange user first last)
      (entriesInRange user first last) :=
  .call hc.entries fun s => .ok _ s [] []

theorem agree_upsertEntry (user : Uuid) (date body : String) :
    Agree (fun _ _ => True) c₁ c₂ (upsertEntry user date body) (upsertEntry user date body) := by
  refine .call hc.entries fun s => ?_
  simp only [hc.freshId, hc.now]
  exact .ok _ _ [] []

end Action

open Daybook.Action (Agree)

/-! ### Services -/

section

variable {c₁ c₂ : Scene} (hc : c₁.Alike c₂)

include hc

theorem Accounts.agree_ofProfile (p : Profile) :
    Agree (fun _ _ => True) c₁ c₂ (ofProfile p) (ofProfile p) := by
  refine .bind ((Action.agree_findUserByUid hc p.id).during .lookUpUser) fun found => ?_
  cases found with
  | some u => exact .pure u
  | none => exact (Action.agree_createUser hc p).during .createUser

namespace Journal

theorem agree_find (user : Uuid) (date : String) :
    Agree (fun _ _ => True) c₁ c₂ (find user date) (find user date) :=
  (Action.agree_getEntry hc user date).during _

theorem agree_month (user : Uuid) (zone : Zone) (reference : Int) (now : Instant) :
    Agree (fun _ _ => True) c₁ c₂ (month user zone reference now)
      (month user zone reference now) :=
  .bind (.bind ((Action.agree_entriesInRange hc user _ _).during _) fun _ => .pure _)
    fun _ => .pure _

/-- A text is saved in both scenes or in neither.  If it is not, then either the day is not today,
or the store has failed. -/
theorem agree_save (user : Uuid) (date body today : String) :
    Agree (fun e₁ e₂ => e₁ = e₂ ∨ ∃ s₁ s₂, e₁ = .store s₁ ∧ e₂ = .store s₂) c₁ c₂
      (save user date body today) (save user date body today) := by
  unfold save
  split
  · exact ((Action.agree_upsertEntry hc user date body).during _).mapError
      fun s₁ s₂ _ => .inr ⟨s₁, s₂, rfl, rfl⟩
  · exact .fail (.inl rfl)

end Journal

end

end Daybook
