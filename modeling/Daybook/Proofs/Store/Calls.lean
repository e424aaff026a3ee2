import Daybook.Proofs.Service.Accounts

/-!
# Calls of the store in memory

The store in memory is changed by its calls alone.  As long as the identifiers that are drawn are
distinct, whatever calls have been made, no two accounts are for the same profile, and no account
has an identifier that is still to be drawn.

## Main definitions

* `Scene.Draws` : a store in memory, and the supply from which identifiers are drawn.
* `DistinctBelow` : the first identifiers of a supply are distinct.
* `EntryCall`, `EntryAnswer`, `EntryCall.action` : the calls for entries.
* `State.Reachable` : the states to which calls lead.
* `State.Orderly` : what is true of the accounts.

## Main results

* `EntryCall.action_upsert`, `EntryCall.action_find`, `EntryCall.action_range` : the answers.
* `State.Reachable.orderly` : reachable states are orderly.
* `State.Reachable.filed` : in reachable states entries stand where they belong.
-/

namespace Daybook

/-- A new key comes last. -/
theorem Table.values_insert_of_new {κ ν : Type} [DecidableEq κ] {t : Table κ ν} {k : κ}
    (h : t.get? k = none) (v : ν) : (t.insert k v).values = t.values ++ [v] := by
  have hrows {rows : List (κ × ν)} (h : rows.lookup k = none) :
      insertRow k v rows = rows ++ [(k, v)] := by
    induction rows with
    | nil => rfl
    | cons row rows ih =>
      obtain ⟨k', v'⟩ := row
      rw [List.lookup_cons] at h
      split at h
      · cases h
      · next hne =>
        have hk : k' ≠ k := fun e => beq_eq_false_iff_ne.1 hne e.symm
        rw [insertRow, if_neg hk, ih h, List.cons_append]
  simp only [values, insert, hrows h, List.map_append, List.map_cons, List.map_nil]

/-- The store is in memory, and draws identifiers from a supply. -/
structure Scene.Draws (freshId : Nat → Uuid) (c : Scene) : Prop where
  inMemory : c.InMemory
  supply : c.freshId = freshId

/-- The first identifiers of a supply are distinct. -/
def DistinctBelow (freshId : Nat → Uuid) (total : Nat) : Prop :=
  ∀ m n, m < total → n < total → freshId m = freshId n → m = n

/-! ### Calls for entries -/

/-- A call for entries. -/
inductive EntryCall where
  | upsert (user : Uuid) (date body : String)
  | find (user : Uuid) (date : String)
  | range (user : Uuid) (first last : Option String)

/-- What a call for entries is answered. -/
inductive EntryAnswer where
  | put (e : Entry)
  | found (e : Option Entry)
  | listed (es : List Entry)

namespace EntryCall

/-- What is done at a call. -/
def action : EntryCall → Action StoreError EntryAnswer
  | upsert user date body => .put <$> Action.upsertEntry user date body
  | find user date => .found <$> Action.getEntry user date
  | range user first last => .listed <$> Action.entriesInRange user first last

variable {c : Scene} (hc : c.InMemory) (s : State) (user : Uuid)

include hc

theorem action_upsert (date body : String) :
    (upsert user date body).action c s =
      let put := s.entries.upsert (c.freshId s.drawn) c.now user date body
      ⟨.ok (.put put.1),
        { s.called with
          entries := put.2
          drawn := if s.entries.isNew user date then s.drawn + 1 else s.drawn }, []⟩ := by
  rw [action, Action.map_apply, Action.upsertEntry_of_service (hc.entries _)]
  rfl

theorem action_find (date : String) :
    (find user date).action c s = ⟨.ok (.found (s.entries.find? user date)), s.called, []⟩ := by
  rw [action, Action.map_apply, Action.getEntry_of_service (hc.entries _)]
  rfl

theorem action_range (first last : Option String) :
    (range user first last).action c s =
      ⟨.ok (.listed (s.entries.inRange user first last)), s.called, []⟩ := by
  rw [action, Action.map_apply, Action.entriesInRange_of_service (hc.entries _)]
  rfl

omit user in
/-- The calls for entries leave the accounts alone. -/
theorem users_action (x : EntryCall) :
    (x.action c s).state.users = s.users ∧ s.drawn ≤ (x.action c s).state.drawn := by
  cases x with
  | upsert user date body =>
    rw [action_upsert hc]
    refine ⟨rfl, ?_⟩
    simp only
    split <;> omega
  | find user date => exact action_find hc s user date ▸ ⟨rfl, Nat.le_refl _⟩
  | range user first last => exact action_range hc s user first last ▸ ⟨rfl, Nat.le_refl _⟩

end EntryCall

/-! ### Reachable states -/

namespace State

/-- The states to which calls of the store in memory lead, in scenes that draw from one supply. -/
inductive Reachable (freshId : Nat → Uuid) : State → Prop
  | initial : Reachable freshId .initial
  | createUser {c : Scene} {s : State} (p : Profile) (hc : c.Draws freshId)
      (h : Reachable freshId s) : Reachable freshId (Action.createUser p c s).state
  | getUser {c : Scene} {s : State} (id : Uuid) (hc : c.Draws freshId)
      (h : Reachable freshId s) : Reachable freshId (Action.getUser id c s).state
  | findUserByUid {c : Scene} {s : State} (uid : String) (hc : c.Draws freshId)
      (h : Reachable freshId s) : Reachable freshId (Action.findUserByUid uid c s).state
  | entries {c : Scene} {s : State} (x : EntryCall) (hc : c.Draws freshId)
      (h : Reachable freshId s) : Reachable freshId (x.action c s).state
  | drawId {c : Scene} {s : State} (hc : c.Draws freshId) (h : Reachable freshId s) :
      Reachable freshId ((Action.drawId : Action StoreError Uuid) c s).state

/-- The accounts are *orderly* when no two are for the same profile, and the identifiers that are
still to be drawn, of so many, are free. -/
structure Orderly (freshId : Nat → Uuid) (total : Nat) (s : State) : Prop where
  uids_nodup : (s.users.values.map User.uid).Nodup
  free : ∀ n, s.drawn ≤ n → n < total → s.users.get? (freshId n) = none

variable {freshId : Nat → Uuid} {total : Nat} {s s' : State}

theorem Orderly.initial : Orderly freshId total .initial :=
  ⟨List.nodup_nil, fun _ _ _ => rfl⟩

theorem Orderly.of_users (h : s.Orderly freshId total) (husers : s'.users = s.users)
    (hdrawn : s.drawn ≤ s'.drawn) : s'.Orderly freshId total where
  uids_nodup := by rw [husers]; exact h.uids_nodup
  free := fun n hn hlt => by rw [husers]; exact h.free n (Nat.le_trans hdrawn hn) hlt

theorem Orderly.called (h : s.Orderly freshId total) : s.called.Orderly freshId total :=
  h.of_users rfl (Nat.le_refl _)

section

variable {c : Scene} (hc : c.Draws freshId) (hlt : s.drawn < total)

include hc hlt

/-- A new account comes last. -/
theorem Orderly.values_withNew (h : s.Orderly freshId total) (p : Profile) :
    (s.withNew c p).users.values = s.users.values ++ [c.newUser s p] :=
  Table.values_insert_of_new (hc.supply ▸ h.free s.drawn (Nat.le_refl _) hlt) _

/-- A new account for a profile that has none keeps the accounts orderly. -/
theorem Orderly.withNew (hfresh : DistinctBelow freshId total) (h : s.Orderly freshId total)
    {p : Profile} (hu : s.users.findByUid? p.id = none) :
    (s.withNew c p).Orderly freshId total where
  uids_nodup := by
    rw [h.values_withNew hc hlt, List.map_append, List.map_singleton]
    refine List.nodup_append.2 ⟨h.uids_nodup, by simp, fun uid huid uid' huid' => ?_⟩
    obtain ⟨u, hmem, rfl⟩ := List.mem_map.1 huid
    rw [List.mem_singleton] at huid'
    rw [huid']
    exact Users.findByUid?_eq_none_iff.1 hu u hmem
  free := fun n hn hn' => by
    have hdrawn : s.drawn + 1 ≤ n := hn
    have hne : freshId n ≠ c.freshId s.drawn := by
      intro e
      have hsame := hfresh n s.drawn hn' hlt (hc.supply ▸ e)
      omega
    exact (Table.get?_insert_of_ne _ hne _).trans (h.free n (by omega) hn')

end

/-- Reachable states are orderly. -/
theorem Reachable.orderly (hfresh : DistinctBelow freshId total) (h : Reachable freshId s)
    (htotal : s.drawn ≤ total) : s.Orderly freshId total := by
  induction h with
  | initial => exact .initial
  | @createUser c s p hc _ ih =>
    have hservice := hc.inMemory.users s.calls
    cases hu : s.users.findByUid? p.id with
    | some u =>
      rw [Accounts.createUser_of_found hservice hu] at htotal ⊢
      exact (ih htotal).called
    | none =>
      rw [Accounts.createUser_of_unknown hservice hu] at htotal ⊢
      have hlt : s.called.drawn < total := htotal
      exact (ih (Nat.le_of_lt hlt)).called.withNew hc hlt hfresh hu
  | @getUser c s id hc _ ih =>
    rw [Action.getUser_of_service (hc.inMemory.users s.calls)] at htotal ⊢
    exact (ih htotal).called
  | @findUserByUid c s uid hc _ ih =>
    rw [Action.findUserByUid_of_service (hc.inMemory.users s.calls)] at htotal ⊢
    exact (ih htotal).called
  | @entries c s x hc _ ih =>
    obtain ⟨husers, hdrawn⟩ := x.users_action hc.inMemory s
    exact (ih (Nat.le_trans hdrawn htotal)).of_users husers hdrawn
  | drawId _ _ ih => exact (ih (Nat.le_of_succ_le htotal)).of_users rfl (Nat.le_succ _)

/-- In reachable states every entry stands under its own user and date. -/
theorem Reachable.filed (h : Reachable freshId s) : s.entries.Filed := by
  induction h with
  | initial => exact Entries.filed_empty
  | @createUser c s p hc _ ih =>
    have hservice := hc.inMemory.users s.calls
    cases hu : s.users.findByUid? p.id with
    | some u => rwa [Accounts.createUser_of_found hservice hu]
    | none => rwa [Accounts.createUser_of_unknown hservice hu]
  | @getUser c s id hc _ ih => rwa [Action.getUser_of_service (hc.inMemory.users s.calls)]
  | @findUserByUid c s uid hc _ ih =>
    rwa [Action.findUserByUid_of_service (hc.inMemory.users s.calls)]
  | @entries c s x hc _ ih =>
    cases x with
    | upsert user date body =>
      rw [EntryCall.action_upsert hc.inMemory]
      exact ih.upsert _ _ user date body
    | find user date => rwa [EntryCall.action_find hc.inMemory]
    | range user first last => rwa [EntryCall.action_range hc.inMemory]
  | drawId _ _ ih => exact ih

end State

/-! ### A store in memory -/

namespace Sample

/-- Sixteen identifiers. -/
def supply (n : Nat) : Uuid :=
  ⟨Hex.digit n :: List.replicate 31 (Hex.digit 0), rfl⟩

/-- A store in memory on 8 November 2010. -/
def memory : Scene :=
  ⟨.atSecond 1289174400 (by decide), supply, fun _ => none, fun _ => none,
    fun _ => .unreachable "offline"⟩

theorem draws_memory : memory.Draws supply :=
  ⟨⟨fun _ => rfl, fun _ => rfl⟩, rfl⟩

end Sample

end Daybook
