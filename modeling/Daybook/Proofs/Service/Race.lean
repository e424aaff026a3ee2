import Daybook.Proofs.Store.Calls
import Mathlib.Data.List.Nodup

/-!
# Concurrent first logins

The account of a profile is looked up by one call of the store and made by another, and the calls of
others may come in between.  If several searches for the account of a new profile miss it before one
of them makes it, that one succeeds, and the others fail because the account exists by then.  There
is one account for each profile in any case.

## Main definitions

* `Accounts.Progress`, `Accounts.Progress.next` : how far a search has come, and its next call.
* `Accounts.Race` : searches that go on at the same time, with the data.
* `Accounts.Race.step`, `Accounts.Race.run` : a call of one search, and a schedule of calls.
* `Accounts.Race.Sane` : what is true in the course of a race.

## Main results

* `Accounts.Progress.next_next` : an undisturbed search is `Accounts.ofProfile`.
* `Accounts.Race.Sane.step`, `Accounts.Race.Sane.run` : a race stays sane.
* `Accounts.Race.one_account_each` : how every race ends.
* `Sample.second_taken` : a search that fails.
-/

namespace Daybook

namespace Accounts

/-- How far a search for the account of a profile has come. -/
inductive Progress where
  | waiting
  | absent
  | done (r : Except StoreError User)

namespace Progress

/-- What is known after the account was looked up. -/
def ofLookUp : Except StoreError (Option User) → Progress
  | .ok (some u) => done (.ok u)
  | .ok none => absent
  | .error e => done (.error e)

/-- The next call of a search. -/
def next (p : Profile) (c : Scene) (s : State) : Progress → Progress × State
  | waiting => (ofLookUp (lookUp p c s).result, (lookUp p c s).state)
  | absent => (done (make p c s).result, (make p c s).state)
  | done r => (done r, s)

/-- How many calls a search has yet to make at most. -/
def remaining : Progress → Nat
  | waiting => 2
  | absent => 1
  | done _ => 0

theorem remaining_next (p : Profile) (c : Scene) (s : State) (q : Progress) :
    (q.next p c s).1.remaining ≤ q.remaining - 1 := by
  cases q with
  | waiting =>
    simp only [next]
    cases (lookUp p c s).result with
    | ok found => cases found <;> simp [ofLookUp, remaining]
    | error e => simp [ofLookUp, remaining]
  | absent => exact Nat.le_refl _
  | done r => exact Nat.le_refl _

theorem exists_done {q : Progress} (h : q.remaining = 0) : ∃ r, q = done r := by
  cases q with
  | done r => exact ⟨r, rfl⟩
  | waiting | absent => cases h

/-- The two calls of a search that nobody disturbs are the search for the account. -/
theorem next_next (p : Profile) (c : Scene) (s : State) :
    let first := waiting.next p c s
    first.1.next p c first.2 = (done (ofProfile p c s).result, (ofProfile p c s).state) := by
  simp only [next, ofProfile_eq]
  cases hlook : (lookUp p c s).result with
  | error e => rw [Action.bind_of_error hlook]; rfl
  | ok found =>
    rw [Action.bind_of_ok hlook]
    cases found <;> rfl

end Progress

/-- Searches for accounts that go on at the same time, and the data. -/
structure Race (n : Nat) where
  data : State
  progress : Fin n → Progress

namespace Race

variable {n : Nat}

/-- All searches are about to begin. -/
def start (s : State) : Race n :=
  ⟨s, fun _ => .waiting⟩

/-- One search has made a call. -/
def put (x : Race n) (s : State) (i : Fin n) (q : Progress) : Race n :=
  ⟨s, fun j => if j = i then q else x.progress j⟩

theorem put_self (x : Race n) (s : State) (i : Fin n) (q : Progress) :
    (x.put s i q).progress i = q :=
  if_pos rfl

theorem put_of_ne (x : Race n) (s : State) {i j : Fin n} (h : j ≠ i) (q : Progress) :
    (x.put s i q).progress j = x.progress j :=
  if_neg h

variable (ps : Fin n → Profile)

/-- The next call of one of the searches, each of which is for the account of its profile. -/
def step (x : Race n) (m : Scene × Fin n) : Race n :=
  let called := (x.progress m.2).next (ps m.2) m.1 x.data
  x.put called.2 m.2 called.1

/-- The calls of a schedule, each in its scene. -/
def run (x : Race n) (moves : List (Scene × Fin n)) : Race n :=
  moves.foldl (step ps) x

theorem run_cons (x : Race n) (m : Scene × Fin n) (moves : List (Scene × Fin n)) :
    run ps x (m :: moves) = run ps (step ps x m) moves :=
  rfl

/-! ### One call -/

/-- What a call may do in memory: the account is found or missed, or it is made, or it is found to
have been made by another search in the meantime. -/
inductive Step (c : Scene) (i : Fin n) (x : Race n) : Race n → Prop
  | found {u : User} (waiting : x.progress i = .waiting)
      (known : x.data.users.findByUid? (ps i).id = some u) :
      Step c i x (x.put x.data.called i (.done (.ok u)))
  | missed (waiting : x.progress i = .waiting)
      (unknown : x.data.users.findByUid? (ps i).id = none) :
      Step c i x (x.put x.data.called i .absent)
  | made (absent : x.progress i = .absent)
      (unknown : x.data.users.findByUid? (ps i).id = none) :
      Step c i x
        (x.put (x.data.called.withNew c (ps i)) i (.done (.ok (c.newUser x.data (ps i)))))
  | taken {u : User} (absent : x.progress i = .absent)
      (known : x.data.users.findByUid? (ps i).id = some u) :
      Step c i x
        (x.put x.data.called i (.done (.error (.during .createUser (.uidTaken (ps i).id)))))
  | idle {r : Except StoreError User} (done : x.progress i = .done r) : Step c i x x

theorem step_spec {c : Scene} (hc : c.InMemory) (i : Fin n) (x : Race n) :
    Step ps c i x (step ps x (c, i)) := by
  have hservice := hc.users x.data.calls
  simp only [step]
  cases hq : x.progress i with
  | waiting =>
    rw [Progress.next, lookUp_of_service hservice]
    cases hu : x.data.users.findByUid? (ps i).id with
    | some u => exact .found hq hu
    | none => exact .missed hq hu
  | absent =>
    rw [Progress.next]
    cases hu : x.data.users.findByUid? (ps i).id with
    | some u => rw [make_of_found hservice hu]; exact .taken hq hu
    | none => rw [make_of_unknown hservice hu]; exact .made hq hu
  | done r =>
    have hsame : x.put x.data i (.done r) = x := by
      obtain ⟨data, progress⟩ := x
      refine congrArg (Race.mk data) (funext fun j => ?_)
      split_ifs with hj
      · rw [hj, ← hq]
      · rfl
    rw [Progress.next, hsame]
    exact .idle hq

namespace Step

variable {ps} {c : Scene} {i j : Fin n} {x x' : Race n}

theorem progress_of_ne (h : Step ps c i x x') (hj : j ≠ i) : x'.progress j = x.progress j := by
  cases h with
  | idle done => rfl
  | _ => exact put_of_ne _ _ hj _

/-- A search that is over stays so. -/
theorem progress_of_done {r : Except StoreError User} (h : Step ps c i x x')
    (hj : x.progress j = .done r) : x'.progress j = .done r := by
  by_cases hji : j = i
  · subst hji
    cases h with
    | idle done => exact hj
    | found waiting _ | missed waiting _ => rw [waiting] at hj; cases hj
    | made absent _ | taken absent _ => rw [absent] at hj; cases hj
  · rw [h.progress_of_ne hji, hj]

theorem drawn_le (h : Step ps c i x x') : x.data.drawn ≤ x'.data.drawn := by
  cases h with
  | made absent unknown => exact Nat.le_succ _
  | _ => exact Nat.le_refl _

/-- A search that misses the account has found none. -/
theorem unknown_of_absent (h : Step ps c i x x') (habsent : x'.progress i = .absent) :
    x.data.users.findByUid? (ps i).id = none := by
  cases h with
  | missed waiting unknown => exact unknown
  | made absent unknown => exact unknown
  | found | taken => rw [put_self] at habsent; cases habsent
  | idle done => rw [done] at habsent; cases habsent

/-- A search fails with this call only if the account has been made in the meantime. -/
theorem taken_of_error (h : Step ps c i x x') {e : StoreError}
    (he : x'.progress i = .done (.error e)) :
    x.progress i = .done (.error e) ∨ x.progress i = .absent ∧
      e = .during .createUser (.uidTaken (ps i).id) ∧
        ∃ u, x.data.users.findByUid? (ps i).id = some u := by
  cases h with
  | idle done => exact .inl he
  | taken absent known =>
    rw [put_self] at he
    cases he
    exact .inr ⟨absent, rfl, _, known⟩
  | found | missed | made => rw [put_self] at he; cases he

section

variable {freshId : Nat → Uuid} {total : Nat} (h : Step ps c i x x') (hc : c.Draws freshId)
  (horderly : x.data.Orderly freshId total) (htotal : x'.data.drawn ≤ total)

include h hc horderly htotal

/-- The account that is made comes last, and is the result of its search. -/
theorem values_eq : ∃ new, x'.data.users.values = x.data.users.values ++ new ∧
    ∀ u ∈ new, x'.progress i = .done (.ok u) := by
  cases h with
  | made absent unknown =>
    refine ⟨_, horderly.called.values_withNew hc htotal (ps i), fun u hu => ?_⟩
    rw [put_self, List.mem_singleton.1 hu]
    rfl
  | _ => exact ⟨[], (List.append_nil _).symm, by simp⟩

/-- An account that is found is found again. -/
theorem findByUid?_of_some {uid : String} {u : User}
    (hu : x.data.users.findByUid? uid = some u) : x'.data.users.findByUid? uid = some u := by
  obtain ⟨new, hvalues, -⟩ := h.values_eq hc horderly htotal
  rw [Users.findByUid?] at hu
  rw [Users.findByUid?, hvalues, List.find?_append, hu, Option.some_or]

/-- A search that succeeds with this call gives the account that is stored. -/
theorem known_of_ok {u : User} (hu : x'.progress i = .done (.ok u)) :
    x.progress i = .done (.ok u) ∨ x'.data.users.findByUid? (ps i).id = some u := by
  have hvalues := h.values_eq hc horderly htotal
  cases h with
  | idle done => exact .inl hu
  | found waiting known =>
    rw [put_self] at hu
    cases hu
    exact .inr known
  | made absent unknown =>
    rw [put_self] at hu
    cases hu
    right
    have hlast := horderly.called.values_withNew hc htotal (ps i)
    rw [Users.findByUid?] at unknown
    simp only [put, Users.findByUid?, hlast, List.find?_append]
    rw [State.called, unknown, Option.none_or]
    simp [Scene.newUser]
  | missed | taken => rw [put_self] at hu; cases hu

theorem orderly (hfresh : DistinctBelow freshId total) : x'.data.Orderly freshId total := by
  cases h with
  | made absent unknown => exact horderly.called.withNew hc htotal hfresh unknown
  | idle done => exact horderly
  | _ => exact horderly.called

end

end Step

/-! ### All calls -/

/-- A race from some state is *sane* when the accounts of that state are still there, every other
account is the result of a search, and the results of the searches are what the store says.  A
search has missed the account of its profile, or failed, only if the profile had no account at
first, and then failed only because another search has made it. -/
structure Sane (freshId : Nat → Uuid) (total : Nat) (s : State) (x : Race n) : Prop where
  orderly : x.data.Orderly freshId total
  kept : ∀ u ∈ s.users.values, u ∈ x.data.users.values
  origin : ∀ u ∈ x.data.users.values, u ∈ s.users.values ∨ ∃ i, x.progress i = .done (.ok u)
  absent : ∀ i, x.progress i = .absent → s.users.findByUid? (ps i).id = none
  ok : ∀ i u, x.progress i = .done (.ok u) → x.data.users.findByUid? (ps i).id = some u
  error : ∀ i e, x.progress i = .done (.error e) →
    e = .during .createUser (.uidTaken (ps i).id) ∧ s.users.findByUid? (ps i).id = none ∧
      ∃ j u, (ps j).id = (ps i).id ∧ x.progress j = .done (.ok u)

section

variable {ps} {freshId : Nat → Uuid} {total : Nat} {s : State} {x : Race n}

theorem Sane.start (h : s.Orderly freshId total) : Sane ps freshId total s (start s) where
  orderly := h
  kept := fun _ hu => hu
  origin := fun _ hu => .inl hu
  absent := by rintro i ⟨⟩
  ok := by rintro i u ⟨⟩
  error := by rintro i e ⟨⟩

/-- A profile for which an account is missing had none at first. -/
theorem Sane.unknown (h : Sane ps freshId total s x) {uid : String}
    (hu : x.data.users.findByUid? uid = none) : s.users.findByUid? uid = none :=
  Users.findByUid?_eq_none_iff.2 fun u hmem =>
    Users.findByUid?_eq_none_iff.1 hu u (h.kept u hmem)

/-- An account that was not there at first is the result of a search for it. -/
theorem Sane.exists_ok (h : Sane ps freshId total s x) {uid : String} {u : User}
    (hfirst : s.users.findByUid? uid = none) (hu : x.data.users.findByUid? uid = some u) :
    ∃ j, (ps j).id = uid ∧ x.progress j = .done (.ok u) := by
  have huid := Users.uid_of_findByUid? hu
  rcases h.origin u (Users.mem_values_of_findByUid? hu) with hold | ⟨j, hj⟩
  · exact absurd huid (Users.findByUid?_eq_none_iff.1 hfirst u hold)
  · exact ⟨j, (Users.uid_of_findByUid? (h.ok j u hj)).symm.trans huid, hj⟩

variable (hfresh : DistinctBelow freshId total)

include hfresh

/-- A call keeps a race sane. -/
theorem Sane.step {c : Scene} (hc : c.Draws freshId) {i : Fin n} {x' : Race n}
    (h : Sane ps freshId total s x) (hstep : Step ps c i x x') (htotal : x'.data.drawn ≤ total) :
    Sane ps freshId total s x' := by
  obtain ⟨new, hvalues, hnew⟩ := hstep.values_eq hc h.orderly htotal
  refine ⟨hstep.orderly hc h.orderly htotal hfresh, fun u hu => ?_, fun u hu => ?_,
    fun j hj => ?_, fun j u hj => ?_, fun j e hj => ?_⟩
  · rw [hvalues]
    exact List.mem_append_left _ (h.kept u hu)
  · rw [hvalues, List.mem_append] at hu
    rcases hu with hu | hu
    · rcases h.origin u hu with hold | ⟨j, hj⟩
      · exact .inl hold
      · exact .inr ⟨j, hstep.progress_of_done hj⟩
    · exact .inr ⟨i, hnew u hu⟩
  · by_cases hji : j = i
    · subst hji
      exact h.unknown (hstep.unknown_of_absent hj)
    · exact h.absent j ((hstep.progress_of_ne hji).symm.trans hj)
  · have hbefore : x.progress j = .done (.ok u) ∨
        x'.data.users.findByUid? (ps j).id = some u := by
      by_cases hji : j = i
      · subst hji
        exact hstep.known_of_ok hc h.orderly htotal hj
      · exact .inl ((hstep.progress_of_ne hji).symm.trans hj)
    rcases hbefore with hbefore | hnow
    · exact hstep.findByUid?_of_some hc h.orderly htotal (h.ok j u hbefore)
    · exact hnow
  · have hbefore : x.progress j = .done (.error e) ∨ x.progress j = .absent ∧
        e = .during .createUser (.uidTaken (ps j).id) ∧
          ∃ u, x.data.users.findByUid? (ps j).id = some u := by
      by_cases hji : j = i
      · subst hji
        exact hstep.taken_of_error hj
      · exact .inl ((hstep.progress_of_ne hji).symm.trans hj)
    rcases hbefore with hbefore | ⟨habsent, he, u, hu⟩
    · obtain ⟨he, hfirst, k, u, hk, hok⟩ := h.error j e hbefore
      exact ⟨he, hfirst, k, u, hk, hstep.progress_of_done hok⟩
    · obtain ⟨k, hk, hok⟩ := h.exists_ok (h.absent j habsent) hu
      exact ⟨he, h.absent j habsent, k, u, hk, hstep.progress_of_done hok⟩

omit hfresh in
theorem drawn_le_run {moves : List (Scene × Fin n)}
    (hscenes : ∀ m ∈ moves, m.1.Draws freshId) (x : Race n) :
    x.data.drawn ≤ (run ps x moves).data.drawn := by
  induction moves generalizing x with
  | nil => exact Nat.le_refl _
  | cons m moves ih =>
    have hstep := step_spec ps (hscenes m List.mem_cons_self).inMemory m.2 x
    exact Nat.le_trans hstep.drawn_le
      (ih (fun m' hm' => hscenes m' (List.mem_cons_of_mem m hm')) _)

/-- A schedule keeps a race sane. -/
theorem Sane.run {moves : List (Scene × Fin n)} (hscenes : ∀ m ∈ moves, m.1.Draws freshId)
    (h : Sane ps freshId total s x) (htotal : (run ps x moves).data.drawn ≤ total) :
    Sane ps freshId total s (run ps x moves) := by
  induction moves generalizing x with
  | nil => exact h
  | cons m moves ih =>
    have hc := hscenes m List.mem_cons_self
    have hscenes' := fun m' hm' => hscenes m' (List.mem_cons_of_mem m hm')
    have hstep := step_spec ps hc.inMemory m.2 x
    have hdrawn : (Race.step ps x m).data.drawn ≤ total :=
      Nat.le_trans (drawn_le_run hscenes' _) htotal
    exact ih hscenes' (h.step hfresh hc hstep hdrawn) htotal

end

/-- Every call of a search brings it nearer to its end. -/
theorem remaining_run (x : Race n) (moves : List (Scene × Fin n)) (i : Fin n) :
    ((run ps x moves).progress i).remaining ≤
      (x.progress i).remaining - (moves.map Prod.snd).count i := by
  induction moves generalizing x with
  | nil => exact Nat.le_refl _
  | cons m moves ih =>
    have hrest := ih (step ps x m)
    rw [run_cons, List.map_cons, List.count_cons]
    by_cases hi : m.2 = i
    · subst hi
      have hnext := (x.progress m.2).remaining_next (ps m.2) m.1 x.data
      have hmoved : (step ps x m).progress m.2 =
          ((x.progress m.2).next (ps m.2) m.1 x.data).1 := put_self _ _ _ _
      rw [hmoved] at hrest
      rw [if_pos (beq_self_eq_true _)]
      omega
    · have hrested : (step ps x m).progress i = x.progress i := put_of_ne _ _ (Ne.symm hi) _
      rw [hrested] at hrest
      rw [if_neg (by simpa using hi)]
      exact hrest

/-- However the calls of concurrent searches are ordered, a search is over after two calls of its
own.  All searches for one profile that succeed give the same account.  A search fails only if the
profile had no account at first, and because another search for it has succeeded in making one.
When a search is over there is exactly one account for its profile, and no account was lost. -/
theorem one_account_each {freshId : Nat → Uuid} {s : State} (hreachable : s.Reachable freshId)
    (moves : List (Scene × Fin n)) (hscenes : ∀ m ∈ moves, m.1.Draws freshId)
    (hfresh : DistinctBelow freshId (run ps (start s) moves).data.drawn) :
    let x := run ps (start s) moves
    (∀ i, 2 ≤ (moves.map Prod.snd).count i → ∃ r, x.progress i = .done r) ∧
      (∀ i j u v, (ps i).id = (ps j).id → x.progress i = .done (.ok u) →
        x.progress j = .done (.ok v) → u = v) ∧
      (∀ i e, x.progress i = .done (.error e) →
        e = .during .createUser (.uidTaken (ps i).id) ∧ s.users.findByUid? (ps i).id = none ∧
          ∃ j u, (ps j).id = (ps i).id ∧ x.progress j = .done (.ok u)) ∧
      (∀ i u, x.progress i = .done (.ok u) → u ∈ x.data.users.values ∧ u.uid = (ps i).id) ∧
      (∀ i r, x.progress i = .done r →
        (x.data.users.values.map User.uid).count (ps i).id = 1) ∧
      ∀ u ∈ s.users.values, u ∈ x.data.users.values := by
  intro x
  have horderly : s.Orderly freshId x.data.drawn :=
    hreachable.orderly hfresh (drawn_le_run hscenes (start s))
  have hsane : Sane ps freshId x.data.drawn s x :=
    (Sane.start horderly).run hfresh hscenes (Nat.le_refl _)
  have hstored (i : Fin n) (u : User) (hu : x.progress i = .done (.ok u)) :
      u ∈ x.data.users.values ∧ u.uid = (ps i).id :=
    ⟨Users.mem_values_of_findByUid? (hsane.ok i u hu), Users.uid_of_findByUid? (hsane.ok i u hu)⟩
  refine ⟨fun i hi => ?_, fun i j u v hij hu hv => ?_, hsane.error, hstored, fun i r hr => ?_,
    hsane.kept⟩
  · have hremaining : (x.progress i).remaining ≤ 2 - (moves.map Prod.snd).count i :=
      remaining_run ps (start s) moves i
    exact Progress.exists_done (by omega)
  · have hsame := hsane.ok i u hu
    rw [hij, hsane.ok j v hv] at hsame
    exact (Option.some.inj hsame).symm
  · have hok : ∃ j u, (ps j).id = (ps i).id ∧ x.progress j = .done (.ok u) := by
      cases r with
      | ok u => exact ⟨i, u, rfl, hr⟩
      | error e => exact (hsane.error i e hr).2.2
    obtain ⟨j, u, hj, hu⟩ := hok
    obtain ⟨hmem, huid⟩ := hstored j u hu
    have huids : (ps i).id ∈ x.data.users.values.map User.uid :=
      List.mem_map.2 ⟨u, hmem, huid.trans hj⟩
    exact List.count_eq_one_of_mem hsane.orderly.uids_nodup huids

end Race

end Accounts

/-! ### Two searches for one account -/

namespace Sample

open Accounts

/-- Two searches for the account of one profile look it up before either makes it. -/
def rivals : List (Scene × Fin 2) :=
  [(memory, 0), (memory, 1), (memory, 0), (memory, 1)]

/-- How the rivals end. -/
def settled : Race 2 :=
  Race.run (fun _ => ⟨"1", "Ann"⟩) (Race.start .initial) rivals

theorem draws_rivals : ∀ m ∈ rivals, m.1.Draws supply := by
  have hmemory : ∀ m ∈ rivals, m.1 = memory := by simp [rivals]
  intro m hm
  rw [hmemory m hm]
  exact draws_memory

/-- One identifier is drawn for the rivals. -/
theorem distinctBelow_settled : DistinctBelow supply settled.data.drawn := by
  intro m n hm hn _
  have hone : settled.data.drawn = 1 := rfl
  omega

/-- There is one account for the rivals, and both are over. -/
theorem one_account_for_rivals :
    State.Reachable supply .initial ∧ (∀ m ∈ rivals, m.1.Draws supply) ∧
      DistinctBelow supply settled.data.drawn ∧
      (∀ i, ∃ r, settled.progress i = .done r) ∧
      (settled.data.users.values.map User.uid).count "1" = 1 := by
  obtain ⟨hdone, -, -, -, hone, -⟩ := Race.one_account_each (fun _ : Fin 2 => ⟨"1", "Ann"⟩)
    .initial rivals draws_rivals distinctBelow_settled
  have htwice : ∀ i : Fin 2, 2 ≤ (rivals.map Prod.snd).count i := by decide
  obtain ⟨r, hr⟩ := hdone 0 (htwice 0)
  exact ⟨.initial, draws_rivals, distinctBelow_settled, fun i => hdone i (htwice i), hone 0 r hr⟩

/-- The first of the rivals makes the account, and the second fails. -/
theorem second_taken :
    State.Reachable supply .initial ∧ (∀ m ∈ rivals, m.1.Draws supply) ∧
      DistinctBelow supply settled.data.drawn ∧
      (∃ u, settled.progress 0 = .done (.ok u)) ∧
      settled.progress 1 = .done (.error (.during .createUser (.uidTaken "1"))) :=
  ⟨.initial, draws_rivals, distinctBelow_settled, ⟨_, rfl⟩, rfl⟩

end Sample

end Daybook
