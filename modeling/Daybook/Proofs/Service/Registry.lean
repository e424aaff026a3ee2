import Daybook.Proofs.Store.Calls
import Mathlib.Data.List.Nodup

/-!
# The register of the accounts

The store of accounts in memory is a register.  A profile is entered when it comes up for the first
time, under the next identifier and with the name that it has then.  An entry is never changed or
struck out, and is found by its identifier as well as by that of its profile.

## Main definitions

* `UserCall`, `UserAnswer`, `UserCall.action` : the calls for accounts.
* `Registry.after` : the state after calls.
* `Registry.Appearance`, `Registry.appearances` : the profiles that came up, in order.
* `Registry.uids`, `Registry.idOf` : the profiles that are entered, and their identifiers.
* `Registry.account?` : the account that is entered for a profile.
* `Registry.Lists` : the accounts are those of a register.
* `Registry.Answers` : what a register answers to a call.

## Main results

* `Registry.Keeps.step`, `Registry.Keeps.after` : the store keeps the register.
* `Registry.entered_once` : every call is answered as by the register.
-/

namespace Daybook

/-! ### Calls -/

/-- A call for accounts. -/
inductive UserCall where
  | create (p : Profile)
  | get (id : Uuid)
  | findByUid (uid : String)
  | ofProfile (p : Profile)

/-- What a call for accounts is answered. -/
inductive UserAnswer where
  | account (u : User)
  | found (u : Option User)

namespace UserCall

/-- What is done at a call. -/
def action : UserCall → Action StoreError UserAnswer
  | create p => .account <$> Action.createUser p
  | get id => .found <$> Action.getUser id
  | findByUid uid => .found <$> Action.findUserByUid uid
  | ofProfile p => .account <$> Accounts.ofProfile p

variable {c : Scene} (hc : c.InMemory) (s : State) {p : Profile}

include hc

theorem action_get (id : Uuid) :
    (get id).action c s = ⟨.ok (.found (s.users.get? id)), s.called, []⟩ := by
  rw [action, Action.map_apply, Action.getUser_of_service (hc.users _)]
  rfl

theorem action_findByUid (uid : String) :
    (findByUid uid).action c s = ⟨.ok (.found (s.users.findByUid? uid)), s.called, []⟩ := by
  rw [action, Action.map_apply, Action.findUserByUid_of_service (hc.users _)]
  rfl

theorem action_create_of_found {u : User} (hu : s.users.findByUid? p.id = some u) :
    (create p).action c s = ⟨.error (.uidTaken p.id), s.called, []⟩ := by
  rw [action, Action.map_apply, Accounts.createUser_of_found (hc.users _) hu]
  rfl

theorem action_create_of_unknown (hu : s.users.findByUid? p.id = none) :
    (create p).action c s = ⟨.ok (.account (c.newUser s p)), s.called.withNew c p, []⟩ := by
  rw [action, Action.map_apply, Accounts.createUser_of_unknown (hc.users _) hu]
  rfl

theorem action_ofProfile_of_found {u : User} (hu : s.users.findByUid? p.id = some u) :
    (ofProfile p).action c s = ⟨.ok (.account u), s.called, []⟩ := by
  rw [action, Action.map_apply, Accounts.ofProfile_of_found (hc.users _) hu]
  rfl

theorem action_ofProfile_of_unknown (hu : s.users.findByUid? p.id = none) :
    (ofProfile p).action c s =
      ⟨.ok (.account (c.newUser s p)), s.called.called.withNew c p, []⟩ := by
  have hmake : Accounts.make p c s.called = _ :=
    Accounts.make_of_unknown (hc.users _) hu
  rw [action, Action.map_apply, Accounts.ofProfile_of_unknown (hc.users _) hu, hmake]
  rfl

theorem drawn_le_action (call : UserCall) : s.drawn ≤ (call.action c s).state.drawn := by
  cases call with
  | get id => rw [action_get hc]; exact Nat.le_refl _
  | findByUid uid => rw [action_findByUid hc]; exact Nat.le_refl _
  | create p =>
    cases hu : s.users.findByUid? p.id with
    | some u => rw [action_create_of_found hc s hu]; exact Nat.le_refl _
    | none => rw [action_create_of_unknown hc s hu]; exact Nat.le_succ _
  | ofProfile p =>
    cases hu : s.users.findByUid? p.id with
    | some u => rw [action_ofProfile_of_found hc s hu]; exact Nat.le_refl _
    | none => rw [action_ofProfile_of_unknown hc s hu]; exact Nat.le_succ _

end UserCall

namespace Registry

/-- The state after calls. -/
def after (s : State) (calls : List (Scene × UserCall)) : State :=
  calls.foldl (fun s x => (x.2.action x.1 s).state) s

theorem after_cons (s : State) (x : Scene × UserCall) (calls : List (Scene × UserCall)) :
    after s (x :: calls) = after (x.2.action x.1 s).state calls :=
  rfl

theorem after_append (s : State) (before later : List (Scene × UserCall)) :
    after s (before ++ later) = after (after s before) later :=
  List.foldl_append

theorem drawn_le_after {calls : List (Scene × UserCall)} (hscenes : ∀ x ∈ calls, x.1.InMemory)
    (s : State) : s.drawn ≤ (after s calls).drawn := by
  induction calls generalizing s with
  | nil => exact Nat.le_refl _
  | cons x calls ih =>
    exact Nat.le_trans (x.2.drawn_le_action (hscenes x List.mem_cons_self) s)
      (ih (fun y hy => hscenes y (List.mem_cons_of_mem x hy)) _)

/-! ### Appearances -/

/-- A profile that came up at a time. -/
structure Appearance where
  profile : Profile
  time : Instant

/-- The profile for which a call makes an account or looks for one. -/
def appearance? : Scene × UserCall → Option Appearance
  | (c, .create p) => some ⟨p, c.now⟩
  | (c, .ofProfile p) => some ⟨p, c.now⟩
  | _ => none

/-- The profiles that came up in calls, in order. -/
def appearances (calls : List (Scene × UserCall)) : List Appearance :=
  calls.filterMap appearance?

theorem appearances_append (calls calls' : List (Scene × UserCall)) :
    appearances (calls ++ calls') = appearances calls ++ appearances calls' :=
  List.filterMap_append

/-- The identifiers of the profiles that came up, each once, in the order in which they came up
first. -/
def uids (seen : List Appearance) : List String :=
  (seen.map fun a => a.profile.id).eraseDups

/-- The first appearance of a profile. -/
def first? (seen : List Appearance) (uid : String) : Option Appearance :=
  seen.find? fun a => a.profile.id == uid

/-- The identifier of the account for a profile, when each profile draws one at its first
appearance. -/
def idOf (freshId : Nat → Uuid) (seen : List Appearance) (uid : String) : Uuid :=
  freshId ((uids seen).idxOf uid)

/-- The account that is entered for a profile: it has the name and the time of the first
appearance. -/
def account? (ids : String → Uuid) (seen : List Appearance) (uid : String) : Option User :=
  (first? seen uid).map fun a => ⟨ids uid, uid, a.profile.name, a.time⟩

section

variable (seen seen' : List Appearance) (a : Appearance)

theorem mem_uids_iff (uid : String) : uid ∈ uids seen ↔ ∃ a ∈ seen, a.profile.id = uid := by
  rw [uids, List.mem_eraseDups, List.mem_map]

/-- Later appearances do not change the order of the first ones. -/
theorem uids_isPrefix_append : uids seen <+: uids (seen ++ seen') := by
  rw [uids, uids, List.map_append, List.eraseDups_append]
  exact List.prefix_append _ _

theorem uids_append_singleton :
    uids (seen ++ [a]) =
      if a.profile.id ∈ uids seen then uids seen else uids seen ++ [a.profile.id] := by
  have hmem : a.profile.id ∈ uids seen ↔ a.profile.id ∈ seen.map fun a => a.profile.id :=
    List.mem_eraseDups
  have hrest : uids (seen ++ [a]) =
      uids seen ++ ([a.profile.id].removeAll (seen.map fun a => a.profile.id)).eraseDups := by
    rw [uids, List.map_append, List.eraseDups_append, List.map_singleton, uids]
  rw [hrest]
  by_cases h : a.profile.id ∈ seen.map fun a => a.profile.id
  · rw [if_pos (hmem.2 h), List.removeAll, List.filter_cons_of_neg (by simpa using h)]
    exact List.append_nil _
  · rw [if_neg (mt hmem.1 h), List.removeAll, List.filter_cons_of_pos (by simpa using h)]
    rfl

variable (ids : String → Uuid) (uid : String)

/-- A profile that came up before is not entered again. -/
theorem account?_append :
    account? ids (seen ++ seen') uid = (account? ids seen uid).or (account? ids seen' uid) := by
  simp only [account?, first?, List.find?_append, Option.map_or]

theorem account?_singleton :
    account? ids [a] uid =
      if a.profile.id = uid then some ⟨ids uid, uid, a.profile.name, a.time⟩ else none := by
  rw [account?, first?, List.find?_singleton]
  simp only [beq_iff_eq]
  split_ifs <;> rfl

theorem account?_eq_none_iff : account? ids seen uid = none ↔ uid ∉ uids seen := by
  simp [account?, first?, mem_uids_iff]

variable {seen ids uid}

theorem account?_of_isPrefix {u : User} (h : account? ids seen uid = some u)
    (hinitial : seen <+: seen') : account? ids seen' uid = some u := by
  obtain ⟨rest, rfl⟩ := hinitial
  rw [account?_append, h, Option.some_or]

end

/-! ### The register -/

/-- The accounts are those of a *register* of the profiles that came up: each stands under its own
identifier, no two are for one profile, and there is one for every profile.  Both ways to find an
account agree, in whatever order the accounts are kept. -/
structure Lists (ids : String → Uuid) (seen : List Appearance) (us : Users) : Prop where
  filed : us.Filed
  uids_nodup : (us.values.map User.uid).Nodup
  findByUid?_eq : ∀ uid, us.findByUid? uid = account? ids seen uid
  get?_iff : ∀ u, us.get? u.id = some u ↔ us.findByUid? u.uid = some u
  any_order : ∀ order : List User, order.Perm us.values → ∀ uid,
    order.find? (fun u => u.uid == uid) = us.findByUid? uid
  count_eq : us.count = (uids seen).length

/-- What a register answers to a call, when some profiles have come up before, and the accounts
afterwards.  A profile is given the account that is entered for it at its first appearance among
all, and is refused another; nothing is changed by a refusal or by a search. -/
inductive Answers (ids : String → Uuid) (all before : List Appearance) (us : Users) :
    UserCall → Except StoreError UserAnswer → Users → Prop
  | created {p : Profile} {u : User} {us' : Users} (new : account? ids before p.id = none)
      (entered : account? ids all p.id = some u) :
      Answers ids all before us (.create p) (.ok (.account u)) us'
  | refused {p : Profile} {u : User} (known : account? ids before p.id = some u) :
      Answers ids all before us (.create p) (.error (.uidTaken p.id)) us
  | got {id : Uuid} {found : Option User}
      (under : ∀ u, found = some u ↔ u.id = id ∧ account? ids before u.uid = some u) :
      Answers ids all before us (.get id) (.ok (.found found)) us
  | found (uid : String) :
      Answers ids all before us (.findByUid uid) (.ok (.found (account? ids before uid))) us
  | known {p : Profile} {u : User} (old : account? ids before p.id ≠ none)
      (entered : account? ids all p.id = some u) :
      Answers ids all before us (.ofProfile p) (.ok (.account u)) us
  | entered {p : Profile} {u : User} {us' : Users} (new : account? ids before p.id = none)
      (entered : account? ids all p.id = some u) :
      Answers ids all before us (.ofProfile p) (.ok (.account u)) us'

/-- The store *keeps* a register when the accounts are entered in its order, and an identifier was
drawn for each. -/
structure Keeps (ids : String → Uuid) (seen : List Appearance) (s : State) : Prop where
  filed : s.users.Filed
  uids_eq : s.users.values.map User.uid = uids seen
  findByUid?_eq : ∀ uid, s.users.findByUid? uid = account? ids seen uid
  drawn : s.drawn = (uids seen).length

section

variable {ids : String → Uuid} {seen : List Appearance} {s : State}

/-- Among accounts for different profiles, the one for a profile is found in any order. -/
theorem find?_uid_eq_some_iff {us : List User} (h : (us.map User.uid).Nodup) {uid : String}
    {u : User} : us.find? (fun v => v.uid == uid) = some u ↔ u ∈ us ∧ u.uid = uid := by
  constructor
  · intro hu
    exact ⟨List.mem_of_find?_eq_some hu, by simpa using List.find?_some hu⟩
  · rintro ⟨hmem, rfl⟩
    obtain ⟨v, hv⟩ := Option.isSome_iff_exists.1
      (List.find?_isSome (p := fun v => v.uid == u.uid) |>.2 ⟨u, hmem, beq_self_eq_true u.uid⟩)
    have huid : v.uid = u.uid := by simpa using List.find?_some hv
    rw [hv, List.inj_on_of_nodup_map h (List.mem_of_find?_eq_some hv) hmem huid]

/-- The accounts of a store that keeps a register are those of the register. -/
theorem Keeps.lists (h : Keeps ids seen s) (hnodup : (s.users.values.map User.uid).Nodup) :
    Lists ids seen s.users where
  filed := h.filed
  uids_nodup := hnodup
  findByUid?_eq := h.findByUid?_eq
  get?_iff := fun u => by
    rw [Users.findByUid?, find?_uid_eq_some_iff hnodup, Table.mem_values_iff]
    constructor
    · exact fun hu => ⟨⟨u.id, hu⟩, rfl⟩
    · rintro ⟨⟨id, hu⟩, -⟩
      rwa [h.filed id u hu]
  any_order := fun order hperm uid => by
    have horder : (order.map User.uid).Nodup := (hperm.map _).nodup_iff.2 hnodup
    refine Option.ext fun u => ?_
    rw [Users.findByUid?, find?_uid_eq_some_iff horder, find?_uid_eq_some_iff hnodup, hperm.mem_iff]
  count_eq := by rw [Users.count, ← h.uids_eq, List.length_map]

/-- What is found under an identifier is the account of the register with that identifier. -/
theorem Lists.get?_eq_some_iff {us : Users} (h : Lists ids seen us) (id : Uuid) (u : User) :
    us.get? id = some u ↔ u.id = id ∧ account? ids seen u.uid = some u := by
  rw [← h.findByUid?_eq, ← h.get?_iff]
  constructor
  · intro hu
    obtain rfl := h.filed id u hu
    exact ⟨rfl, hu⟩
  · rintro ⟨rfl, hu⟩
    exact hu

/-- An account that is listed stays as it is when more profiles come up. -/
theorem Lists.get?_of_isPrefix {us us' : Users} {seen' : List Appearance} (h : Lists ids seen us)
    (h' : Lists ids seen' us') (hinitial : seen <+: seen') {id : Uuid} {u : User}
    (hu : us.get? id = some u) : us'.get? id = some u := by
  obtain ⟨hid, haccount⟩ := (h.get?_eq_some_iff id u).1 hu
  exact (h'.get?_eq_some_iff id u).2 ⟨hid, account?_of_isPrefix seen' haccount hinitial⟩

theorem Keeps.initial : Keeps ids [] .initial :=
  ⟨Users.filed_empty, rfl, fun _ => rfl, rfl⟩

theorem Keeps.called (h : Keeps ids seen s) : Keeps ids seen s.called :=
  ⟨h.filed, h.uids_eq, h.findByUid?_eq, h.drawn⟩

/-- Nothing is entered for a profile that came up before. -/
theorem Keeps.known (h : Keeps ids seen s) {a : Appearance} {u : User}
    (hu : account? ids seen a.profile.id = some u) : Keeps ids (seen ++ [a]) s := by
  have hmem : a.profile.id ∈ uids seen := by
    refine Classical.byContradiction fun hnot => ?_
    rw [(account?_eq_none_iff seen ids _).2 hnot] at hu
    cases hu
  have huids : uids (seen ++ [a]) = uids seen :=
    (uids_append_singleton seen a).trans (if_pos hmem)
  refine ⟨h.filed, by rw [huids, h.uids_eq], fun uid => ?_, by rw [huids, h.drawn]⟩
  rw [h.findByUid?_eq, account?_append, account?_singleton]
  split_ifs with huid
  · rw [← huid, hu, Option.some_or]
  · rw [Option.or_none]

end

/-! ### One call -/

section

variable {freshId : Nat → Uuid} {total : Nat} {all seen : List Appearance} {s : State} {c : Scene}
  (hc : c.Draws freshId)

include hc

/-- The account that is made for a new profile has the identifier of its place. -/
theorem Keeps.newUser_eq (h : Keeps (idOf freshId all) seen s) {p : Profile}
    (hfirst : p.id ∉ uids seen) (hall : seen ++ [⟨p, c.now⟩] <+: all) :
    c.newUser s p = ⟨idOf freshId all p.id, p.id, p.name, c.now⟩ := by
  obtain ⟨rest, rfl⟩ := hall
  obtain ⟨later, hlater⟩ := uids_isPrefix_append (seen ++ [⟨p, c.now⟩]) rest
  have huids : uids (seen ++ [⟨p, c.now⟩]) = uids seen ++ [p.id] :=
    (uids_append_singleton seen _).trans (if_neg hfirst)
  have hindex : (uids (seen ++ [⟨p, c.now⟩] ++ rest)).idxOf p.id = s.drawn := by
    rw [← hlater, huids, List.append_assoc, List.idxOf_append, if_neg hfirst, h.drawn]
    simp
  rw [idOf, hindex, Scene.newUser, hc.supply]

/-- A new profile is entered last, under the next identifier. -/
theorem Keeps.withNew (h : Keeps (idOf freshId all) seen s) (horderly : s.Orderly freshId total)
    (hlt : s.drawn < total) {p : Profile} (hnew : account? (idOf freshId all) seen p.id = none)
    (hall : seen ++ [⟨p, c.now⟩] <+: all) :
    Keeps (idOf freshId all) (seen ++ [⟨p, c.now⟩]) (s.withNew c p) := by
  have hfirst : p.id ∉ uids seen := (account?_eq_none_iff seen _ _).1 hnew
  have hunknown : s.users.findByUid? p.id = none := (h.findByUid?_eq p.id).trans hnew
  have hvalues := horderly.values_withNew hc hlt p
  have huids : uids (seen ++ [⟨p, c.now⟩]) = uids seen ++ [p.id] :=
    (uids_append_singleton seen _).trans (if_neg hfirst)
  refine ⟨h.filed.create (Users.create_of_unknown hunknown _ _), ?_, fun uid => ?_, ?_⟩
  · rw [hvalues, List.map_append, h.uids_eq, huids]
    rfl
  · rw [Users.findByUid?, hvalues, List.find?_append, account?_append, account?_singleton,
      ← h.findByUid?_eq, Users.findByUid?, List.find?_singleton, h.newUser_eq hc hfirst hall]
    by_cases huid : p.id = uid
    · simp [huid]
    · simp [huid]
  · rw [huids, List.length_append, List.length_singleton, ← h.drawn]
    rfl

/-- Every call is answered as by the register, and the store keeps the register. -/
theorem Keeps.step (hfresh : DistinctBelow freshId total)
    (h : Keeps (idOf freshId all) seen s) (horderly : s.Orderly freshId total) (call : UserCall)
    (hall : seen ++ appearances [(c, call)] <+: all)
    (htotal : (call.action c s).state.drawn ≤ total) :
    Answers (idOf freshId all) all seen s.users call (call.action c s).result
        (call.action c s).state.users ∧
      Keeps (idOf freshId all) (seen ++ appearances [(c, call)]) (call.action c s).state ∧
      (call.action c s).state.Orderly freshId total := by
  have hsame : Keeps (idOf freshId all) (seen ++ []) s.called :=
    (List.append_nil seen).symm ▸ h.called
  have hentered {p : Profile} (hnew : account? (idOf freshId all) seen p.id = none)
      (hall : seen ++ [⟨p, c.now⟩] <+: all) :
      account? (idOf freshId all) all p.id = some (c.newUser s p) := by
    refine account?_of_isPrefix all ?_ hall
    rw [account?_append, hnew, Option.none_or, account?_singleton, if_pos rfl,
      h.newUser_eq hc ((account?_eq_none_iff seen _ _).1 hnew) hall]
  cases call with
  | get id =>
    rw [UserCall.action_get hc.inMemory]
    have hlists := h.lists horderly.uids_nodup
    exact ⟨.got fun u => hlists.get?_eq_some_iff id u, hsame, horderly.called⟩
  | findByUid uid =>
    rw [UserCall.action_findByUid hc.inMemory, h.findByUid?_eq]
    exact ⟨.found uid, hsame, horderly.called⟩
  | create p =>
    cases hu : account? (idOf freshId all) seen p.id with
    | some u =>
      rw [UserCall.action_create_of_found hc.inMemory s ((h.findByUid?_eq p.id).trans hu)]
      exact ⟨.refused hu, h.called.known hu, horderly.called⟩
    | none =>
      have hunknown := (h.findByUid?_eq p.id).trans hu
      rw [UserCall.action_create_of_unknown hc.inMemory s hunknown] at htotal ⊢
      exact ⟨.created hu (hentered hu hall), h.called.withNew hc horderly.called htotal hu hall,
        horderly.called.withNew hc htotal hfresh hunknown⟩
  | ofProfile p =>
    cases hu : account? (idOf freshId all) seen p.id with
    | some u =>
      rw [UserCall.action_ofProfile_of_found hc.inMemory s ((h.findByUid?_eq p.id).trans hu)]
      have hold : account? (idOf freshId all) seen p.id ≠ none := by simp [hu]
      exact ⟨.known hold (account?_of_isPrefix all hu ((List.prefix_append _ _).trans hall)),
        h.called.known hu, horderly.called⟩
    | none =>
      have hunknown := (h.findByUid?_eq p.id).trans hu
      rw [UserCall.action_ofProfile_of_unknown hc.inMemory s hunknown] at htotal ⊢
      exact ⟨.entered hu (hentered hu hall),
        h.called.called.withNew hc horderly.called.called htotal hu hall,
        horderly.called.called.withNew hc htotal hfresh hunknown⟩

end

/-! ### All calls -/

/-- The store keeps the register of all calls. -/
theorem Keeps.after {freshId : Nat → Uuid} {total : Nat} (hfresh : DistinctBelow freshId total)
    {all seen : List Appearance} {s : State} {calls : List (Scene × UserCall)}
    (hscenes : ∀ x ∈ calls, x.1.Draws freshId) (h : Keeps (idOf freshId all) seen s)
    (horderly : s.Orderly freshId total) (hall : seen ++ appearances calls <+: all)
    (htotal : (after s calls).drawn ≤ total) :
    Keeps (idOf freshId all) (seen ++ appearances calls) (after s calls) ∧
      (after s calls).Orderly freshId total := by
  induction calls generalizing seen s with
  | nil => exact ⟨(List.append_nil seen).symm ▸ h, horderly⟩
  | cons x calls ih =>
    have hsplit : seen ++ appearances (x :: calls) =
        seen ++ appearances [x] ++ appearances calls := by
      rw [List.append_assoc, ← appearances_append]
      rfl
    have hscenes' := fun y hy => hscenes y (List.mem_cons_of_mem x hy)
    rw [hsplit] at hall ⊢
    rw [after_cons] at htotal ⊢
    obtain ⟨-, hkeeps, horderly'⟩ := h.step (hscenes x List.mem_cons_self) hfresh horderly x.2
      ((List.prefix_append _ _).trans hall)
      (Nat.le_trans (drawn_le_after (fun y hy => (hscenes' y hy).inMemory) _) htotal)
    exact ih hscenes' hkeeps horderly' hall htotal

/-- An account is refused to the profiles that have one. -/
theorem Answers.error_iff {ids : String → Uuid} {all before : List Appearance} {us us' : Users}
    {p : Profile} {result : Except StoreError UserAnswer}
    (h : Answers ids all before us (.create p) result us') (hlists : Lists ids before us) :
    (∃ e, result = .error e) ↔ ∃ u ∈ us.values, u.uid = p.id := by
  cases h with
  | created new _ =>
    rw [← hlists.findByUid?_eq, Users.findByUid?_eq_none_iff] at new
    refine ⟨?_, fun ⟨u, hu, huid⟩ => absurd huid (new u hu)⟩
    rintro ⟨e, ⟨⟩⟩
  | @refused _ u known =>
    rw [← hlists.findByUid?_eq] at known
    exact ⟨fun _ => ⟨u, Users.mem_values_of_findByUid? known, Users.uid_of_findByUid? known⟩,
      fun _ => ⟨_, rfl⟩⟩

/-- In a history of calls that begins with an empty store, every profile is entered once.  At any
point of the history the accounts are those of the register of the profiles that came up before: an
account has the name that its profile had at first, and different profiles have different
identifiers.  An account that is there stays as it is.  Every call is answered as by the register,
so that a search for the account of a profile gives the same account at all times; and an account
is refused exactly to the profiles that have one. -/
theorem entered_once {freshId : Nat → Uuid} (calls : List (Scene × UserCall))
    (hscenes : ∀ x ∈ calls, x.1.Draws freshId)
    (hfresh : DistinctBelow freshId (after .initial calls).drawn) :
    let all := appearances calls
    let ids := idOf freshId all
    (∀ uid ∈ uids all, ∀ uid' ∈ uids all, ids uid = ids uid' → uid = uid') ∧
      ∀ before later, calls = before ++ later →
        let s := after .initial before
        Lists ids (appearances before) s.users ∧
          (∀ id u, s.users.get? id = some u → (after .initial calls).users.get? id = some u) ∧
          ∀ c call rest, later = (c, call) :: rest →
            let o := call.action c s
            Answers ids all (appearances before) s.users call o.result o.state.users ∧
              ∀ p, call = .create p →
                ((∃ e, o.result = .error e) ↔ ∃ u ∈ s.users.values, u.uid = p.id) := by
  intro all ids
  have hlater {before later : List (Scene × UserCall)} (hcalls : calls = before ++ later) :
      (∀ x ∈ before, x.1.Draws freshId) ∧ (∀ x ∈ later, x.1.Draws freshId) :=
    ⟨fun x hx => hscenes x (hcalls ▸ List.mem_append_left _ hx),
      fun x hx => hscenes x (hcalls ▸ List.mem_append_right _ hx)⟩
  have hinitial {before later : List (Scene × UserCall)} (hcalls : calls = before ++ later) :
      appearances before <+: all := by
    rw [show all = appearances before ++ appearances later from
      (congrArg appearances hcalls).trans (appearances_append _ _)]
    exact List.prefix_append _ _
  have hdrawn {before later : List (Scene × UserCall)} (hcalls : calls = before ++ later) :
      (after .initial before).drawn ≤ (after .initial calls).drawn := by
    rw [hcalls, after_append]
    exact drawn_le_after (fun x hx => ((hlater hcalls).2 x hx).inMemory) _
  -- the register of the first calls, with the identifiers of the whole history
  have hkept {before later : List (Scene × UserCall)} (hcalls : calls = before ++ later) :
      Keeps ids (appearances before) (after .initial before) ∧
        (after .initial before).Orderly freshId (after .initial calls).drawn :=
    Keeps.initial.after hfresh (hlater hcalls).1 .initial (hinitial hcalls) (hdrawn hcalls)
  obtain ⟨hall, horderly⟩ := hkept (List.append_nil calls).symm
  refine ⟨fun uid huid uid' huid' hsame => ?_, fun before later hcalls => ?_⟩
  · have hindex {uid : String} (huid : uid ∈ uids all) :
        (uids all).idxOf uid < (after .initial calls).drawn := by
      rw [hall.drawn]
      exact List.idxOf_lt_length_iff.2 huid
    exact (List.idxOf_inj huid).1 (hfresh _ _ (hindex huid) (hindex huid') hsame)
  · obtain ⟨hbefore, horderly'⟩ := hkept hcalls
    have hlists := hbefore.lists horderly'.uids_nodup
    refine ⟨hlists, fun id u hu => hlists.get?_of_isPrefix (hall.lists horderly.uids_nodup)
      (hinitial hcalls) hu, ?_⟩
    rintro c call rest rfl
    have hcall : calls = before ++ [(c, call)] ++ rest := by rw [hcalls, List.append_cons]
    have hseen := hinitial hcall
    have htotal := hdrawn hcall
    rw [appearances_append] at hseen
    rw [after_append] at htotal
    obtain ⟨hanswers, -⟩ := hbefore.step ((hlater hcalls).2 _ List.mem_cons_self) hfresh
      horderly' call hseen htotal
    refine ⟨hanswers, ?_⟩
    rintro p rfl
    exact hanswers.error_iff hlists

end Registry

/-! ### A profile changes its name -/

namespace Sample

/-- A profile comes up again with another name, and is looked for once more. -/
def renamed : List (Scene × UserCall) :=
  [(memory, .ofProfile ⟨"1", "Ann"⟩), (memory, .create ⟨"1", "Annie"⟩),
   (memory, .ofProfile ⟨"1", "Annie"⟩)]

/-- The account keeps the name that the profile had at first. -/
theorem name_kept :
    (∀ x ∈ renamed, x.1.Draws supply) ∧
      DistinctBelow supply (Registry.after .initial renamed).drawn ∧
      ((UserCall.ofProfile ⟨"1", "Annie"⟩).action memory
          (Registry.after .initial (renamed.take 2))).result =
        .ok (.account ⟨supply 0, "1", "Ann", memory.now⟩) := by
  have hscenes : ∀ x ∈ renamed, x.1.Draws supply := by
    have hmemory : ∀ x ∈ renamed, x.1 = memory := by simp [renamed]
    intro x hx
    rw [hmemory x hx]
    exact draws_memory
  have hfresh : DistinctBelow supply (Registry.after .initial renamed).drawn := by
    intro m n hm hn _
    have hone : (Registry.after .initial renamed).drawn = 1 := by decide
    omega
  obtain ⟨-, hanswers⟩ := Registry.entered_once renamed hscenes hfresh
  obtain ⟨-, -, hcalls⟩ := hanswers (renamed.take 2) (renamed.drop 2) rfl
  obtain ⟨hanswer, -⟩ := hcalls memory _ [] rfl
  have haccount : Registry.account? (Registry.idOf supply (Registry.appearances renamed))
      (Registry.appearances renamed) "1" = some ⟨supply 0, "1", "Ann", memory.now⟩ := by
    decide
  refine ⟨hscenes, hfresh, ?_⟩
  generalize ((UserCall.ofProfile ⟨"1", "Annie"⟩).action memory
    (Registry.after .initial (renamed.take 2))).result = result at hanswer ⊢
  cases hanswer with
  | known _ entered | entered _ entered =>
    obtain rfl := Option.some.inj (entered.symm.trans haccount)
    rfl

end Sample

end Daybook
