import Daybook.Proofs.Site.History

/-!
# Users see only their own journal

Take two states that hold the same accounts and, for one user, the same entries, while those of all
others are arbitrary.  An action *sees only* that user when it ends in the same way in both, and
leaves states of the same kind.  All pages see only the user who is logged in, so the others'
journals cannot be read off any response, and they are not touched.

## Main definitions

* `Entries.AgreeFor`, `State.AgreeFor` : the same entries for a user.
* `Action.SeesOnly` : the actions that depend on the entries of one user only.

## Main results

* `Entries.agreeFor_iff_of_filed` : for filed entries, agreement is that of the user's days.
* `Site.seesOnly_pageAction` : what is done for any page sees only its user.
* `Site.respond_isolated` : responses do not depend on others' entries, and do not change them.
-/

namespace Daybook

/-! ### Agreement for a user -/

namespace Entries

/-- The same entries for a user: those that stand under the user, and those that name the user. -/
def AgreeFor (user : Uuid) (es₁ es₂ : Entries) : Prop :=
  ∀ k e, k.1 = user ∨ e.userId = user → (es₁.get? k = some e ↔ es₂.get? k = some e)

/-- Filed entries agree for a user when they agree on each of the user's days. -/
theorem agreeFor_iff_of_filed {user : Uuid} {es₁ es₂ : Entries} (h₁ : es₁.Filed)
    (h₂ : es₂.Filed) :
    es₁.AgreeFor user es₂ ↔ ∀ date, es₁.find? user date = es₂.find? user date := by
  constructor
  · intro h date
    exact Option.ext fun e => h (user, date) e (.inl rfl)
  · rintro h ⟨user', date⟩ e hk
    have huser (es : Entries) (hf : es.Filed) (he : es.get? (user', date) = some e) :
        user' = user := by
      rcases hk with hk | hk
      · exact hk
      · exact (congrArg Prod.fst (hf _ e he)).symm.trans hk
    constructor
    · intro he
      obtain rfl := huser es₁ h₁ he
      exact (h date).symm.trans he
    · intro he
      obtain rfl := huser es₂ h₂ he
      exact (h date).trans he

/-- What one user writes, the others do not see. -/
theorem Filed.agreeFor_upsert {es : Entries} {user other : Uuid} (h : es.Filed)
    (hne : other ≠ user) (id : Uuid) (now : Instant) (date body : String) :
    es.AgreeFor user (es.upsert id now other date body).2 := by
  rw [agreeFor_iff_of_filed h (h.upsert id now other date body)]
  intro date'
  have hk : (user, date') ≠ (other, date) := fun hk => hne (congrArg Prod.fst hk).symm
  exact ((get?_upsert id now other date body (user, date')).trans (if_neg hk)).symm

namespace AgreeFor

variable {user : Uuid} {es₁ es₂ : Entries}

theorem find?_eq (h : es₁.AgreeFor user es₂) (date : String) :
    es₁.find? user date = es₂.find? user date :=
  Option.ext fun e => h (user, date) e (.inl rfl)

/-- The same text put for the user gives the same entry, and agreement again. -/
theorem upsert (h : es₁.AgreeFor user es₂) (id : Uuid) (now : Instant) (date body : String) :
    (es₁.upsert id now user date body).1 = (es₂.upsert id now user date body).1 ∧
      (es₁.upsert id now user date body).2.AgreeFor user (es₂.upsert id now user date body).2 := by
  have hentry :
      (es₁.upsert id now user date body).1 = (es₂.upsert id now user date body).1 := by
    simp only [Entries.upsert, h.find?_eq date]
  refine ⟨hentry, fun k e hk => ?_⟩
  rw [get?_upsert, get?_upsert, hentry]
  split_ifs
  · exact Iff.rfl
  · exact h k e hk

/-- The user's entries between two dates are those of the same days. -/
theorem mem_dates_inRange_iff (h : es₁.AgreeFor user es₂) (first last : Option String)
    (date : String) :
    date ∈ (es₁.inRange user first last).map Entry.date ↔
      date ∈ (es₂.inRange user first last).map Entry.date := by
  have hmem (e : Entry) (hu : e.userId = user) : e ∈ es₁.values ↔ e ∈ es₂.values := by
    rw [Table.mem_values_iff, Table.mem_values_iff]
    exact exists_congr fun k => h k e (.inr hu)
  simp only [inRange, List.mem_map, List.mem_mergeSort, List.mem_filter, Bool.and_eq_true,
    beq_iff_eq]
  constructor
  · rintro ⟨e, ⟨he, hu, hw⟩, hd⟩
    exact ⟨e, ⟨(hmem e hu).1 he, hu, hw⟩, hd⟩
  · rintro ⟨e, ⟨he, hu, hw⟩, hd⟩
    exact ⟨e, ⟨(hmem e hu).2 he, hu, hw⟩, hd⟩

end AgreeFor

end Entries

/-- The same accounts, the same identifiers to be drawn, and the same entries for a user. -/
structure State.AgreeFor (user : Uuid) (s₁ s₂ : State) : Prop where
  users : s₁.users = s₂.users
  drawn : s₁.drawn = s₂.drawn
  entries : s₁.entries.AgreeFor user s₂.entries

theorem State.AgreeFor.called {user : Uuid} {s₁ s₂ : State} (h : s₁.AgreeFor user s₂) :
    s₁.called.AgreeFor user s₂.called :=
  ⟨h.users, h.drawn, h.entries⟩

/-! ### Actions that see only one user -/

namespace Action

variable {ε ε' α β : Type} {c : Scene} {user : Uuid}

/-- An action *sees only* a user when, from states that agree for the user, it ends in the same way,
asks the same addresses, and leaves states that agree for the user. -/
def SeesOnly (c : Scene) (user : Uuid) (x : Action ε α) : Prop :=
  ∀ s₁ s₂ : State, s₁.AgreeFor user s₂ →
    (x c s₁).result = (x c s₂).result ∧ (x c s₁).asked = (x c s₂).asked ∧
      (x c s₁).state.AgreeFor user (x c s₂).state

namespace SeesOnly

theorem pure (a : α) : SeesOnly c user (Pure.pure a : Action ε α) :=
  fun _ _ h => ⟨rfl, rfl, h⟩

theorem fail (e : ε) : SeesOnly c user (Action.fail e : Action ε α) :=
  fun _ _ h => ⟨rfl, rfl, h⟩

theorem ofExcept (r : Except ε α) : SeesOnly c user (Action.ofExcept r) :=
  fun _ _ h => ⟨rfl, rfl, h⟩

theorem now : SeesOnly c user (Action.now : Action ε Instant) :=
  fun _ _ h => ⟨rfl, rfl, h⟩

theorem drawId : SeesOnly c user (Action.drawId : Action ε Uuid) := by
  intro s₁ s₂ h
  refine ⟨?_, rfl, h.users, ?_, h.entries⟩
  · simp only [Action.drawId, h.drawn]
  · simp only [Action.drawId, h.drawn]

theorem bind {x : Action ε α} {f : α → Action ε β} (hx : SeesOnly c user x)
    (hf : ∀ a, SeesOnly c user (f a)) : SeesOnly c user (x >>= f) := by
  intro s₁ s₂ h
  obtain ⟨hresult, hasked, hstate⟩ := hx s₁ s₂ h
  cases hr : (x c s₁).result with
  | error e =>
    rw [bind_of_error hr, bind_of_error (hresult ▸ hr)]
    exact ⟨rfl, hasked, hstate⟩
  | ok a =>
    obtain ⟨hresult', hasked', hstate'⟩ := hf a _ _ hstate
    rw [bind_of_ok hr, bind_of_ok (hresult ▸ hr)]
    exact ⟨hresult', by rw [hasked, hasked'], hstate'⟩

theorem mapError {x : Action ε α} (hx : SeesOnly c user x) (f : ε → ε') :
    SeesOnly c user (x.mapError f) := by
  intro s₁ s₂ h
  obtain ⟨hresult, hasked, hstate⟩ := hx s₁ s₂ h
  exact ⟨congrArg (Except.mapError f) hresult, hasked, hstate⟩

theorem during {x : Action StoreError α} (hx : SeesOnly c user x) (task : StoreTask) :
    SeesOnly c user (x.during task) :=
  hx.mapError _

theorem call {x : Action StoreError α} {outage : Scene → Nat → Option String}
    (hout : ∀ n, outage c n = none) (hx : SeesOnly c user x) :
    SeesOnly c user (Action.call outage x) := by
  intro s₁ s₂ h
  simp only [Action.call, hout]
  exact hx _ _ h.called

theorem getEntry (hc : c.InMemory) (date : String) : SeesOnly c user (Action.getEntry user date) :=
  call hc.entries fun _ _ h => ⟨congrArg Except.ok (h.entries.find?_eq date), rfl, h⟩

theorem upsertEntry (hc : c.InMemory) (date body : String) :
    SeesOnly c user (Action.upsertEntry user date body) := by
  refine call hc.entries fun s₁ s₂ h => ?_
  obtain ⟨hentry, hentries⟩ := h.entries.upsert (c.freshId s₁.drawn) c.now date body
  rw [h.drawn] at hentry hentries
  have hnew : s₁.entries.isNew user date = s₂.entries.isNew user date := by
    rw [Entries.isNew, Entries.isNew, h.entries.find?_eq date]
  refine ⟨?_, rfl, h.users, ?_, ?_⟩
  · simp only [h.drawn, hentry]
  · simp only [hnew, h.drawn]
  · simpa only [h.drawn] using hentries

end SeesOnly

end Action

open Daybook.Action (SeesOnly)

/-! ### The journal -/

namespace Journal

variable {c : Scene} {user : Uuid}

theorem marksOf_congr {written written' : List String} (h : ∀ d, d ∈ written ↔ d ∈ written')
    (year : Int) (month : Nat) (today : Date) :
    marksOf year month written today = marksOf year month written' today := by
  have hcontains (d : String) : written.contains d = written'.contains d := by
    simp only [List.contains_eq_mem, h d]
  simp only [marksOf, hcontains]

theorem seesOnly_find (hc : c.InMemory) (date : String) : SeesOnly c user (find user date) :=
  (SeesOnly.getEntry hc date).during _

theorem seesOnly_save (hc : c.InMemory) (date body today : String) :
    SeesOnly c user (save user date body today) := by
  unfold save
  split
  · exact ((SeesOnly.upsertEntry hc date body).during _).mapError _
  · exact .fail _

/-- The marks of a month are the same whatever order the entries are kept in, since they depend only
on which dates have an entry. -/
theorem seesOnly_marks (hc : c.InMemory) (zone : Zone) (reference : Int) (now : Instant) :
    SeesOnly c user (marks user zone reference now) := by
  intro s₁ s₂ h
  have hrange (s : State) (first last : Option String) :
      ((Action.entriesInRange user first last).during .loadDates) c s =
        ⟨.ok (s.entries.inRange user first last), s.called, []⟩ := by
    simp only [Action.during, Action.mapError, Action.entriesInRange_of_service (hc.entries _),
      Except.mapError]
  unfold marks
  rw [Action.bind_of_ok (congrArg Outcome.result (hrange s₁ _ _)),
    Action.bind_of_ok (congrArg Outcome.result (hrange s₂ _ _)), hrange, hrange]
  refine ⟨congrArg Except.ok ?_, rfl, h.called⟩
  exact marksOf_congr (h.entries.mem_dates_inRange_iff _ _) _ _ _

theorem seesOnly_month (hc : c.InMemory) (zone : Zone) (reference : Int) (now : Instant) :
    SeesOnly c user (month user zone reference now) :=
  .bind (seesOnly_marks hc zone reference now) fun _ => .pure _

end Journal

/-! ### Pages -/

namespace Site

variable {site : Site} {c : Scene}

theorem seesOnly_pathDate {user : Uuid} (raw : String) {next : String → Action Problem Response}
    (h : ∀ date, SeesOnly c user (next date)) : SeesOnly c user (pathDate raw next) := by
  unfold pathDate
  split
  · exact h _
  · exact .pure _

theorem seesOnly_pageOf (hc : c.InMemory) (user : User) (date : String) (editable : Bool) :
    SeesOnly c user.id (pageOf user date editable) := by
  refine .bind ((Journal.seesOnly_find hc date).mapError _) fun found => ?_
  cases found with
  | some e => exact .pure _
  | none => exact .bind .drawId fun _ => .bind .now fun _ => .pure _

theorem seesOnly_showEntry (hc : c.InMemory) (user : User) (date : String) :
    SeesOnly c user.id (site.showEntry user date) :=
  .bind (.ofExcept _) fun _ => .bind .now fun _ => seesOnly_pageOf hc user date _

theorem seesOnly_editEntry (hc : c.InMemory) (user : User) (date : String) :
    SeesOnly c user.id (site.editEntry user date) := by
  refine .bind (.ofExcept _) fun _ => .bind .now fun now => ?_
  split
  · exact seesOnly_pageOf hc user date true
  · exact .fail _

theorem seesOnly_saveEntry (hc : c.InMemory) (user : User) (r : Request) (date : String) :
    SeesOnly c user.id (site.saveEntry user r date) :=
  .bind (.ofExcept _) fun _ => .bind (.ofExcept _) fun _ => .bind .now fun _ =>
    .bind ((Journal.seesOnly_save hc date _ _).mapError _) fun _ => .pure _

theorem seesOnly_showCalendar (hc : c.InMemory) (user : User) (date : String) :
    SeesOnly c user.id (site.showCalendar user date) :=
  .bind (.ofExcept _) fun _ => .bind .now fun _ =>
    .bind ((Journal.seesOnly_month hc _ _ _).mapError _) fun _ => .pure _

theorem seesOnly_showRoot (user : Uuid) : SeesOnly c user site.showRoot :=
  .bind .now fun _ => .pure _

/-- What is done for any page sees only the user for whom it is done. -/
theorem seesOnly_pageAction (hc : c.InMemory) (r : Request) (p : PageRoute) (user : User) :
    SeesOnly c user.id (site.pageAction r p user) := by
  have hget : SeesOnly c user.id ((site.pageMethods r p).get user) := by
    cases p with
    | root => exact seesOnly_showRoot user.id
    | account => exact .pure _
    | entry raw => exact seesOnly_pathDate raw (seesOnly_showEntry hc user)
    | editing raw => exact seesOnly_pathDate raw (seesOnly_editEntry hc user)
    | calendar raw => exact seesOnly_pathDate raw (seesOnly_showCalendar hc user)
  unfold pageAction
  cases r.method with
  | get => exact hget
  | head => exact hget
  | post =>
    cases p with
    | entry raw => exact seesOnly_pathDate raw (seesOnly_saveEntry hc user r)
    | _ => exact .pure _
  | options => exact .pure _
  | other name => exact .pure _

/-- A request of a user who is logged in does not touch what stands under others. -/
theorem Effect.get?_of_others {s s' : State} {r : Request} {response : Response} {user : User}
    (h : site.Effect c s r response s') (huser : site.userOf? r c.now s.users = some user)
    {k : Uuid × String} (hk : k.1 ≠ user.id) :
    s'.entries.get? k = s.entries.get? k := by
  cases h with
  | read same => rw [same.entries]
  | register p u _ _ registered => rw [registered.entries]
  | save owner raw date sent e _ _ howner _ _ _ _ wrote =>
    obtain rfl := Option.some.inj (huser.symm.trans howner)
    exact wrote.get?_of_ne fun h => hk (congrArg Prod.fst h)

/-- Of two states that agree for the user who is logged in, every page is answered in the same way.
They agree for the user afterwards, and in both the entries of all others stay as they are. -/
theorem respond_isolated (site : Site) (c : Scene) (s₁ s₂ : State) (r : Request) (p : PageRoute)
    (user : User) (hc : c.InMemory) (hroute : Route.ofPath? r.path = some (.page p))
    (huser : site.userOf? r c.now s₁.users = some user) (h : s₁.AgreeFor user.id s₂) :
    (site.respond c s₁ r).1 = (site.respond c s₂ r).1 ∧
      (site.respond c s₁ r).2.1.AgreeFor user.id (site.respond c s₂ r).2.1 ∧
      ∀ k : Uuid × String, k.1 ≠ user.id →
        (site.respond c s₁ r).2.1.entries.get? k = s₁.entries.get? k ∧
          (site.respond c s₂ r).2.1.entries.get? k = s₂.entries.get? k := by
  have huser₂ : site.userOf? r c.now s₂.users = some user := h.users ▸ huser
  have hhandle₁ := site.handle_page hroute (hc.users s₁.calls) huser
  have hhandle₂ := site.handle_page hroute (hc.users s₂.calls) huser₂
  have hsees : SeesOnly c user.id (site.pageAction r p user) := seesOnly_pageAction hc r p user
  obtain ⟨hresult, -, hstate⟩ := hsees _ _ h.called
  refine ⟨?_, ?_, fun k hk => ⟨?_, ?_⟩⟩
  · rw [site.respond_of_handle (congrArg Outcome.result hhandle₁),
      site.respond_of_handle (congrArg Outcome.result hhandle₂), hresult]
  · rw [respond_state, respond_state, hhandle₁, hhandle₂]
    exact hstate
  · exact (site.respond_effect c s₁ r).get?_of_others huser hk
  · exact (site.respond_effect c s₂ r).get?_of_others huser₂ hk

/-- Whether somebody else has written on the same day or not, the visitor's text is saved alike. -/
theorem submission_isolated :
    let site := Sample.site ⟨-12600, []⟩
    let c := Sample.scene Sample.sentAt
    let r := Sample.submission
    let user : User := ⟨Sample.visitor, "1", "Ann", .epoch⟩
    let other : Uuid := ⟨List.replicate 32 (Hex.digit 1), rfl⟩
    let s₁ : State := { State.initial with users := Table.empty.insert user.id user }
    let s₂ : State :=
      { s₁ with entries := (s₁.entries.upsert other .epoch other "2010-11-06" "secret").2 }
    c.InMemory ∧ Route.ofPath? r.path = some (.page (.entry "2010-11-06")) ∧
      site.userOf? r c.now s₁.users = some user ∧ s₁.AgreeFor user.id s₂ ∧
      (site.respond c s₁ r).1 = (site.respond c s₂ r).1 := by
  intro site c r user other s₁ s₂
  have hc : c.InMemory := Sample.inMemory_scene _
  have hroute : Route.ofPath? r.path = some (.page (.entry "2010-11-06")) := by decide
  have huser : site.userOf? r c.now s₁.users = some user := by
    rw [userOf?, show (site.session r c.now).userId = some Sample.visitor from
      Sample.userId_session _]
    exact Table.get?_insert_self Table.empty user.id user
  have hne : other ≠ user.id := by decide
  have h : s₁.AgreeFor user.id s₂ :=
    ⟨rfl, rfl, Entries.filed_empty.agreeFor_upsert hne other .epoch "2010-11-06" "secret"⟩
  exact ⟨hc, hroute, huser, h, (site.respond_isolated c s₁ s₂ r _ user hc hroute huser h).1⟩

end Site

end Daybook
