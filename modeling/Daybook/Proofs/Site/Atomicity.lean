import Daybook.Proofs.Http.HeaderText
import Daybook.Proofs.Site.History

/-!
# Requests as transactions

The response to a request tells whether anything was changed.  Only a login that is sent to the root
may make an account, and only a submission that is answered 200 puts a text; with any other response
all accounts and entries stand as before, whatever has gone wrong and however late.

## Main definitions

* `Site.LogsIn`, `Site.Saves` : the responses that tell of a login and of a saved submission.
* `Users.Gains` : an account was added and no other was touched.

## Main results

* `Site.respond_changes_only` : what each response tells about the changes.
-/

namespace Daybook

/-- An account for a profile is added under an identifier that was free, and all other accounts stay
as they are. -/
def Users.Gains (us : Users) (p : Profile) (us' : Users) : Prop :=
  ∃ u : User, u.uid = p.id ∧ u.name = p.name ∧ us.get? u.id = none ∧ us'.get? u.id = some u ∧
    ∀ id, id ≠ u.id → us'.get? id = us.get? id

theorem State.Registered.gains {c : Scene} {s s' : State} {p : Profile} {u : User}
    (h : s.Registered c p u s') (hfresh : s.users.get? (c.freshId s.drawn) = none) :
    s.users.Gains p s'.users := by
  obtain ⟨-, hu, hs'⟩ := Users.create_eq_ok_iff.1 h.created
  refine ⟨⟨c.freshId s.drawn, p.id, p.name, c.now⟩, rfl, rfl, hfresh, ?_, fun id hid => ?_⟩
  · rw [hs', Table.get?_insert_self, hu]
  · rw [hs', Table.get?_insert_of_ne _ hid]

namespace Site

variable (site : Site)

/-- The response to a user who comes back from the provider's dialog and is sent to the root. -/
def LogsIn (r : Request) (response : Response) : Prop :=
  Route.ofPath? r.path = some .callback ∧ response.status = 302 ∧ response.location = some "/"

/-- The response to a submission for a date in the path, when it is answered 200. -/
def Saves (r : Request) (response : Response) : Prop :=
  r.method = .post ∧ (∃ raw, Route.ofPath? r.path = some (.page (.entry raw))) ∧
    response.status = 200

/-- The response to a request tells what is changed.  Accounts are changed by a login only, which
adds at most one account, with the identifier and the name of the profile that the provider gives;
entries are changed by a submission only, at the user of the session and the date of the path, which
is today's.  Any other response comes with no change.  The name of the cookie has to be one that a
header can hold, as the server's is, and the next identifier has to be fresh. -/
theorem respond_changes_only (c : Scene) (s : State) (r : Request)
    (hname : isHeaderText site.settings.cookieName = true)
    (hfresh : s.users.get? (c.freshId s.drawn) = none) :
    let response := (site.respond c s r).1
    let s' := (site.respond c s r).2.1
    (¬LogsIn r response → s'.users = s.users) ∧
      (LogsIn r response →
        s'.entries = s.entries ∧
          (s'.users = s.users ∨ ∃ p, site.Identifies c r p ∧ s.users.Gains p s'.users)) ∧
      (¬Saves r response → s'.entries = s.entries) ∧
      (Saves r response →
        s'.users = s.users ∧
          ∃ user raw date, site.userOf? r c.now s.users = some user ∧
            Route.ofPath? r.path = some (.page (.entry raw)) ∧ dateIn? raw = some date ∧
            date = Journal.today site.zone c.now ∧
            (s'.entries.get? (user.id, date)).isSome ∧
            ∀ k, k ≠ (user.id, date) → s'.entries.get? k = s.entries.get? k) ∧
      (response.status ≠ 200 → ¬(response.status = 302 ∧ response.location = some "/") →
        s.SameData s') := by
  intro response s'
  have heffect : site.Effect c s r response s' := site.respond_effect c s r
  cases heffect with
  | read same unsaved =>
    refine ⟨fun _ => same.users, fun _ => ⟨same.entries, .inl same.users⟩, fun _ => same.entries,
      fun h => ?_, fun _ _ => same⟩
    obtain ⟨hm, ⟨raw, hroute⟩, hstatus⟩ := h
    exact absurd hstatus (unsaved raw hm hroute)
  | register p u route profile registered status location =>
    have hroot : response.location = some "/" :=
      location (Session.isHeaderText_setCookie _ _ hname)
    refine ⟨fun h => absurd ⟨route, status, hroot⟩ h,
      fun _ => ⟨registered.entries, .inr ⟨p, profile, registered.gains hfresh⟩⟩,
      fun _ => registered.entries, fun h => ?_, fun _ h => absurd ⟨status, hroot⟩ h⟩
    obtain ⟨-, ⟨raw, hroute⟩, -⟩ := h
    rw [route] at hroute
    cases hroute
  | save user raw date sent e method route owner decoded _ today _ wrote status =>
    refine ⟨fun _ => wrote.users, fun h => ?_,
      fun h => absurd ⟨method, ⟨raw, route⟩, status⟩ h,
      fun _ => ⟨wrote.users, user, raw, date, owner, route, decoded, today, ?_,
        fun k hk => wrote.get?_of_ne hk⟩,
      fun h => absurd status h⟩
    · rw [h.1] at route
      cases route
    · rw [wrote.get?_self]
      rfl

/-- The first login makes the account of the visitor. -/
theorem arrival_gains_account :
    let site := Sample.site .utc
    let c := Sample.scene .epoch
    let response := (site.respond c .initial Sample.arrival).1
    let s' := (site.respond c .initial Sample.arrival).2.1
    isHeaderText site.settings.cookieName = true ∧
      State.initial.users.get? (c.freshId State.initial.drawn) = none ∧
      LogsIn Sample.arrival response ∧
      ∃ p, site.Identifies c Sample.arrival p ∧ State.initial.users.Gains p s'.users := by
  intro site c response s'
  have hname : isHeaderText site.settings.cookieName = true := Settings.isHeaderText_cookieName
  have hfresh : State.initial.users.get? (c.freshId State.initial.drawn) = none := rfl
  have h := site.respond_changes_only c .initial Sample.arrival hname hfresh
  have hne : s'.users ≠ State.initial.users := by
    have hlength : s'.users.values.length = 1 := by decide +kernel
    intro he
    rw [he] at hlength
    exact absurd hlength (by decide)
  have hlogin : LogsIn Sample.arrival response := Classical.byContradiction fun hl => hne (h.1 hl)
  exact ⟨hname, hfresh, hlogin, (h.2.1 hlogin).2.resolve_left hne⟩

end Site

end Daybook
