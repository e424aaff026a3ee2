import Daybook.Proofs.Site.Effect
import Daybook.Proofs.Store.Filing
import Daybook.Settings.Basic

/-!
# Histories

A history is a list of visits, each a request with the scene in which it is handled.  The scenes of
a history are not related: the clock may go back, and the identifiers that are drawn may repeat.
Still every entry that is kept was last written by a user who has an account, on its own day.

## Main definitions

* `Visit`, `Site.after` : a request in its scene, and the state after a history.
* `Site.Sound` : what is true of the accounts and entries that are kept.

## Main results

* `Site.Effect.sound` : one request keeps the data sound.
* `Site.sound_after` : so does every history.
* `Site.entry_written_on_its_day` : what is known of an entry after any history.
-/

namespace Daybook

/-- A request in the scene in which it is handled. -/
structure Visit where
  scene : Scene
  request : Request

namespace Site

variable (site : Site)

/-- The state after a history. -/
def after (s : State) (visits : List Visit) : State :=
  visits.foldl (fun s v => (site.respond v.scene s v.request).2.1) s

theorem after_cons (s : State) (v : Visit) (visits : List Visit) :
    site.after s (v :: visits) = site.after (site.respond v.scene s v.request).2.1 visits :=
  rfl

theorem after_append (s : State) (before later : List Visit) :
    site.after s (before ++ later) = site.after (site.after s before) later :=
  List.foldl_append

/-- What every request keeps, every history keeps. -/
theorem after_of_step {P : State → Prop}
    (hstep : ∀ c s r, P s → P (site.respond c s r).2.1) {s : State} (h : P s)
    (visits : List Visit) : P (site.after s visits) := by
  induction visits generalizing s with
  | nil => exact h
  | cons v visits ih =>
    rw [after_cons]
    exact ih (hstep v.scene s v.request h)

/-! ### What is true of all that is kept -/

/-- Accounts and entries stand where they belong; each entry is that of a user who has an account
and names a day, which was the day in the zone when the entry was last written. -/
structure Sound (zone : Zone) (us : Users) (es : Entries) : Prop where
  users_filed : us.Filed
  entries_filed : es.Filed
  owned : ∀ k e, es.get? k = some e → ∃ u ∈ us.values, u.id = e.userId
  valid : ∀ k e, es.get? k = some e → Date.isValidText e.date = true
  own_day : ∀ k e, es.get? k = some e → e.date = Journal.today zone e.updatedAt

namespace Sound

variable {zone : Zone} {us us' : Users} {es : Entries}

theorem empty : Sound zone .empty .empty := by
  have hnone (k : Uuid × String) : (Table.empty : Entries).get? k = none := Table.get?_empty k
  exact ⟨Users.filed_empty, Entries.filed_empty, by simp [hnone], by simp [hnone], by simp [hnone]⟩

/-- A new account takes no entry's owner away. -/
theorem create {id : Uuid} {now : Instant} {p : Profile} {u : User} (h : Sound zone us es)
    (hc : us.create id now p = .ok (u, us')) : Sound zone us' es := by
  refine ⟨h.users_filed.create hc, h.entries_filed, fun k e he => ?_, h.valid, h.own_day⟩
  obtain ⟨v, hv, hid⟩ := h.owned k e he
  obtain ⟨w, hw, hwid⟩ := Users.exists_id_create h.users_filed hc hv
  exact ⟨w, hw, hwid.trans hid⟩

/-- A text may be put for a user who has an account, under the valid text of today's date. -/
theorem upsert {id : Uuid} {now : Instant} {user : User} {date body : String}
    (h : Sound zone us es) (huser : user ∈ us.values) (hvalid : Date.isValidText date = true)
    (htoday : date = Journal.today zone now) :
    Sound zone us (es.upsert id now user.id date body).2 := by
  have howner := h.entries_filed.owner_upsert id now user.id date body
  rw [Prod.mk.injEq] at howner
  -- every entry is the one that was put, or it was there before
  have hcase {k : Uuid × String} {e : Entry}
      (he : (es.upsert id now user.id date body).2.get? k = some e) :
      e = (es.upsert id now user.id date body).1 ∨ es.get? k = some e := by
    rw [Entries.get?_upsert] at he
    split_ifs at he with hk
    · exact .inl (Option.some.inj he).symm
    · exact .inr he
  refine ⟨h.users_filed, h.entries_filed.upsert id now user.id date body, fun k e he => ?_,
    fun k e he => ?_, fun k e he => ?_⟩
  · rcases hcase he with rfl | he
    · exact ⟨user, huser, howner.1.symm⟩
    · exact h.owned k e he
  · rcases hcase he with rfl | he
    · rw [howner.2]
      exact hvalid
    · exact h.valid k e he
  · rcases hcase he with rfl | he
    · rw [howner.2, Entries.updatedAt_upsert]
      exact htoday
    · exact h.own_day k e he

end Sound

variable {site}

/-- A session names an account that exists. -/
theorem mem_values_of_userOf? {r : Request} {now : Instant} {us : Users} {user : User}
    (h : site.userOf? r now us = some user) : user ∈ us.values := by
  obtain ⟨id, -, hid⟩ := Option.bind_eq_some_iff.1 h
  exact (Table.mem_values_iff us user).2 ⟨id, hid⟩

/-- One request keeps the data sound. -/
theorem Effect.sound {c : Scene} {s s' : State} {r : Request} {response : Response}
    (h : site.Effect c s r response s') (hs : Sound site.zone s.users s.entries) :
    Sound site.zone s'.users s'.entries := by
  cases h with
  | read same => rwa [same.users, same.entries]
  | register p u _ _ registered =>
    rw [registered.entries]
    exact hs.create registered.created
  | save user raw date sent e _ _ owner _ valid today _ wrote =>
    have hentries : s'.entries = (s.entries.upsert (c.freshId s.drawn) c.now user.id date
        sent.body).2 := by rw [wrote.upserted]
    rw [wrote.users, hentries]
    exact hs.upsert (mem_values_of_userOf? owner) valid today

/-- Every history keeps the data sound. -/
theorem sound_after (site : Site) (visits : List Visit) :
    Sound site.zone (site.after .initial visits).users (site.after .initial visits).entries :=
  site.after_of_step (P := fun s => Sound site.zone s.users s.entries)
    (fun c s r h => (site.respond_effect c s r).sound h) Sound.empty visits

/-- After any history, an entry stands under its own user and date, its user has an account, and its
date is the valid text of the day on which it was last written. -/
theorem entry_written_on_its_day (site : Site) (visits : List Visit) :
    let s := site.after .initial visits
    ∀ k e, s.entries.get? k = some e →
      k = (e.userId, e.date) ∧ (∃ u ∈ s.users.values, u.id = e.userId) ∧
        Date.isValidText e.date = true ∧ e.date = Journal.today site.zone e.updatedAt := by
  intro s k e he
  have h := site.sound_after visits
  exact ⟨(h.entries_filed k e he).symm, h.owned k e he, h.valid k e he, h.own_day k e he⟩

end Site

/-! ### A site with one visitor

The site, the scenes and the requests of the histories that are worked out in full. -/

namespace Sample

/-- A site in a zone. -/
def site (zone : Zone) : Site :=
  ⟨⟨"secret", 30, Settings.cookieName, false, "app", "key", "http://localhost/auth/callback"⟩, zone,
    .standard⟩

@[simp]
theorem zone_site (zone : Zone) : (site zone).zone = zone :=
  rfl

/-- The identifier of the visitor's account. -/
def visitor : Uuid :=
  default

/-- What the provider replies: a token and a profile. -/
def granted : Reply :=
  .whole 200 (Utf8.encode "\x7b\"access_token\":\"t\",\"id\":\"1\",\"name\":\"Ann\"\x7d")

/-- A scene at an instant, in which the store never fails.  The first identifier that is drawn is
the visitor's. -/
def scene (now : Instant) : Scene :=
  ⟨now, fun n => ⟨List.replicate 31 (Hex.digit 0) ++ [Hex.digit n], rfl⟩, fun _ => none,
    fun _ => none, fun _ => granted⟩

theorem inMemory_scene (now : Instant) : (scene now).InMemory :=
  ⟨fun _ => rfl, fun _ => rfl⟩

/-- The visitor comes back from the provider's dialog. -/
def arrival : Request :=
  ⟨.get, "/auth/callback", "code=1", [], []⟩

/-- The token that the visitor is given at 02:29 on 7 November 2010, universal time. -/
def token : String :=
  "eyJ0eXAiOiJKV1QiLCJhbGciOiJIUzI1NiJ9." ++
    "eyJ1aWQiOiIwMDAwMDAwMC0wMDAwLTAwMDAtMDAwMC0wMDAwMDAwMDAwMDAi" ++
    "LCJpYXQiOjEyODkwOTY5NDAsImV4cCI6MTI5MTY4ODk0MH0." ++
    "jwUaIQRLC08nmjNVmHpSWnm5uAgXINqONz_yWRwGmdg"

/-- The visitor sends a text for 6 November 2010. -/
def submission : Request :=
  ⟨.post, "/entries/2010-11-06", "",
    [("cookie", Utf8.encode (Settings.cookieName ++ "=" ++ token)),
      ("content-type", Utf8.encode "application/json")],
    Utf8.encode "\x7b\"body\":\"again\"\x7d"⟩

theorem parse?_submitted : Date.parse? "2010-11-06" = some ⟨2010, 11, 6⟩ := by
  decide

/-- The text is sent at 02:40 on 7 November 2010, universal time. -/
def sentAt : Instant :=
  .atSecond 1289097600 (by decide)

set_option maxRecDepth 100000 in
/-- The visitor is known by the token. -/
theorem userId_session (zone : Zone) :
    ((site zone).session submission sentAt).userId = some visitor := by
  have h : (Session.ofCookies (site .utc).settings sentAt (submission.header? "cookie")).userId =
      some visitor := by decide +kernel
  exact h

end Sample

end Daybook
