import Daybook.Proofs.Json.Spelling
import Daybook.Proofs.Site.History
import Daybook.Proofs.Site.Pages

/-!
# Users read what they wrote

What a user has saved for a day is what the user is shown of that day from then on, until the user
saves a text for the day again.  What others do in the meantime, and what the clock does, makes no
difference, also when the day is over and its entry can be written no longer.

## Main definitions

* `Submission.Spells` : the JSON texts that submit a text.
* `Site.Asks` : a request of a user who is logged in, for the entry of a date.
* `Site.SavesFor` : a submission that is answered with success.

## Main results

* `Site.SavesFor.wrote` : what a submission that is answered with success puts, and the answer.
* `Site.find?_of_not_savesFor`, `Site.find?_after` : no other request changes the entry.
* `Site.read_your_writes` : what was saved is shown, until it is replaced.
-/

namespace Daybook

/-! ### Payloads -/

/-- The JSON texts that submit a text: an object with the text as its one member `body`, with or
without other texts, and with blanks around it. -/
inductive Submission.Spells (body : String) : Bytes → Prop
  | object {fields : List (String × String)} {a t b : List Char} (ha : Json.Spaces a)
      (h : Json.SpellsObject fields t) (hbody : Json.textsOf "body" fields = [body])
      (hb : Json.Spaces b) : Spells body (Utf8.bytes (a ++ t ++ b))

/-- Such a text is decoded. -/
theorem Submission.Spells.decodeStart {body : String} {bytes : Bytes}
    (h : Submission.Spells body bytes) : Submission.codec.decodeStart bytes = .ok ⟨body⟩ := by
  obtain @⟨fields, a, t, b, ha, ht, hbody, hb⟩ := h
  rw [Utf8.bytes_append, Utf8.bytes_append, List.append_assoc]
  exact Json.decodeStart_of_spells (Json.Member.readsTexts_required "body") ht hbody ha _

namespace Site

variable {site : Site} {s : State} {v : Visit} {user : Uuid} {date : String}

/-- A user who is logged in asks for the entry of a date, by some method. -/
structure Asks (site : Site) (s : State) (v : Visit) (method : Method) (user : Uuid)
    (date : String) : Prop where
  method_eq : v.request.method = method
  route : ∃ raw, Route.ofPath? v.request.path = some (.page (.entry raw)) ∧ dateIn? raw = some date
  owner : ∃ u, site.userOf? v.request v.scene.now s.users = some u ∧ u.id = user

/-- The submission of a user for a date is answered with success. -/
structure SavesFor (site : Site) (s : State) (v : Visit) (user : Uuid) (date : String) : Prop where
  asks : site.Asks s v .post user date
  status : (site.respond v.scene s v.request).1.status = 200

/-! ### Submissions -/

/-- A body that is decoded is taken from a request, within the limit. -/
theorem submission_of_decodeStart {r : Request} {sent : Submission} (hjson : announcesJson r = true)
    (hlimit : r.body.length ≤ bodyLimit) (hsent : Submission.codec.decodeStart r.body = .ok sent) :
    submission r = .ok sent := by
  rw [submission, hjson, hsent, if_neg (by decide), if_neg (Nat.not_lt.2 hlimit)]
  rfl

/-- What is taken from a request was decoded from its body, within the limit. -/
theorem decodeStart_of_submission {r : Request} {sent : Submission} (h : submission r = .ok sent) :
    announcesJson r = true ∧ r.body.length ≤ bodyLimit ∧
      Submission.codec.decodeStart r.body = .ok sent := by
  unfold submission at h
  split_ifs at h with hjson hlimit
  cases hsent : Submission.codec.decodeStart r.body with
  | error fault =>
    rw [hsent] at h
    cases h
  | ok sent' =>
    rw [hsent] at h
    cases h
    exact ⟨by simpa using hjson, Nat.not_lt.1 hlimit, rfl⟩

/-- A submission that is answered with success was put, and is answered with the entry. -/
theorem SavesFor.wrote (h : site.SavesFor s v user date) :
    ∃ sent e, submission v.request = .ok sent ∧ Date.isValidText date = true ∧
      date = Journal.today site.zone v.scene.now ∧
      (site.respond v.scene s v.request).1.content = .page (.ofEntry e true true) ∧
      s.Wrote v.scene user date sent.body e (site.respond v.scene s v.request).2.1 := by
  obtain ⟨⟨hm, ⟨raw, hroute, hdecoded⟩, u, howner, rfl⟩, hstatus⟩ := h
  let inner (user : User) : Action Problem Response := pathDate raw (site.saveEntry user v.request)
  have hhandle : site.handle v.request v.scene s = site.guard v.request inner v.scene s := by
    rw [site.handle_submission hm hroute]
  rcases site.guard_cases v.request inner v.scene s with
    ⟨response, hresult, hresp, -⟩ | ⟨-, -, hout⟩
  · rw [site.respond_of_handle (hhandle ▸ hresult)] at hstatus
    rcases hresp with rfl | ⟨detail, rfl⟩
    · rw [unauthorized, redirect_status] at hstatus
      cases hstatus
    · exact absurd hstatus (Problem.response_status_ne _)
  · have hguard := site.guard_of_user hout howner inner
    rw [show inner u = _ from pathDate_of_some hdecoded _] at hguard
    rw [site.respond_of_handle (congrArg Outcome.result (hhandle.trans hguard)), hhandle, hguard]
      at hstatus ⊢
    rw [refresh_status] at hstatus
    rw [refresh_content]
    rcases site.saveEntry_cases u v.request date v.scene s.called with
      ⟨⟨p, hp⟩, -⟩ | ⟨sent, e, hvalid, hsent, htoday, hok, hw⟩
    · rw [hp] at hstatus
      exact absurd hstatus (Problem.response_status_ne p)
    · rw [hok]
      exact ⟨sent, e, hsent, hvalid, htoday, rfl, hw.users, hw.upserted⟩

/-- No request but a submission of the user for the date changes the entry. -/
theorem find?_of_not_savesFor {e : Entry} (he : s.entries.find? user date = some e)
    (h : ¬site.SavesFor s v user date) :
    (site.respond v.scene s v.request).2.1.entries.find? user date = some e := by
  have heffect := site.respond_effect v.scene s v.request
  cases heffect with
  | read same => rwa [same.entries]
  | register p u _ _ registered => rwa [registered.entries]
  | save owner raw date' sent e' method route owns decoded _ _ _ wrote status =>
    refine (wrote.get?_of_ne fun hk => h ?_).trans he
    obtain ⟨rfl, rfl⟩ := Prod.mk.inj hk
    exact ⟨⟨method, ⟨raw, route, decoded⟩, owner, owns, rfl⟩, status⟩

/-- The entry stays as it is through a history without a submission of the user for the date. -/
theorem find?_after {e : Entry} {visits : List Visit} (he : s.entries.find? user date = some e)
    (h : ∀ before w later, visits = before ++ w :: later →
      ¬site.SavesFor (site.after s before) w user date) :
    (site.after s visits).entries.find? user date = some e := by
  induction visits generalizing s with
  | nil => exact he
  | cons w visits ih =>
    rw [after_cons]
    refine ih (find?_of_not_savesFor he (h [] w visits rfl)) fun before w' later hvisits => ?_
    rw [← after_cons]
    exact h (w :: before) w' later (by rw [hvisits, List.cons_append])

/-! ### Reading -/

/-- In memory, a user who asks for an entry that is kept is shown its page. -/
theorem Asks.shown (h : site.Asks s v .get user date) (hc : v.scene.InMemory) {e : Entry}
    (he : s.entries.find? user date = some e) (hvalid : Date.isValidText date = true) :
    let page := Page.ofEntry e (date = Journal.today site.zone v.scene.now) true
    (site.respond v.scene s v.request).1.status = 200 ∧
      (site.respond v.scene s v.request).1.content = .page page ∧
      (site.respond v.scene s v.request).1.body = Page.codec.encode page := by
  obtain ⟨hm, ⟨raw, hroute, hdecoded⟩, u, howner, rfl⟩ := h
  obtain ⟨d, hdate⟩ := Option.isSome_iff_exists.1 hvalid
  have hasks : site.AsksAbout v.scene s v.request .get .entry u date :=
    ⟨raw, ⟨hm, hroute, howner⟩, hdecoded⟩
  rw [hasks.respond_entry hc, site.showEntry_of_parse? s.called u hc hdate, State.pageAt_called,
    State.pageAt_of_kept _ _ _ _ _ he]
  exact ⟨refresh_status .., refresh_content .., refresh_body ..⟩

/-! ### Reading what was written -/

/-- What a user has saved for a day, the text that the payload of the submission spells, is what the
user is shown of the day, with the identifier and the time of the answer to the submission, until
the user saves a text for the day again; and then the entry keeps its identifier. -/
theorem read_your_writes (site : Site) (past between : List Visit) (sent : Visit) (user : Uuid)
    (date : String) (hsaves : site.SavesFor (site.after .initial past) sent user date)
    (hbetween : ∀ before v later, between = before ++ v :: later →
      ¬site.SavesFor (site.after .initial (past ++ sent :: before)) v user date) :
    ∃ (body : String) (id : Uuid) (updatedAt : Instant),
      let page (editable : Bool) : Page :=
        ⟨id, user, date, body, UInt64.ofNat (characterCount body), editable, true, updatedAt⟩
      let s := site.after .initial (past ++ sent :: between)
      Submission.codec.decodeStart sent.request.body = .ok ⟨body⟩ ∧
        (∀ text, Submission.Spells text sent.request.body → body = text) ∧
        (site.respond sent.scene (site.after .initial past) sent.request).1.content =
          .page (page true) ∧
        (∀ v : Visit, v.scene.InMemory → site.Asks s v .get user date →
          let response := (site.respond v.scene s v.request).1
          let editable := decide (date = Journal.today site.zone v.scene.now)
          response.status = 200 ∧ response.content = .page (page editable) ∧
            response.body = Page.codec.encode (page editable)) ∧
        ∀ v : Visit, site.SavesFor s v user date →
          ∃ p : Page, (site.respond v.scene s v.request).1.content = .page p ∧ p.id = id := by
  obtain ⟨⟨body⟩, e, hsent, hvalid, -, hcontent, hw⟩ := hsaves.wrote
  obtain ⟨-, -, hdecoded⟩ := decodeStart_of_submission hsent
  obtain ⟨howner, hdate⟩ := hw.owner_eq (site.sound_after past).entries_filed
  have hpage (editable : Bool) :
      Page.ofEntry e editable true = ⟨e.id, user, date, body, UInt64.ofNat (characterCount body),
        editable, true, e.updatedAt⟩ := by
    rw [Page.ofEntry, howner, hdate, hw.body_eq]
  have hkept :
      (site.after .initial (past ++ sent :: between)).entries.find? user date = some e := by
    rw [after_append, after_cons]
    refine find?_after hw.get?_self fun before v later hvisits => ?_
    rw [← after_cons, ← after_append]
    exact hbetween before v later hvisits
  refine ⟨body, e.id, e.updatedAt, hdecoded, fun text htext => ?_,
    hcontent.trans (by rw [hpage]), fun v hc hasks => ?_, fun v hagain => ?_⟩
  · exact congrArg Submission.body (Except.ok.inj (hdecoded.symm.trans htext.decodeStart))
  · have hshown := hasks.shown hc hkept hvalid
    rw [hpage] at hshown
    exact hshown
  · obtain ⟨text', e', -, -, -, hcontent', hw'⟩ := hagain.wrote
    exact ⟨_, hcontent', hw'.id_eq hkept⟩

end Site

/-! ### The visitor reads what was written -/

namespace Sample

/-- At 02:39 on 7 November 2010, universal time, the visitor arrives, -/
def arrivedAgain : Visit :=
  ⟨scene (.atSecond 1289097540 (by decide)), arrival⟩

/-- sends a payload for that day a minute later, -/
def sending (payload : String) : Visit :=
  ⟨scene sentAt, { submission with path := "/entries/2010-11-07", body := Utf8.encode payload }⟩

/-- and looks at the day. -/
def lookedAgain : Visit :=
  ⟨scene sentAt, { submission with method := .get, path := "/entries/2010-11-07", body := [] }⟩

/-- One payload is as short as can be. -/
def plainPayload : String :=
  "\x7b\"body\":\"again\"\x7d"

/-- Another one has a second text, blanks and the number of a character. -/
def spacedPayload : String :=
  " \x7b \"mood\":\"again\",\"body\" :\"n\\u006fw\"\x7d\n"

theorem spells_plain : Submission.Spells "again" (Utf8.encode plainPayload) := by
  have hnone := Json.spaces_nil
  have h : Json.SpellsObject [("body", "again")] _ :=
    .braces (.cons hnone (.member hnone (Json.spellsText_quoted "body") hnone hnone
      (Json.spellsText_quoted "again")) (.nil hnone))
  exact .object hnone h rfl hnone

theorem spells_spaced : Submission.Spells "now" (Utf8.encode spacedPayload) := by
  have hnone := Json.spaces_nil
  have hspace : Json.Spaces [' '] := Json.spaces_singleton (by decide)
  have hline : Json.Spaces ['\n'] := Json.spaces_singleton (by decide)
  have hchars : Json.SpellsChars "now".toList ['n', '\\', 'u', '0', '0', '6', 'f', 'w'] :=
    .cons (c := 'n') (.itself (by decide) (by decide) (by decide)) (.cons (c := 'o') (.number
      (.digits (p := 0) (q := 0) (r := 6) (s := 15) rfl rfl rfl rfl rfl))
      (.cons (c := 'w') (.itself (by decide) (by decide) (by decide)) .nil))
  have h : Json.SpellsObject [("mood", "again"), ("body", "now")] _ :=
    .braces (.cons hspace (.member hnone (Json.spellsText_quoted "mood") hnone hnone
      (Json.spellsText_quoted "again")) (.cons hnone (.member hnone
      (Json.spellsText_quoted "body") hspace hnone (.quoted hchars)) (.nil hnone)))
  exact .object hspace h rfl hline

/-- The visitor is known by the token, in any zone. -/
theorem userOf?_visitor (zone : Zone) {r : Request} (hr : r.headers = submission.headers)
    {s : State} (hs : (s.users.get? visitor).map User.id = some visitor) :
    ∃ u, (site zone).userOf? r sentAt s.users = some u ∧ u.id = visitor := by
  obtain ⟨u, hget, hid⟩ := Option.map_eq_some_iff.1 hs
  have hsession : (site zone).session r sentAt = (site zone).session submission sentAt := by
    rw [Site.session, Site.session, Request.header?, Request.header?, hr]
  refine ⟨u, ?_, hid⟩
  rw [Site.userOf?, hsession, userId_session, Option.bind_some, hget]

theorem route_today : Route.ofPath? "/entries/2010-11-07" = some (.page (.entry "2010-11-07")) ∧
    Site.dateIn? "2010-11-07" = some "2010-11-07" := by
  decide

theorem account_visitor :
    (((site .utc).after .initial [arrivedAgain]).users.get? visitor).map User.id =
      some visitor := by
  decide +kernel

theorem asks_sending (payload : String) :
    (site .utc).Asks ((site .utc).after .initial [arrivedAgain]) (sending payload) .post visitor
      "2010-11-07" :=
  ⟨rfl, ⟨_, route_today⟩, userOf?_visitor .utc rfl account_visitor⟩

theorem saves_sending {payload text : String} (h : Submission.Spells text (Utf8.encode payload))
    (hlimit : (Utf8.encode payload).length ≤ Site.bodyLimit) :
    (site .utc).SavesFor ((site .utc).after .initial [arrivedAgain]) (sending payload) visitor
      "2010-11-07" := by
  have hjson : Site.announcesJson submission = true := by decide
  obtain ⟨u, howner, -⟩ := (asks_sending payload).owner
  obtain ⟨e, hstatus, -⟩ := (site .utc).respond_submission (c := scene sentAt)
    (inMemory_scene _) rfl route_today.1 howner route_today.2 (by decide)
    (Site.submission_of_decodeStart hjson hlimit h.decodeStart) (by decide)
  exact ⟨asks_sending payload, hstatus⟩

/-- Looking leaves the accounts as they are. -/
theorem users_lookedAgain (s : State) :
    ((site .utc).respond lookedAgain.scene s lookedAgain.request).2.1.users = s.users := by
  cases (site .utc).respond_effect lookedAgain.scene s lookedAgain.request with
  | read same => exact same.users
  | register p u route => cases route_today.1.symm.trans route
  | save user raw date sent e method => cases method

/-- The visitor saves what a payload spells, looks at the day, asks for it again and is then shown
the text. -/
def ReadsAgain (payload text : String) : Prop :=
  let s := (site .utc).after .initial ([arrivedAgain] ++ sending payload :: [lookedAgain])
  (site .utc).SavesFor ((site .utc).after .initial [arrivedAgain]) (sending payload) visitor
      "2010-11-07" ∧
    (site .utc).Asks s lookedAgain .get visitor "2010-11-07" ∧
    ∃ p : Page,
      ((site .utc).respond lookedAgain.scene s lookedAgain.request).1.content = .page p ∧
        p.userId = visitor ∧ p.date = "2010-11-07" ∧ p.body = text ∧ p.saved = true

/-- The visitor is shown the text of either payload. -/
theorem visitor_reads_submission :
    ReadsAgain plainPayload "again" ∧ ReadsAgain spacedPayload "now" := by
  have hreads {payload text : String} (h : Submission.Spells text (Utf8.encode payload))
      (hlimit : (Utf8.encode payload).length ≤ Site.bodyLimit) : ReadsAgain payload text := by
    have hsaves := saves_sending h hlimit
    have hasks : (site .utc).Asks
        ((site .utc).after .initial ([arrivedAgain] ++ sending payload :: [lookedAgain]))
        lookedAgain .get visitor "2010-11-07" := by
      obtain ⟨_, _, -, -, -, -, hw⟩ := hsaves.wrote
      refine ⟨rfl, ⟨_, route_today⟩, userOf?_visitor .utc rfl ?_⟩
      rw [Site.after_append, Site.after_cons, Site.after_cons, Site.after, List.foldl_nil,
        users_lookedAgain, hw.users]
      exact account_visitor
    have honly (before : List Visit) (v : Visit) (later : List Visit)
        (hvisits : [lookedAgain] = before ++ v :: later) :
        ¬(site .utc).SavesFor
          ((site .utc).after .initial ([arrivedAgain] ++ sending payload :: before)) v visitor
            "2010-11-07" := by
      intro hagain
      have hv : v = lookedAgain := by
        rw [← List.mem_singleton, hvisits]
        exact List.mem_append_right _ List.mem_cons_self
      subst hv
      cases hagain.asks.method_eq
    obtain ⟨body, id, updatedAt, -, hbody, -, hread, -⟩ := (site .utc).read_your_writes
      [arrivedAgain] [lookedAgain] (sending payload) visitor "2010-11-07" hsaves honly
    obtain rfl := hbody text h
    exact ⟨hsaves, hasks, _, (hread lookedAgain (inMemory_scene _) hasks).2.1, rfl, rfl, rfl, rfl⟩
  exact ⟨hreads spells_plain (by decide), hreads spells_spaced (by decide)⟩

end Sample

end Daybook
