import Daybook.Proofs.Calendar.DateText
import Daybook.Proofs.Site.History
import Daybook.Proofs.Zone.SetBack
import Daybook.Proofs.Zone.Unrolling

/-!
# Entries of the past

An entry is written on its own day only, so once the calendar has moved on it should stay as it is.
It does, as long as the calendar does not come back to the day: a zone whose clock is set back over
midnight opens the day before once more.  Newfoundland did so every autumn until 2011.

## Main definitions

* `Visit.InOrder` : histories in which the clock never goes back.
* `Site.SealsPast` : what has been seen to be past is never written again.

## Main results

* `Site.dateAt_of_changed` : an entry is changed on its own day only.
* `Site.past_entry_kept_or_day_set_back` : the only way in which a past entry is written again.
* `Site.sealsPast_of_not_setsDayBack` : past entries are sealed where the day is never set back.
* `Site.not_sealsPast_of_named` : there are zones in which they are not.
-/

namespace Daybook

/-- The clock never goes back from one visit to a later one. -/
def Visit.InOrder (visits : List Visit) : Prop :=
  visits.Pairwise fun v w =>
    v.scene.now.seconds < w.scene.now.seconds ∨
      v.scene.now.seconds = w.scene.now.seconds ∧ v.scene.now.nanos ≤ w.scene.now.nanos

namespace Visit.InOrder

theorem seconds_le {past between : List Visit} {seen later : Visit}
    (h : InOrder (past ++ seen :: (between ++ [later]))) :
    seen.scene.now.seconds ≤ later.scene.now.seconds := by
  have hmem : later ∈ between ++ [later] := List.mem_append_right between List.mem_cons_self
  have hle := List.rel_of_pairwise_cons (List.pairwise_append.1 h).2.1 hmem
  omega

end Visit.InOrder

namespace Site

variable {site : Site}

/-- An entry is changed on its own day only. -/
theorem dateAt_of_changed {c : Scene} {s : State} {r : Request} {user : Uuid} {date : String}
    {d : Date} (hdate : Date.parse? date = some d)
    (hne : (site.respond c s r).2.1.entries.find? user date ≠ s.entries.find? user date) :
    site.zone.dateAt c.now.seconds = d := by
  have heffect := site.respond_effect c s r
  generalize (site.respond c s r).2.1 = s' at hne heffect
  cases heffect with
  | read same => exact absurd (by rw [same.entries]) hne
  | register p u _ _ registered => exact absurd (by rw [registered.entries]) hne
  | save owner raw date' sent e _ _ _ _ _ today _ wrote =>
    by_cases hk : (user, date) = (owner.id, date')
    · rw [(Prod.mk.inj hk).2, today] at hdate
      exact (Date.eq_of_parse?_text (Date.valid_ofDayNumber _) hdate).symm
    · exact absurd (wrote.get?_of_ne hk) hne

/-- A site *seals the past* when no entry is changed by a request that comes after one at which the
calendar showed a day later than the entry's. -/
def SealsPast (site : Site) : Prop :=
  ∀ (past between : List Visit) (seen later : Visit) (user : Uuid) (date : String) (d : Date),
    (∀ v ∈ past ++ seen :: (between ++ [later]), v.scene.InMemory) →
      Visit.InOrder (past ++ seen :: (between ++ [later])) → Date.parse? date = some d →
        d < site.zone.dateAt seen.scene.now.seconds →
          let s := site.after .initial (past ++ seen :: between)
          (site.respond later.scene s later.request).2.1.entries.find? user date =
            s.entries.find? user date

/-- If a past entry is changed, the calendar shows its day again, and a transition has set the day
back in the meantime. -/
theorem exists_setsDayBack_of_changed {c c' : Scene} {s : State} {r : Request} {user : Uuid}
    {date : String} {d : Date} (hle : c.now.seconds ≤ c'.now.seconds)
    (hdate : Date.parse? date = some d) (hpast : d < site.zone.dateAt c.now.seconds)
    (hne : (site.respond c' s r).2.1.entries.find? user date ≠ s.entries.find? user date) :
    site.zone.dateAt c'.now.seconds = d ∧
      ∃ change ∈ site.zone.transitions,
        (c.now.seconds < change.instant ∧ change.instant ≤ c'.now.seconds) ∧
          site.zone.SetsDayBack change := by
  have hday := dateAt_of_changed hdate hne
  rw [← hday] at hpast
  exact ⟨hday, Zone.exists_setsDayBack hle hpast⟩

/-- Past entries are sealed in a zone whose transitions never set the day back. -/
theorem sealsPast_of_not_setsDayBack
    (h : ∀ change ∈ site.zone.transitions, ¬site.zone.SetsDayBack change) : site.SealsPast := by
  intro past between seen later user date d _ horder hdate hpast
  refine Classical.byContradiction fun hne => ?_
  obtain ⟨-, change, hmem, -, hback⟩ :=
    exists_setsDayBack_of_changed horder.seconds_le hdate hpast hne
  exact h change hmem hback

/-- Once the calendar has shown a day later than that of an entry, a request leaves the entry as it
is, unless the calendar shows its day again since a transition of the zone has set the day back in
the meantime. -/
theorem past_entry_kept_or_day_set_back (site : Site) (past between : List Visit)
    (seen later : Visit) (user : Uuid) (date : String) (d : Date)
    (horder : Visit.InOrder (past ++ seen :: (between ++ [later])))
    (hdate : Date.parse? date = some d) (hpast : d < site.zone.dateAt seen.scene.now.seconds) :
    let s := site.after .initial (past ++ seen :: between)
    (site.respond later.scene s later.request).2.1.entries.find? user date =
        s.entries.find? user date ∨
      site.zone.dateAt later.scene.now.seconds = d ∧
        ∃ change ∈ site.zone.transitions,
          (seen.scene.now.seconds < change.instant ∧ change.instant ≤ later.scene.now.seconds) ∧
            site.zone.SetsDayBack change := by
  intro s
  by_cases hkept : (site.respond later.scene s later.request).2.1.entries.find? user date =
      s.entries.find? user date
  · exact .inl hkept
  · exact .inr (exists_setsDayBack_of_changed horder.seconds_le hdate hpast hkept)

set_option maxRecDepth 100000 in
/-- Past entries are sealed in the zone that is taken when none is configured. -/
theorem sealsPast_tokyo (hzone : Zone.named? "Asia/Tokyo" = some site.zone) : site.SealsPast := by
  have hall : (Zone.named? "Asia/Tokyo").all (fun z =>
      decide (∀ change ∈ z.transitions, ¬z.SetsDayBack change)) = true := by decide +kernel
  rw [hzone, Option.all_some] at hall
  exact sealsPast_of_not_setsDayBack (of_decide_eq_true hall)

end Site

/-! ### Newfoundland

The clock was set back at one minute past midnight on 7 November 2010, to 23:01 of the day
before. -/

namespace Sample

/-- The zone of Newfoundland. -/
def newfoundland : Zone :=
  (Zone.named? "America/St_Johns").getD .utc

/-- At 23:59 the visitor arrives. -/
def arrived : Visit :=
  ⟨scene (.atSecond 1289096940 (by decide)), arrival⟩

/-- Half a minute past midnight somebody looks at the site. -/
def looked : Visit :=
  ⟨scene (.atSecond 1289097030 (by decide)), ⟨.get, "/", "", [], []⟩⟩

/-- At 23:10 the visitor sends a text for the day before. -/
def sent : Visit :=
  ⟨scene sentAt, submission⟩

set_option maxRecDepth 100000 in
/-- The zone is known, and it shows the day after and then the day itself again. -/
theorem newfoundland_set_back :
    Zone.named? "America/St_Johns" = some newfoundland ∧
      newfoundland.dateAt looked.scene.now.seconds = ⟨2010, 11, 7⟩ ∧
      newfoundland.dateAt sent.scene.now.seconds = ⟨2010, 11, 6⟩ := by
  have h : ((Zone.named? "America/St_Johns").map fun z =>
      (z.dateAt looked.scene.now.seconds, z.dateAt sent.scene.now.seconds)) =
        some (⟨2010, 11, 7⟩, ⟨2010, 11, 6⟩) := by decide +kernel
  obtain ⟨hnamed, hdates⟩ := Zone.named?_getD_utc h
  exact ⟨hnamed, Prod.mk.inj hdates⟩

/-- Nothing is written under the day when it has passed, and still the text is put. -/
theorem find?_sent_ne :
    let s := (site newfoundland).after .initial ([arrived] ++ looked :: [])
    ((site newfoundland).respond sent.scene s sent.request).2.1.entries.find? visitor "2010-11-06" ≠
      s.entries.find? visitor "2010-11-06" := by
  intro s
  have hstate : (s.entries.find? visitor "2010-11-06", (s.users.get? visitor).map User.id) =
      (none, some visitor) := by decide +kernel
  obtain ⟨hbefore, haccount⟩ := Prod.mk.inj hstate
  have hc : sent.scene.InMemory := inMemory_scene _
  obtain ⟨user, hget, hid⟩ := Option.map_eq_some_iff.1 haccount
  have howner : (site newfoundland).userOf? submission sentAt s.users = some user := by
    rw [Site.userOf?, userId_session, Option.bind_some, hget]
  have htoday : "2010-11-06" = Journal.today (site newfoundland).zone sent.scene.now := by
    rw [zone_site, Journal.today, newfoundland_set_back.2.2]
    decide
  have hroute : Route.ofPath? submission.path = some (.page (.entry "2010-11-06")) := by decide
  have hdecoded : Site.dateIn? "2010-11-06" = some "2010-11-06" := by decide
  have hread : (Site.submission submission).isOk = true := by decide +kernel
  cases hbody : Site.submission submission with
  | error message =>
    rw [hbody] at hread
    cases hread
  | ok text =>
    obtain ⟨e, -, -, hw⟩ := (site newfoundland).respond_submission (r := sent.request) hc rfl hroute
      howner hdecoded (by decide) hbody htoday
    rw [hid] at hw
    rw [hbefore, Entries.find?, hw.get?_self]
    exact Option.some_ne_none e

theorem inOrder_newfoundland : Visit.InOrder ([arrived] ++ looked :: ([] ++ [sent])) := by
  simp [Visit.InOrder, arrived, looked, sent, scene, sentAt]

theorem lt_dateAt_looked :
    ⟨2010, 11, 6⟩ < (site newfoundland).zone.dateAt looked.scene.now.seconds := by
  rw [zone_site, newfoundland_set_back.2.1]
  decide

end Sample

namespace Site

/-- There are zones in which past entries are not sealed. -/
theorem not_sealsPast_of_named :
    ¬∀ (site : Site) (name : String), Zone.named? name = some site.zone → site.SealsPast := by
  intro h
  have hnamed : Zone.named? "America/St_Johns" = some (Sample.site Sample.newfoundland).zone := by
    rw [Sample.zone_site]
    exact Sample.newfoundland_set_back.1
  have hmemory : ∀ v ∈ [Sample.arrived] ++ Sample.looked :: ([] ++ [Sample.sent]),
      v.scene.InMemory := by
    simp [Sample.arrived, Sample.looked, Sample.sent, Sample.inMemory_scene]
  exact Sample.find?_sent_ne (h _ _ hnamed [Sample.arrived] [] Sample.looked Sample.sent
    Sample.visitor "2010-11-06" _ hmemory Sample.inOrder_newfoundland Sample.parse?_submitted
    Sample.lt_dateAt_looked)

/-- In Newfoundland a transition has set the day back while the visitor was about. -/
theorem newfoundland_day_set_back :
    Visit.InOrder ([Sample.arrived] ++ Sample.looked :: ([] ++ [Sample.sent])) ∧
      Date.parse? "2010-11-06" = some ⟨2010, 11, 6⟩ ∧
      ⟨2010, 11, 6⟩ < Sample.newfoundland.dateAt Sample.looked.scene.now.seconds ∧
      ∃ change ∈ Sample.newfoundland.transitions,
        (Sample.looked.scene.now.seconds < change.instant ∧
            change.instant ≤ Sample.sent.scene.now.seconds) ∧
          Sample.newfoundland.SetsDayBack change := by
  have hkept_or := (Sample.site Sample.newfoundland).past_entry_kept_or_day_set_back
    [Sample.arrived] [] Sample.looked Sample.sent Sample.visitor "2010-11-06" _
    Sample.inOrder_newfoundland Sample.parse?_submitted Sample.lt_dateAt_looked
  have hback := hkept_or.resolve_left Sample.find?_sent_ne
  have hpast := Sample.lt_dateAt_looked
  rw [Sample.zone_site] at hback hpast
  exact ⟨Sample.inOrder_newfoundland, Sample.parse?_submitted, hpast, hback.2⟩

end Site

end Daybook
