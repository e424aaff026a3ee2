import Daybook.Proofs.Session.Cookies
import Mathlib.Data.List.DropRight
import Mathlib.Data.List.Induction

/-!
# Sessions lose nothing

A session changes when its user logs in or out, when a message is added and when the pending ones
are taken, and it is written to a cookie and read back.  Whatever is done in which order, every
message that was added is delivered once or still pending, the last login or logout decides who is
logged in, and a session that does not say that it was changed is as it was when it was read.

## Main definitions

* `Cookie.value`, `Session.reload` : the value that a cookie is set to, and the session that is read
  from it.
* `Session.Step`, `Session.perform` : what can be done with a session, and what comes of it.
* `Session.after`, `Session.delivered` : the session after some steps, and the messages that these
  have delivered.
* `Session.lastRead` : the session when it was read for the last time.

## Main results

* `Session.reload_eq` : a session is read as it was written.
* `Session.delivered_append_flashes`, `Session.userId_after`, `Session.eq_lastRead_of_unchanged` :
  what becomes of the messages, of the user, and of a session that was not changed.
* `Session.delivered_append_takeFlashes` : nothing is pending when the messages were taken.
* `Session.nothing_lost` : no sequence of steps loses anything.
-/

namespace Daybook

/-! ### The value of a cookie -/

namespace Cookie

/-- The value that a text sets a cookie to, which ends where the attributes begin. -/
def value (text : String) : String :=
  String.ofList (Text.after '=' (Text.before ';' text.toList))

section

variable {name : String} (hname : ∀ c ∈ name.toList, IsPlain c)

include hname

theorem value_append {content : String} (hcontent : ∀ c ∈ content.toList, IsPlain c)
    (rest : String) : value (name ++ "=" ++ content ++ attributes ++ rest) = content := by
  have htext : (name ++ "=" ++ content ++ attributes ++ rest).toList =
      (name.toList ++ '=' :: content.toList) ++ ';' :: (attributes.toList.tail ++ rest.toList) := by
    simp [attributes]
  obtain ⟨-, hequals, -⟩ := IsPlain.not_isPlain_separators
  rw [value, htext, Text.before_append (semicolon_notMem hname hcontent),
    Text.after_append (notMem_of_isPlain hname hequals), String.ofList_toList]

/-- A cookie that is cleared has no value. -/
theorem value_clear : value (clear name) = "" := by
  have h : value (name ++ "=" ++ "" ++ attributes ++ "0") = "" := value_append hname (by simp) "0"
  rwa [String.append_empty] at h

theorem value_set {token : String} (htoken : ∀ c ∈ token.toList, IsPlain c) (days : Int64)
    (secure : Bool) : value (set name token days secure) = token := by
  rw [set, String.append_assoc]
  exact value_append hname htoken _

end

end Cookie

namespace Session

/-! ### Reading back -/

/-- The session that is read at a time from the cookie to which it was written at another. -/
def reload (x : Session) (s : LoginSettings) (written read : Instant) : Session :=
  ofToken s read (Cookie.value (x.setCookie s written))

/-- What is written at a time to a cookie has not expired at another. -/
def InTime (s : LoginSettings) (written read : Instant) : Prop :=
  60 ≤ written.seconds ∧ 60 ≤ read.seconds ∧
    read.seconds ≤ written.seconds + s.sessionDays.toInt * 86400 + 60

/-- The empty text is no token. -/
theorem ofToken_empty (s : LoginSettings) (now : Instant) : ofToken s now "" = empty :=
  rfl

/-- A session is read as it was written, unless its token has expired. -/
theorem reload_eq {s : LoginSettings} (hs : KeptForDays s)
    (hname : ∀ c ∈ s.cookieName.toList, Cookie.IsPlain c) (x : Session) {written read : Instant}
    (htime : InTime s written read) :
    ∃ issuedAt, x.reload s written read = ⟨x.userId, x.flashes, issuedAt, false⟩ := by
  obtain ⟨hwritten, hread, hlate⟩ := htime
  unfold reload setCookie
  split_ifs with hempty
  · -- nothing is carried, and nothing is read
    obtain ⟨huser, hflashes⟩ := Bool.and_eq_true_iff.1 hempty
    rw [Cookie.value_clear hname, ofToken_empty, Option.isNone_iff_eq_none.1 huser,
      List.isEmpty_iff.1 hflashes]
    exact ⟨none, rfl⟩
  · rw [Cookie.value_set hname isPlain_of_mem_issueToken, ofToken,
      verify_claimsAt hs hwritten hread, if_pos hlate]
    exact ⟨_, rfl⟩

/-! ### Steps -/

/-- What can be done with a session: its user logs in or out, a message is added, the pending ones
are taken, or it is written to a cookie and read back. -/
inductive Step where
  | login (user : Uuid)
  | logout
  | addFlash (message : String)
  | takeFlashes
  | reload (written read : Instant)
deriving DecidableEq, Repr

namespace Step

/-- The message that a step adds. -/
def added? : Step → Option String
  | addFlash message => some message
  | _ => none

/-- Who is logged in after a login or a logout. -/
def user? : Step → Option (Option Uuid)
  | login user => some (some user)
  | logout => some none
  | _ => none

/-- Whether the session is read in a step. -/
def reads : Step → Bool
  | reload _ _ => true
  | _ => false

/-- If the session is read, its token has not expired. -/
def Timely (s : LoginSettings) : Step → Prop
  | reload written read => InTime s written read
  | _ => True

end Step

variable (s : LoginSettings)

/-- The messages that a step delivers, and the session after it. -/
def perform (x : Session) : Step → List String × Session
  | .login user => ([], x.login user)
  | .logout => ([], x.logout)
  | .addFlash message => ([], x.addFlash message)
  | .takeFlashes => x.takeFlashes
  | .reload written read => ([], x.reload s written read)

/-- The session after some steps. -/
def after (x : Session) : List Step → Session
  | [] => x
  | step :: steps => after (x.perform s step).2 steps

/-- The messages that some steps deliver, in the order in which they do. -/
def delivered (x : Session) : List Step → List String
  | [] => []
  | step :: steps => (x.perform s step).1 ++ delivered (x.perform s step).2 steps

/-- The session when it was read for the last time, or at the start. -/
def lastRead (x : Session) (steps : List Step) : Session :=
  x.after s (steps.rdropWhile fun step => !step.reads)

variable {s}

theorem after_append (x : Session) (steps steps' : List Step) :
    x.after s (steps ++ steps') = (x.after s steps).after s steps' := by
  induction steps generalizing x with
  | nil => rfl
  | cons step steps ih => exact ih (x.perform s step).2

/-- A step after which the session does not say that it was changed has changed nothing, unless it
was a step in which the session was read. -/
theorem perform_of_unchanged {x : Session} {step : Step} (hreads : step.reads = false)
    (h : (x.perform s step).2.changed = false) : (x.perform s step).2 = x := by
  cases step with
  | login | logout | addFlash => cases h
  | reload => cases hreads
  | takeFlashes =>
    obtain ⟨user, flashes, issuedAt, changed⟩ := x
    obtain ⟨rfl, hnone⟩ := Bool.or_eq_false_iff.1 h
    rw [Bool.not_eq_false', List.isEmpty_iff] at hnone
    cases hnone
    rfl

/-- A session that does not say that it was changed is as it was when it was read. -/
theorem eq_lastRead_of_unchanged (x : Session) (steps : List Step)
    (h : (x.after s steps).changed = false) : x.after s steps = x.lastRead s steps := by
  induction steps using List.reverseRecOn with
  | nil => rfl
  | append_singleton steps step ih =>
    rw [after_append] at h
    rw [lastRead, List.rdropWhile_concat]
    cases hreads : step.reads with
    | true => rfl
    | false =>
      have hsame : ((x.after s steps).perform s step).2 = x.after s steps :=
        perform_of_unchanged hreads h
      rw [after_append]
      change ((x.after s steps).perform s step).2 = x.lastRead s steps
      rw [hsame]
      exact ih (hsame ▸ h)

section

variable (hs : KeptForDays s) (hname : ∀ c ∈ s.cookieName.toList, Cookie.IsPlain c)

include hs hname

/-- The messages after a step are those before it and the one that it adds. -/
theorem perform_flashes (x : Session) {step : Step} (htime : step.Timely s) :
    (x.perform s step).1 ++ (x.perform s step).2.flashes = x.flashes ++ step.added?.toList := by
  cases step with
  | login | logout => exact (List.append_nil _).symm
  | addFlash | takeFlashes => rfl
  | reload written read =>
    obtain ⟨issuedAt, h⟩ := reload_eq hs hname x htime
    rw [perform, h]
    exact (List.append_nil _).symm

/-- The user after a step is the one before it, unless the step decides who is logged in. -/
theorem perform_userId (x : Session) {step : Step} (htime : step.Timely s) :
    (x.perform s step).2.userId = step.user?.getD x.userId := by
  cases step with
  | login | logout | addFlash | takeFlashes => rfl
  | reload written read =>
    obtain ⟨issuedAt, h⟩ := reload_eq hs hname x htime
    rw [perform, h]
    rfl

/-- Every message that was pending or added is delivered or still pending, in order. -/
theorem delivered_append_flashes (x : Session) {steps : List Step}
    (htime : ∀ step ∈ steps, step.Timely s) :
    x.delivered s steps ++ (x.after s steps).flashes =
      x.flashes ++ steps.filterMap Step.added? := by
  induction steps generalizing x with
  | nil => exact (List.append_nil _).symm
  | cons step steps ih =>
    obtain ⟨hstep, hsteps⟩ := List.forall_mem_cons.1 htime
    calc
      _ = (x.perform s step).1 ++ ((x.perform s step).2.delivered s steps ++
          ((x.perform s step).2.after s steps).flashes) := List.append_assoc _ _ _
      _ = (x.perform s step).1 ++ (x.perform s step).2.flashes ++
          steps.filterMap Step.added? := by rw [ih _ hsteps, List.append_assoc]
      _ = x.flashes ++ (step.added?.toList ++ steps.filterMap Step.added?) := by
        rw [perform_flashes hs hname x hstep, List.append_assoc]
      _ = x.flashes ++ (step :: steps).filterMap Step.added? := by
        cases h : step.added? <;> simp [h]

/-- When the pending messages are taken, all that were pending or added so far are delivered. -/
theorem delivered_append_takeFlashes (x : Session) {before : List Step}
    (htime : ∀ step ∈ before, step.Timely s) :
    x.delivered s (before ++ [.takeFlashes]) = x.flashes ++ before.filterMap Step.added? ∧
      (x.after s (before ++ [.takeFlashes])).flashes = [] := by
  have htaken : ∀ step ∈ before ++ [.takeFlashes], step.Timely s := by
    rw [List.forall_mem_append, List.forall_mem_singleton]
    exact ⟨htime, trivial⟩
  have hempty : (x.after s (before ++ [.takeFlashes])).flashes = [] := by
    rw [after_append]
    rfl
  have hall := delivered_append_flashes hs hname x htaken
  rw [hempty, List.append_nil, List.filterMap_append] at hall
  exact ⟨hall.trans (by simp [Step.added?]), hempty⟩

/-- The last login or logout decides who is logged in. -/
theorem userId_after (x : Session) {steps : List Step} (htime : ∀ step ∈ steps, step.Timely s) :
    (x.after s steps).userId = (steps.filterMap Step.user?).getLast?.getD x.userId := by
  induction steps generalizing x with
  | nil => rfl
  | cons step steps ih =>
    obtain ⟨hstep, hsteps⟩ := List.forall_mem_cons.1 htime
    rw [after, ih _ hsteps, perform_userId hs hname x hstep]
    cases h : step.user? with
    | none => simp [h]
    | some user =>
      rw [List.filterMap_cons_some h, List.getLast?_cons, Option.getD_some, Option.getD_some]

end

/-- No sequence of steps loses anything.  What was delivered and what is pending are what was
pending at the start and what was added; whenever the pending messages are taken, all of them are
delivered up to that step, and none is left; the last login or logout decides who is logged in; a
session that does not say that it was changed has the user and the messages with which it was last
read; and reading it back leaves both as they are, unchanged. -/
theorem nothing_lost {s : LoginSettings} (hs : KeptForDays s)
    (hname : s.cookieName = Settings.cookieName) (now : Instant) (token : String)
    (steps : List Step) (htime : ∀ step ∈ steps, step.Timely s) :
    let x := ofToken s now token
    let y := x.after s steps
    x.delivered s steps ++ y.flashes = x.flashes ++ steps.filterMap Step.added? ∧
      (∀ before later, steps = before ++ .takeFlashes :: later →
        x.delivered s (before ++ [.takeFlashes]) = x.flashes ++ before.filterMap Step.added? ∧
          (x.after s (before ++ [.takeFlashes])).flashes = []) ∧
      y.userId = (steps.filterMap Step.user?).getLast?.getD x.userId ∧
      (y.changed = false → y.userId = (x.lastRead s steps).userId ∧
        y.flashes = (x.lastRead s steps).flashes) ∧
      ∀ written read, InTime s written read →
        (y.reload s written read).userId = y.userId ∧
          (y.reload s written read).flashes = y.flashes ∧
            (y.reload s written read).changed = false := by
  intro x y
  have hplain : ∀ c ∈ s.cookieName.toList, Cookie.IsPlain c :=
    hname ▸ Settings.isPlain_of_mem_cookieName
  refine ⟨delivered_append_flashes hs hplain x htime, fun before later hsteps => ?_,
    userId_after hs hplain x htime, fun hchanged => ?_, fun written read hread => ?_⟩
  · rw [hsteps, List.forall_mem_append] at htime
    exact delivered_append_takeFlashes hs hplain x htime.1
  · rw [← eq_lastRead_of_unchanged x steps hchanged]
    exact ⟨rfl, rfl⟩
  · obtain ⟨issuedAt, h⟩ := reload_eq hs hplain y hread
    rw [h]
    exact ⟨rfl, rfl, rfl⟩

/-- A message waits for a day and a minute in its cookie, while its reader logs in and out, and is
delivered then; nothing is left to be carried. -/
theorem nothing_lost_of_message :
    let s : LoginSettings := ⟨"secret", 1, Settings.cookieName, false, "app", "key", "url"⟩
    let early : Instant := ⟨1000000000, 0, by decide, by decide⟩
    let late : Instant := ⟨1000086460, 0, by decide, by decide⟩
    let before : List Step :=
      [.addFlash "Hello", .reload early late, .login default, .logout, .reload late late]
    let steps := before ++ [.takeFlashes]
    let x := ofToken s early ""
    KeptForDays s ∧ s.cookieName = Settings.cookieName ∧ (∀ step ∈ steps, step.Timely s) ∧
      x.delivered s steps = ["Hello"] ∧ (x.after s steps).flashes = [] ∧
      (x.after s steps).userId = none := by
  intro s early late before steps x
  have hs : KeptForDays s := ⟨by decide, by decide⟩
  have htime : ∀ step ∈ steps, step.Timely s := by
    have hlate : InTime s early late := ⟨by decide, by decide, by decide⟩
    have hlast : InTime s late late := ⟨by decide, by decide, by decide⟩
    simp [steps, before, Step.Timely, hlate, hlast]
  obtain ⟨-, htaken, huser, -⟩ := nothing_lost hs rfl early "" steps htime
  obtain ⟨hdelivered, hleft⟩ := htaken before [] rfl
  exact ⟨hs, rfl, htime, hdelivered, hleft, huser⟩

end Session

end Daybook
