import Daybook.Proofs.Zone.MonthStart

/-!
# The years in which clocks are changed

The rules and the ends of eras name days of the years 1800 to 2100, so no zone of the catalogue
changes its clock before the year 1700 or after the year 2200.  In other years a zone loses no
midnight and sets no day back.

## Main definitions

* `IsEventful` : an instant of the years 1700 to 2199.
* `Era.Dated` : the rules and the end of an era name days of the calendar.

## Main results

* `Era.isEventful_of_mem_unrollAll` : the spans of a history begin in these years.
* `Zone.isEventful_of_named?` : so do the changes of the clock in the zones of the catalogue.
* `Zone.year_of_losesMidnight` : the years in which a midnight can be lost.
* `Zone.dateAt_startOfDay_eq_or` : what the calendar shows at the beginning of a day.
-/

namespace Daybook

/-- An instant is *eventful* when it is in the years in which the clocks of zones can be changed. -/
def IsEventful (t : Int) : Prop :=
  (⟨1700, 1, 1⟩ : Date).midnight ≤ t ∧ t ≤ (⟨2200, 1, 1⟩ : Date).midnight

theorem isEventful_iff {t : Int} : IsEventful t ↔ -98615 * 86400 ≤ t ∧ t ≤ 84006 * 86400 := by
  have hstart : (⟨1700, 1, 1⟩ : Date).midnight = -98615 * 86400 := by decide
  have hend : (⟨2200, 1, 1⟩ : Date).midnight = 84006 * 86400 := by decide
  rw [IsEventful, hstart, hend]

/-- The days of other years are at least a year away. -/
theorem Date.dayNumber_of_year {d : Date} (hd : d.Valid) :
    (d.year < 1699 → d.dayNumber < -98980) ∧ (2200 < d.year → 84370 < d.dayNumber) :=
  ⟨fun h => dayNumber_lt_dayNumber (b := ⟨1699, 1, 1⟩) hd (by decide) (.inl h),
    fun h => dayNumber_lt_dayNumber (a := ⟨2200, 12, 31⟩) (by decide) hd (.inl h)⟩

/-! ### Days that are picked by rules -/

/-- The number of the day that a rule names, or the greatest number of all. -/
def DayRule.named : DayRule → Nat
  | .on day => day
  | .last _ => 31
  | .onOrAfter _ day => day
  | .onOrBefore _ day => day

/-- A rule picks a day about the year that it is applied to. -/
theorem DayRule.dayNumber_bounds (year : Int) {month : Nat} (hmonth : month ≤ 12) {rule : DayRule}
    (hday : rule.named ≤ 31) :
    daysBeforeYear year - 7 ≤ rule.dayNumber year month + epochDay ∧
      rule.dayNumber year month + epochDay ≤ daysBeforeYear year + 410 := by
  have hbefore := daysBeforeMonth_le year month
  have hlength := monthLength_le year month
  cases rule <;>
    simp only [dayNumber, dayNumber.backTo, named, Date.dayNumber] at hday ⊢ <;>
    omega

/-- A time of day on a day that a rule picks in a month. -/
def IsDated (month : Nat) (day : DayRule) (time : Int) : Prop :=
  month ≤ 12 ∧ day.named ≤ 31 ∧ -(2 * secondsPerDay) ≤ time ∧ time ≤ 2 * secondsPerDay

instance (month : Nat) (day : DayRule) (time : Int) : Decidable (IsDated month day time) :=
  inferInstanceAs (Decidable (_ ∧ _))

/-- It is eventful in the years 1800 to 2100, by any clock. -/
theorem IsDated.isEventful {month : Nat} {day : DayRule} {time ahead year : Int}
    (h : IsDated month day time) (hahead : IsOffset ahead) (hlow : 1800 ≤ year)
    (hhigh : year ≤ 2100) :
    IsEventful (day.dayNumber year month * secondsPerDay + time - ahead) := by
  obtain ⟨hmonth, hday, htime⟩ := h
  obtain ⟨hearliest, hlatest⟩ := day.dayNumber_bounds year hmonth hday
  have hfirst : daysBeforeYear 1800 ≤ daysBeforeYear year := by
    simp only [daysBeforeYear]
    omega
  have hlast : daysBeforeYear year ≤ daysBeforeYear 2100 := by
    simp only [daysBeforeYear]
    omega
  have hyears : daysBeforeYear 1800 = 657437 ∧ daysBeforeYear 2100 = 767010 := by decide
  rw [isEventful_iff]
  simp only [IsOffset, secondsPerDay, epochDay] at hahead htime hearliest hlatest ⊢
  omega

/-! ### The spans of a history -/

theorem Clock.isOffset_ahead {offset saving : Int} (hoffset : IsOffset offset)
    (htotal : IsOffset (offset + saving)) (c : Clock) : IsOffset (c.ahead offset saving) := by
  cases c with
  | wall => exact htotal
  | standard => exact hoffset
  | universal =>
    rw [ahead]
    decide

namespace Era

/-- The rules that an era follows. -/
def rules (era : Era) : List Rule :=
  match era.saving with
  | .fixed _ => []
  | .recurring rules => rules

/-- The rules and the end of an era name days of the calendar, the end one of the years 1800 to
2100. -/
structure Dated (era : Era) : Prop where
  moderate : era.Moderate
  offset : IsOffset era.offset
  rules : ∀ r ∈ era.rules, IsDated r.month r.day r.time
  ends : ∀ e ∈ era.ends, (1800 ≤ e.year ∧ e.year ≤ 2100) ∧ IsDated e.month e.day e.time

instance (era : Era) : Decidable era.Dated :=
  decidable_of_iff (_ ∧ _ ∧ _ ∧ _)
    ⟨fun ⟨h₁, h₂, h₃, h₄⟩ => ⟨h₁, h₂, h₃, h₄⟩, fun ⟨h₁, h₂, h₃, h₄⟩ => ⟨h₁, h₂, h₃, h₄⟩⟩

namespace Dated

variable {era : Era} (h : era.Dated)

include h

/-- The clocks of an era are never a day from universal time. -/
theorem isOffset_ahead {saving : Int} (hsaving : saving ∈ era.savings) (c : Clock) :
    IsOffset (c.ahead era.offset saving) :=
  Clock.isOffset_ahead h.offset (h.moderate saving hsaving) c

/-- The spans that are found with the rules of an era begin in eventful years. -/
theorem isEventful_of_mem_applyYears {rules : List Rule} (hsaving : era.saving = .recurring rules)
    (start : Int) (needsOpening : Bool) :
    ∀ s ∈ (applyYears era start rules yearCount firstYear ⟨0, 0, false, needsOpening, []⟩).spans,
      IsEventful s.start := by
  -- the saving of the moment decides by which clock the next rule is read
  refine (applyYears_induction
    (P := fun u => u.Within era ∧ ∀ s ∈ u.spans, IsEventful s.start)
    (fun r hr year hlow hhigh u u' hu hstep => ?_)
    ⟨within_nil hsaving needsOpening, fun s hs => absurd hs List.not_mem_nil⟩).2
  refine ⟨hu.1.step (saving_mem_savings hsaving hr) hstep, ?_⟩
  cases hstep with
  | early => exact hu.2
  | late =>
    have hdated : IsDated r.month r.day r.time := h.rules r (by rwa [Era.rules, hsaving])
    have hahead := h.isOffset_ahead hu.1.saving r.clock
    exact List.forall_mem_cons.2
      ⟨hdated.isEventful hahead hlow (Int.le_of_lt hhigh), hu.2⟩

/-- The spans of an era begin in eventful years if the era does. -/
theorem isEventful_of_mem_unroll {start : Option Int} (hstart : ∀ t ∈ start, IsEventful t)
    {s : Span} (hs : s ∈ (era.unroll start).1) : IsEventful s.start := by
  unfold unroll at hs
  split at hs
  · obtain ⟨t, ht, rfl⟩ := List.mem_map.1 hs
    exact hstart t (by simpa using ht)
  · next rules hsaving =>
    rcases List.mem_append.1 hs with hs | hs
    · exact h.isEventful_of_mem_applyYears hsaving _ _ s (List.mem_reverse.1 hs)
    · split at hs
      · split_ifs at hs
        · rw [List.mem_singleton.1 hs]
          exact hstart _ rfl
        · cases hs
      · cases hs

end Dated

/-- The spans of a history begin in eventful years. -/
theorem isEventful_of_mem_unrollAll {eras : List Era} (h : ∀ era ∈ eras, era.Dated)
    {start : Option Int} (hstart : ∀ t ∈ start, IsEventful t) {s : Span}
    (hs : s ∈ unrollAll start eras) : IsEventful s.start := by
  induction eras generalizing start with
  | nil => cases hs
  | cons era eras ih =>
    obtain ⟨hera, heras⟩ := List.forall_mem_cons.1 h
    rcases List.mem_append.1 hs with hs | hs
    · exact hera.isEventful_of_mem_unroll hstart hs
    · -- the next era opens where this one ends
      refine ih heras (fun t ht => ?_) hs
      obtain ⟨e, he, rfl⟩ := Option.map_eq_some_iff.1 ht
      obtain ⟨⟨hlow, hhigh⟩, hdated⟩ := hera.ends e he
      exact hdated.isEventful (hera.isOffset_ahead (unroll_saving_mem era start) e.clock) hlow hhigh

end Era

/-! ### Zones -/

namespace Zone

/-- The clock of a zone is changed in eventful years if all eras of its history name days of the
calendar. -/
theorem isEventful_ofEras {eras : List Era} (h : ∀ era ∈ eras, era.Dated) :
    ∀ change ∈ (ofEras eras).transitions, IsEventful change.instant := by
  intro change hchange
  have hsub := (Era.map_instant_changes_sublist (ofEras eras).initial
    (Era.join [] (Era.inOrder (Era.unrollAll none eras)))).trans
      (Era.map_start_join_sublist [] (Era.inOrder (Era.unrollAll none eras)))
  obtain ⟨s, hs, hstart⟩ := List.mem_map.1 (hsub.subset (List.mem_map_of_mem hchange))
  rw [← hstart]
  exact Era.isEventful_of_mem_unrollAll h (by simp) (Era.mem_inOrder_iff.1 hs)

/-- All eras in the catalogue name days of the calendar. -/
theorem dated_of_mem_histories : ∀ history ∈ histories, ∀ era ∈ history.2, era.Dated := by
  decide +kernel

/-- No zone of the catalogue changes its clock before the year 1700 or after the year 2200. -/
theorem isEventful_of_named? {name : String} {z : Zone} (h : named? name = some z) :
    ∀ change ∈ z.transitions, IsEventful change.instant := by
  obtain ⟨eras, heras, rfl⟩ := Option.map_eq_some_iff.1 h
  exact isEventful_ofEras (dated_of_mem_histories _ (mem_histories_of_history? heras))

/-! ### What happens in other years -/

section

variable {z : Zone} (hz : z.Regular) (h : ∀ change ∈ z.transitions, IsEventful change.instant)

include hz h

/-- No midnight of other years is skipped. -/
theorem not_skipsMidnight {d : Date} (hd : d.Valid) (hyear : d.year < 1699 ∨ 2200 < d.year) :
    ∀ change ∈ z.transitions, ¬z.SkipsMidnight change d := by
  rintro change hmem ⟨hbefore, hafter⟩
  have hinstant := isEventful_iff.1 (h change hmem)
  have hoffset := (hz.isOffset_offsetAt change.instant).2
  have hoffset' := (hz.isOffset_offsetAt (change.instant - 1)).1
  have hday := Date.dayNumber_of_year hd
  simp only [readingAt, Date.midnight, secondsPerDay] at hbefore hafter hoffset hoffset'
  omega

/-- A midnight is lost in eventful years only. -/
theorem year_of_losesMidnight {d : Date} (hd : d.Valid) (hlost : z.LosesMidnight d) :
    1699 ≤ d.year ∧ d.year ≤ 2200 := by
  by_contra hyear
  exact not_losesMidnight hz (not_skipsMidnight hz h hd (by omega)) hlost

/-- The calendar shows a day at its beginning, or shows a day of eventful years instead. -/
theorem dateAt_startOfDay_eq_or {d : Date} (hd : d.Valid) (hlow : firstYear < d.year) :
    z.dateAt (z.startOfDay d) = d ∨
      1698 ≤ (z.dateAt (z.startOfDay d)).year ∧ (z.dateAt (z.startOfDay d)).year ≤ 2200 := by
  by_cases hlost : z.LosesMidnight d
  · have hyear := year_of_losesMidnight hz h hd hlost
    have hpred := Date.year_pred hd
    rw [dateAt_startOfDay_of_losesMidnight hz hlost]
    omega
  · exact .inl (dateAt_startOfDay hz hd (Date.first_lt_of_firstYear_lt hd hlow) hlost)

/-- In other years it shows the day. -/
theorem dateAt_startOfDay_of_year {d : Date} (hd : d.Valid) (hlow : firstYear < d.year)
    (hyear : d.year < 1699 ∨ 2200 < d.year) : z.dateAt (z.startOfDay d) = d := by
  refine dateAt_startOfDay hz hd (Date.first_lt_of_firstYear_lt hd hlow) fun hlost => ?_
  have hlostYear := year_of_losesMidnight hz h hd hlost
  omega

/-- Once a day of later years has begun, the calendar shows no earlier day. -/
theorem not_dateAt_lt_of_startOfDay_le {d : Date} (hd : d.Valid) (hyear : 2200 < d.year) {t : Int}
    (hle : z.startOfDay d ≤ t) : ¬z.dateAt t < d := by
  intro hbefore
  have hlow : firstYear < d.year := Int.lt_trans (by decide) hyear
  have hshown := dateAt_startOfDay_of_year hz h hd hlow (.inr hyear)
  -- the clock would have been set back later than it ever is
  rw [← hshown] at hbefore
  obtain ⟨change, hmem, ⟨hafter, -⟩, -⟩ := exists_setsDayBack hle hbefore
  have hinstant := isEventful_iff.1 (h change hmem)
  have hmidnight := ((dateAt_eq_iff hd _).1 hshown).1
  have hoffset := (hz.isOffset_offsetAt (z.startOfDay d)).2
  have hday := (Date.dayNumber_of_year hd).2 hyear
  simp only [readingAt, Date.midnight, secondsPerDay] at hmidnight hoffset
  omega

end

end Zone

end Daybook
