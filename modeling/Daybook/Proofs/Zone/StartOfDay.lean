import Daybook.Proofs.Calendar.Months
import Daybook.Proofs.Zone.Unrolling

/-!
# The beginning of a day

The clock of a regular zone shows the midnight of a day at the earliest instant that is found in the
transitions, or never.  A day whose midnight the clock skips is taken to begin at midnight of
universal time, and in a zone that is behind universal time at that moment the calendar then still
shows the day before.

## Main definitions

* `Date.midnight` : the clock reading at the beginning of a day.
* `Zone.LosesMidnight` : the clock skips a midnight while it is behind universal time.

## Main results

* `Zone.firstReading?_eq_some_iff` : the earliest instant with a clock reading.
* `Zone.dateAt_startOfDay` : the calendar shows the day at its beginning, unless it has lost the
  midnight.
* `Zone.dateAt_startOfDay_of_losesMidnight` : and then it shows the day before.
-/

namespace Daybook

/-- The clock reading at the beginning of a day. -/
def Date.midnight (d : Date) : Int :=
  d.dayNumber * secondsPerDay

namespace Zone

/-! ### Offsets -/

private theorem offsetFrom_of_forall {P : Int → Prop} {offset : Int} {changes : List Transition}
    (hoffset : P offset) (hchanges : ∀ change ∈ changes, P change.offset) (t : Int) :
    P (offsetFrom offset changes t) := by
  induction changes generalizing offset with
  | nil => exact hoffset
  | cons next later ih =>
    obtain ⟨hnext, hlater⟩ := List.forall_mem_cons.1 hchanges
    rw [offsetFrom]
    split_ifs
    · exact hoffset
    · exact ih hnext hlater

/-- What is true of the first offset and of those after the transitions is true at every instant. -/
theorem offsetAt_of_forall {P : Int → Prop} {z : Zone} (hinitial : P z.initial)
    (hchanges : ∀ change ∈ z.transitions, P change.offset) (t : Int) : P (z.offsetAt t) :=
  offsetFrom_of_forall hinitial hchanges t

/-- In a regular zone, the clock is never a day from universal time. -/
theorem Regular.isOffset_offsetAt {z : Zone} (h : z.Regular) (t : Int) : IsOffset (z.offsetAt t) :=
  offsetAt_of_forall h.initial h.offsets t

/-! ### The first time that the clock shows a reading -/

private theorem all_le_iff {start : Option Int} {t : Int} :
    start.all (· ≤ t) = true ↔ ∀ s ∈ start, s ≤ t := by
  simp only [Option.all_eq_true, decide_eq_true_eq, Option.mem_def]

private theorem firstReadingFrom?_sound {start : Option Int} {offset reading t : Int}
    {changes : List Transition} (hsorted : changes.Pairwise fun a b => a.instant ≤ b.instant)
    (hstart : ∀ s ∈ start, ∀ change ∈ changes, s ≤ change.instant)
    (h : firstReadingFrom? start offset changes reading = some t) :
    (∀ s ∈ start, s ≤ t) ∧ t + offsetFrom offset changes t = reading := by
  induction changes generalizing start offset with
  | nil =>
    simp only [firstReadingFrom?] at h
    split_ifs at h with hle
    cases h
    exact ⟨all_le_iff.1 hle, by simp only [offsetFrom]; omega⟩
  | cons next later ih =>
    obtain ⟨hnext, hlater⟩ := List.pairwise_cons.1 hsorted
    simp only [firstReadingFrom?] at h
    split_ifs at h with hspan
    · cases h
      obtain ⟨hle, hlt⟩ := hspan
      exact ⟨all_le_iff.1 hle, by rw [offsetFrom, if_pos hlt]; omega⟩
    · -- the reading is found in a later span, which is not over before the present one is
      obtain ⟨hle, hreading⟩ := ih hlater (by simpa using hnext) h
      have hge : next.instant ≤ t := hle next.instant rfl
      refine ⟨fun s hs => Int.le_trans (hstart s hs next List.mem_cons_self) hge, ?_⟩
      rwa [offsetFrom, if_neg (Int.not_lt.2 hge)]

private theorem firstReadingFrom?_complete {start : Option Int} {offset reading t : Int}
    {changes : List Transition} (hstart : ∀ s ∈ start, s ≤ t)
    (h : t + offsetFrom offset changes t = reading) :
    ∃ t' ≤ t, firstReadingFrom? start offset changes reading = some t' := by
  induction changes generalizing start offset with
  | nil =>
    have ht : reading - offset = t := by simp only [offsetFrom] at h; omega
    refine ⟨t, Int.le_refl t, ?_⟩
    simp only [firstReadingFrom?, ht]
    exact if_pos (all_le_iff.2 hstart)
  | cons next later ih =>
    rw [offsetFrom] at h
    simp only [firstReadingFrom?]
    split_ifs at h with hlt
    · have ht : reading - offset = t := by omega
      refine ⟨t, Int.le_refl t, ?_⟩
      rw [ht]
      exact if_pos ⟨all_le_iff.2 hstart, hlt⟩
    · by_cases hspan : start.all (· ≤ reading - offset) ∧ reading - offset < next.instant
      · rw [if_pos hspan]
        exact ⟨_, by omega, rfl⟩
      · rw [if_neg hspan]
        exact ih (by simpa using Int.not_lt.1 hlt) h

/-- An instant is found for every reading that the clock shows, and none later. -/
theorem exists_firstReading? {z : Zone} {reading t : Int} (h : z.readingAt t = reading) :
    ∃ t' ≤ t, z.firstReading? reading = some t' := by
  have hnone : ∀ s ∈ (none : Option Int), s ≤ t := by simp
  exact firstReadingFrom?_complete hnone h

/-- The instant that is found for a clock reading is the earliest at which the clock shows it. -/
theorem firstReading?_eq_some_iff {z : Zone} (h : z.Regular) {reading t : Int} :
    z.firstReading? reading = some t ↔
      z.readingAt t = reading ∧ ∀ t', z.readingAt t' = reading → t ≤ t' := by
  have hsound {t : Int} (ht : z.firstReading? reading = some t) : z.readingAt t = reading :=
    (firstReadingFrom?_sound h.sorted (by simp) ht).2
  constructor
  · intro ht
    refine ⟨hsound ht, fun t' ht' => ?_⟩
    obtain ⟨t'', hle, ht''⟩ := exists_firstReading? ht'
    rwa [← Option.some.inj (ht.symm.trans ht'')] at hle
  · rintro ⟨ht, hearliest⟩
    obtain ⟨t', hle, ht'⟩ := exists_firstReading? ht
    rw [ht', Int.le_antisymm hle (hearliest t' (hsound ht'))]

/-- None is found when the clock never shows the reading. -/
theorem firstReading?_eq_none_iff {z : Zone} (h : z.Regular) {reading : Int} :
    z.firstReading? reading = none ↔ ∀ t, z.readingAt t ≠ reading := by
  constructor
  · intro hnone t ht
    obtain ⟨t', -, ht'⟩ := exists_firstReading? ht
    rw [hnone] at ht'
    cases ht'
  · intro hnever
    cases hfirst : z.firstReading? reading with
    | none => rfl
    | some t => exact absurd ((firstReading?_eq_some_iff h).1 hfirst).1 (hnever t)

/-! ### Days and their beginnings -/

variable {z : Zone} {d : Date}

/-- The calendar shows a day as long as the clock is between its midnight and the next. -/
theorem dateAt_eq_iff (hd : d.Valid) (t : Int) :
    z.dateAt t = d ↔ d.midnight ≤ z.readingAt t ∧ z.readingAt t < d.midnight + secondsPerDay := by
  have hnumber : z.dateAt t = d ↔ z.readingAt t / secondsPerDay = d.dayNumber := by
    constructor
    · rintro rfl
      exact (Date.dayNumber_ofDayNumber _).symm
    · intro h
      rw [dateAt, dateOfReading, h, Date.ofDayNumber_dayNumber hd]
  rw [hnumber, Date.midnight, secondsPerDay]
  omega

/-- The clock *loses the midnight* of a day when it skips it, and is behind universal time at that
midnight of universal time. -/
def LosesMidnight (z : Zone) (d : Date) : Prop :=
  (∀ t, z.readingAt t ≠ d.midnight) ∧ z.offsetAt d.midnight < 0

/-- A day whose midnight is skipped is taken to begin at midnight of universal time. -/
theorem startOfDay_of_skipped (hz : z.Regular) (h : ∀ t, z.readingAt t ≠ d.midnight) :
    z.startOfDay d = d.midnight := by
  have hnone : z.firstReading? (d.dayNumber * secondsPerDay) = none :=
    (firstReading?_eq_none_iff hz).2 h
  simp only [startOfDay, hnone]
  rfl

/-- Any other day begins at its earliest midnight, unless that is before the first representable
instant. -/
theorem readingAt_startOfDay (hz : z.Regular) (hlater : Date.first.dayNumber < d.dayNumber)
    (h : ∃ t, z.readingAt t = d.midnight) :
    z.readingAt (z.startOfDay d) = d.midnight ∧
      ∀ t, z.readingAt t = d.midnight → z.startOfDay d ≤ t := by
  obtain ⟨t, ht⟩ := h
  obtain ⟨t', -, hfirst⟩ := exists_firstReading? ht
  have hearliest := (firstReading?_eq_some_iff hz).1 hfirst
  have hrange : firstInstant ≤ t' := by
    have hoffset := (hz.isOffset_offsetAt t').2
    have hreading := hearliest.1
    simp only [readingAt, Date.midnight, firstInstant, secondsPerDay] at hoffset hreading ⊢
    omega
  have hstart : z.startOfDay d = t' := by
    change z.firstReading? (d.dayNumber * secondsPerDay) = some t' at hfirst
    simp only [startOfDay, hfirst, if_pos hrange]
  rw [hstart]
  exact hearliest

/-- The calendar shows the day at its beginning, unless the clock has lost its midnight. -/
theorem dateAt_startOfDay (hz : z.Regular) (hd : d.Valid)
    (hlater : Date.first.dayNumber < d.dayNumber) (h : ¬z.LosesMidnight d) :
    z.dateAt (z.startOfDay d) = d := by
  rw [dateAt_eq_iff hd]
  by_cases hshown : ∃ t, z.readingAt t = d.midnight
  · rw [(readingAt_startOfDay hz hlater hshown).1]
    exact ⟨Int.le_refl _, by simp only [secondsPerDay]; omega⟩
  · have hskipped : ∀ t, z.readingAt t ≠ d.midnight := fun t ht => hshown ⟨t, ht⟩
    have hahead : ¬z.offsetAt d.midnight < 0 := fun hlt => h ⟨hskipped, hlt⟩
    rw [startOfDay_of_skipped hz hskipped, readingAt]
    have hoffset := (hz.isOffset_offsetAt d.midnight).2
    omega

/-- If the clock has lost the midnight, the calendar still shows the day before. -/
theorem dateAt_startOfDay_of_losesMidnight (hz : z.Regular) (h : z.LosesMidnight d) :
    z.dateAt (z.startOfDay d) = Date.ofDayNumber (d.dayNumber - 1) := by
  rw [dateAt_eq_iff (Date.valid_ofDayNumber _), Date.midnight, Date.dayNumber_ofDayNumber,
    startOfDay_of_skipped hz h.1, readingAt]
  have hoffset := (hz.isOffset_offsetAt d.midnight).1
  have hbehind := h.2
  simp only [Date.midnight, secondsPerDay] at hoffset hbehind ⊢
  omega

end Zone

end Daybook
