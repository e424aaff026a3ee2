import Daybook.Proofs.Calendar.Days
import Daybook.Zone.Basic

/-!
# When the calendar of a zone goes back

The clock of a zone runs on with time, except at its transitions.  So the calendar of a zone can
show an earlier day than before only if a transition has set the clock back over midnight.

## Main definitions

* `Zone.SetsDayBack` : a transition that leads to an earlier day.

## Main results

* `Zone.exists_transition_of_offsetAt_ne` : the offset changes at transitions only.
* `Zone.exists_setsDayBack` : an earlier day is led to by a transition that sets the day back.
-/

namespace Daybook.Zone

/-- A transition *sets the day back* when the calendar shows an earlier day than a second before. -/
def SetsDayBack (z : Zone) (change : Transition) : Prop :=
  z.dateAt change.instant < z.dateAt (change.instant - 1)

instance (z : Zone) (change : Transition) : Decidable (z.SetsDayBack change) :=
  inferInstanceAs (Decidable (_ < _))

/-- The calendar shows days that exist. -/
theorem valid_dateAt (z : Zone) (t : Int) : (z.dateAt t).Valid :=
  Date.valid_ofDayNumber _

/-- Days are compared by the clock readings that they belong to. -/
theorem dateAt_lt_dateAt_iff (z : Zone) (t t' : Int) :
    z.dateAt t < z.dateAt t' ↔ z.readingAt t / secondsPerDay < z.readingAt t' / secondsPerDay :=
  Date.ofDayNumber_lt_ofDayNumber_iff

private theorem exists_of_offsetFrom_ne {offset t : Int} {changes : List Transition}
    (h : offsetFrom offset changes t ≠ offsetFrom offset changes (t - 1)) :
    ∃ change ∈ changes, change.instant = t := by
  induction changes generalizing offset with
  | nil => exact absurd rfl h
  | cons next later ih =>
    simp only [offsetFrom] at h
    by_cases hafter : t < next.instant
    · have hbefore : t - 1 < next.instant := by omega
      rw [if_pos hafter, if_pos hbefore] at h
      exact absurd rfl h
    · by_cases hbefore : t - 1 < next.instant
      · exact ⟨next, List.mem_cons_self, by omega⟩
      · rw [if_neg hafter, if_neg hbefore] at h
        obtain ⟨change, hmem, hinstant⟩ := ih h
        exact ⟨change, List.mem_cons_of_mem next hmem, hinstant⟩

/-- The offset changes at transitions only. -/
theorem exists_transition_of_offsetAt_ne {z : Zone} {t : Int}
    (h : z.offsetAt t ≠ z.offsetAt (t - 1)) : ∃ change ∈ z.transitions, change.instant = t :=
  exists_of_offsetFrom_ne h

/-- Where the calendar goes back from one second to the next, there is a transition. -/
theorem exists_transition_of_dateAt_lt {z : Zone} {t : Int} (h : z.dateAt t < z.dateAt (t - 1)) :
    ∃ change ∈ z.transitions, change.instant = t := by
  refine exists_transition_of_offsetAt_ne fun hoffset => ?_
  rw [dateAt_lt_dateAt_iff, readingAt, readingAt, hoffset, secondsPerDay] at h
  omega

/-- When the calendar shows an earlier day than before, a transition has set the day back in the
meantime. -/
theorem exists_setsDayBack {z : Zone} {t t' : Int} (hle : t ≤ t') (h : z.dateAt t' < z.dateAt t) :
    ∃ change ∈ z.transitions, (t < change.instant ∧ change.instant ≤ t') ∧
      z.SetsDayBack change := by
  obtain ⟨n, rfl⟩ := Int.le.dest hle
  clear hle
  -- by induction on the seconds that have passed: the last of them sets the day back, or the
  -- calendar has gone back before
  induction n with
  | zero =>
    rw [dateAt_lt_dateAt_iff] at h
    simp at h
  | succ n ih =>
    have hlast : t + (n + 1 : Nat) - 1 = t + n := by omega
    by_cases hback : z.dateAt (t + (n + 1 : Nat)) < z.dateAt (t + n)
    · rw [← hlast] at hback
      obtain ⟨change, hmem, hinstant⟩ := exists_transition_of_dateAt_lt hback
      refine ⟨change, hmem, ⟨by omega, by omega⟩, ?_⟩
      rw [SetsDayBack, hinstant]
      exact hback
    · have hbefore : z.dateAt (t + n) < z.dateAt t := by
        rw [dateAt_lt_dateAt_iff] at h hback ⊢
        omega
      obtain ⟨change, hmem, ⟨hafter, hle⟩, hsets⟩ := ih hbefore
      exact ⟨change, hmem, ⟨hafter, by omega⟩, hsets⟩

end Daybook.Zone
