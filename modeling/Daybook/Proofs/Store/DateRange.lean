import Daybook.Proofs.Calendar.Months
import Daybook.Proofs.Store.Ledger

/-!
# Dates in the order of the days

The store compares the texts of dates and never reads them.  That is enough, since the texts of days
are in the order of the days: the entries of a user between two dates are those of the days between,
from the earliest to the latest.

## Main definitions

* `Entries.Dated` : every entry is of a day.
* `Date.IsBetween` : a day between two days, of which either may be missing.

## Main results

* `Date.encode_le_encode_iff` : the texts of days are in the order of the days.
* `Entries.mem_inRange_iff`, `Entries.sorted_inRange` : the entries of an interval of days.
* `State.Reachable.range_chronological` : what the store in memory answers.
-/

namespace Daybook

/-! ### The order of the days -/

namespace Date

variable {a b d : Date} {s t : String}

/-- Earlier days have smaller numbers, and no others. -/
theorem dayNumber_lt_dayNumber_iff (ha : a.Valid) (hb : b.Valid) :
    a.dayNumber < b.dayNumber ↔ a < b := by
  rw [← ofDayNumber_lt_ofDayNumber_iff, ofDayNumber_dayNumber ha, ofDayNumber_dayNumber hb]

/-- The texts of days are in the order of the days. -/
theorem lt_iff_dayNumber_lt (ha : parse? s = some a) (hb : parse? t = some b) :
    s < t ↔ a.dayNumber < b.dayNumber := by
  obtain ⟨rfl, hva, halow, hahigh⟩ := parse?_eq_some_iff_eq_text.1 ha
  obtain ⟨rfl, hvb, hblow, hbhigh⟩ := parse?_eq_some_iff_eq_text.1 hb
  rw [text_lt_text_iff hva hvb halow hahigh hblow hbhigh, dayNumber_lt_dayNumber_iff hva hvb]

/-- The bytes of the texts of days are in the order of the days. -/
theorem encode_le_encode_iff (ha : parse? s = some a) (hb : parse? t = some b) :
    Utf8.encode s ≤ Utf8.encode t ↔ a.dayNumber ≤ b.dayNumber := by
  rw [Utf8.encode_le_iff, ← String.not_lt, lt_iff_dayNumber_lt hb ha, Int.not_lt]

/-- A day *is between* two days when it is neither before the one nor after the other; a missing day
excludes nothing. -/
def IsBetween (first last : Option Date) (d : Date) : Prop :=
  (∀ f ∈ first, f.dayNumber ≤ d.dayNumber) ∧ ∀ l ∈ last, d.dayNumber ≤ l.dayNumber

end Date

/-! ### Entries of days -/

namespace Entries

open Date

/-- Every entry is of a day. -/
def Dated (es : Entries) : Prop :=
  ∀ e ∈ es.values, isValidText e.date = true

variable {es : Entries} {user : Uuid} {first last : Option String}

theorem Dated.exists_parse? (h : es.Dated) {e : Entry} (he : e ∈ es.values) :
    ∃ d, parse? e.date = some d :=
  Option.isSome_iff_exists.1 (h e he)

section

variable (hfirst : ∀ f ∈ first, isValidText f = true) (hlast : ∀ l ∈ last, isValidText l = true)

include hfirst hlast

/-- A date lies between two others when its day does. -/
theorem isWithin_iff_isBetween {date : String} {d : Date} (h : parse? date = some d) :
    isWithin first last date = true ↔ d.IsBetween (first.bind parse?) (last.bind parse?) := by
  have hbound {bound : Option String} (hvalid : ∀ b ∈ bound, isValidText b = true)
      {P : String → Prop} {Q : Date → Prop} (hPQ : ∀ b x, parse? b = some x → (P b ↔ Q x)) :
      (∀ b ∈ bound, P b) ↔ ∀ x ∈ bound.bind parse?, Q x := by
    cases bound with
    | none => simp
    | some b =>
      obtain ⟨x, hx⟩ := Option.isSome_iff_exists.1 (hvalid b rfl)
      simp [hx, hPQ b x hx]
  rw [isWithin_iff, IsBetween]
  refine and_congr (hbound hfirst fun b x hx => ?_) (hbound hlast fun b x hx => ?_)
  · exact encode_le_encode_iff hx h
  · exact encode_le_encode_iff h hx

/-- The entries of a user between two dates are those of the days between. -/
theorem mem_inRange_iff (hes : es.Dated) {e : Entry} :
    e ∈ es.inRange user first last ↔ e ∈ es.values ∧ e.userId = user ∧
      ∃ d, parse? e.date = some d ∧ d.IsBetween (first.bind parse?) (last.bind parse?) := by
  rw [inRange_eq, mem_rangeOf_iff]
  refine and_congr_right fun he => and_congr_right fun _ => ?_
  obtain ⟨d, hd⟩ := hes.exists_parse? he
  simp [hd, isWithin_iff_isBetween hfirst hlast hd]

/-- No day is between two days of which the second is earlier. -/
theorem inRange_eq_nil (hes : es.Dated) {f l : Date} (hf : first.bind parse? = some f)
    (hl : last.bind parse? = some l) (hlt : l.dayNumber < f.dayNumber) :
    es.inRange user first last = [] := by
  rw [List.eq_nil_iff_forall_not_mem]
  intro e he
  obtain ⟨-, -, d, -, hlow, hhigh⟩ := (mem_inRange_iff hfirst hlast hes).1 he
  have hle := Int.le_trans (hlow f hf) (hhigh l hl)
  exact absurd hlt (Int.not_lt.2 hle)

end

/-- Entries of days are listed from the earliest day to the latest, one for each day. -/
theorem sorted_inRange (hfiled : es.Filed) (hes : es.Dated) :
    (es.inRange user first last).Pairwise fun e₁ e₂ =>
      ∃ d₁ d₂, parse? e₁.date = some d₁ ∧ parse? e₂.date = some d₂ ∧
        d₁.dayNumber < d₂.dayNumber := by
  have hsorted := hfiled.sorted_rangeOf (List.Perm.refl es.values) user first last
  refine hsorted.imp_of_mem fun {e₁ e₂} h₁ h₂ hlt => ?_
  obtain ⟨d₁, hd₁⟩ := hes.exists_parse? (mem_rangeOf_iff.1 h₁).1
  obtain ⟨d₂, hd₂⟩ := hes.exists_parse? (mem_rangeOf_iff.1 h₂).1
  exact ⟨d₁, d₂, hd₁, hd₂, (lt_iff_dayNumber_lt hd₁ hd₂).1 hlt⟩

end Entries

/-- The texts of days are in the order of the days.  So, as long as every entry is of a day, the
store in memory answers the entries of a user between two dates with those of the days between, from
the earliest day to the latest, in whatever order it keeps them, and with none if the second date is
earlier than the first. -/
theorem State.Reachable.range_chronological {freshId : Nat → Uuid} {s : State}
    (h : s.Reachable freshId) (hes : s.entries.Dated) {c : Scene} (hc : c.InMemory) (user : Uuid)
    {first last : Option String} (hfirst : ∀ f ∈ first, Date.isValidText f = true)
    (hlast : ∀ l ∈ last, Date.isValidText l = true) :
    (∀ x y a b, Date.parse? x = some a → Date.parse? y = some b →
      (Utf8.encode x ≤ Utf8.encode y ↔ a.dayNumber ≤ b.dayNumber)) ∧
    ∃ es, Action.entriesInRange user first last c s = ⟨.ok es, s.called, []⟩ ∧
      (∀ e, e ∈ es ↔ e ∈ s.entries.values ∧ e.userId = user ∧
        ∃ d, Date.parse? e.date = some d ∧
          d.IsBetween (first.bind Date.parse?) (last.bind Date.parse?)) ∧
      (es.Pairwise fun e₁ e₂ => ∃ d₁ d₂, Date.parse? e₁.date = some d₁ ∧
        Date.parse? e₂.date = some d₂ ∧ d₁.dayNumber < d₂.dayNumber) ∧
      (∀ all : List Entry, all.Perm s.entries.values →
        Entries.rangeOf all user first last = es) ∧
      ∀ f l, first.bind Date.parse? = some f → last.bind Date.parse? = some l →
        l.dayNumber < f.dayNumber → es = [] :=
  ⟨fun _ _ _ _ ha hb => Date.encode_le_encode_iff ha hb, s.entries.inRange user first last,
    Action.entriesInRange_of_service (hc.entries s.calls) user first last,
    fun _ => Entries.mem_inRange_iff hfirst hlast hes, Entries.sorted_inRange h.filed hes,
    fun _ hall => h.filed.rangeOf_eq hall user first last,
    fun _ _ hf hl hlt => Entries.inRange_eq_nil hfirst hlast hes hf hl hlt⟩

/-! ### Two days -/

namespace Sample

/-- The second of two days that were written is found from its own date on. -/
theorem second_day_listed :
    let s := Ledger.after .initial threeWritings
    s.Reachable supply ∧ s.entries.Dated ∧ memory.InMemory ∧
      (∀ f ∈ some "2010-11-06", Date.isValidText f = true) ∧
      (∀ l ∈ (none : Option String), Date.isValidText l = true) ∧
      ∃ es, Action.entriesInRange (supply 15) (some "2010-11-06") none memory s =
          ⟨.ok es, s.called, []⟩ ∧
        ⟨supply 0, supply 15, "2010-11-06", "again", memory.now⟩ ∈ es ∧
          ∀ e ∈ es, e.date = "2010-11-06" := by
  intro s
  have hreachable : s.Reachable supply :=
    .entries _ draws_memory (.entries _ draws_memory (.entries _ draws_memory .initial))
  have hvalues : s.entries.values =
      [⟨supply 0, supply 15, "2010-11-06", "again", memory.now⟩,
       ⟨supply 1, supply 15, "2010-11-05", "before", memory.now⟩] := by decide
  have hdated : s.entries.Dated := by
    simp only [Entries.Dated, hvalues]
    decide
  have hfirst : ∀ f ∈ some "2010-11-06", Date.isValidText f = true := by decide
  have hlast : ∀ l ∈ (none : Option String), Date.isValidText l = true := by simp
  obtain ⟨-, es, hes, hmem, -⟩ := hreachable.range_chronological hdated draws_memory.inMemory
    (supply 15) hfirst hlast
  have hday : Date.parse? "2010-11-06" = some ⟨2010, 11, 6⟩ := by decide
  refine ⟨hreachable, hdated, draws_memory.inMemory, hfirst, hlast, es, hes, ?_, fun e he => ?_⟩
  · refine (hmem _).2 ⟨by simp [hvalues], rfl, _, hday, ?_⟩
    simp [Date.IsBetween, hday]
  · obtain ⟨hvalue, -, d, hd, hlow, -⟩ := (hmem e).1 he
    rw [hvalues] at hvalue
    simp only [List.mem_cons, List.not_mem_nil, or_false] at hvalue
    rcases hvalue with rfl | rfl
    · rfl
    · have hbefore : Date.parse? "2010-11-05" = some ⟨2010, 11, 5⟩ := by decide
      obtain rfl := Option.some.inj (hbefore.symm.trans hd)
      exact absurd (hlow _ hday) (by decide)

end Sample

end Daybook
