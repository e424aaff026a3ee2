import Daybook.Zone.Catalogue
import Mathlib.Data.List.Sort
import Mathlib.Tactic.SplitIfs

/-!
# The transitions of a history

Unrolling a history gives spans whose offsets and savings are those that the eras state, and joining
the spans in order of time drops some of them but moves none.  So the transitions of a zone are in
order, and its offsets are sums of an offset and a saving of one era.  In the catalogue these sums
are less than a day.

## Main definitions

* `Zone.Regular` : the transitions are in order, and all offsets are less than a day.
* `Era.savings`, `Era.Keeps` : the savings of an era, and the spans that it can have.
* `Era.Unrolled.Step` : what one rule makes of what was found before.

## Main results

* `Era.applyYears_induction` : what every rule keeps is kept while an era is unrolled.
* `Era.exists_keeps_of_mem_unrollAll` : every span is one of its era.
* `Era.map_start_join_sublist`, `Era.map_instant_changes_sublist` : nothing is moved.
* `Zone.regular_of_named?` : the zones of the catalogue are regular.
-/

namespace Daybook

/-- A number of seconds is less than a day, in either direction. -/
def IsOffset (seconds : Int) : Prop :=
  -secondsPerDay < seconds ∧ seconds < secondsPerDay

instance (seconds : Int) : Decidable (IsOffset seconds) :=
  inferInstanceAs (Decidable (_ ∧ _))

/-- A zone is *regular* when its transitions are in order of time and all its offsets are less than
a day. -/
structure Zone.Regular (z : Zone) : Prop where
  sorted : z.transitions.Pairwise fun a b => a.instant ≤ b.instant
  initial : IsOffset z.initial
  offsets : ∀ change ∈ z.transitions, IsOffset change.offset

namespace Era

/-! ### The spans of an era -/

/-- The savings that can be in force during an era. -/
def savings (era : Era) : List Int :=
  match era.saving with
  | .fixed s => [s]
  | .recurring rules => 0 :: rules.map Rule.saving

/-- A span that an era can have: with its offset and one of its savings. -/
def Keeps (era : Era) (s : Span) : Prop :=
  s.offset = era.offset ∧ s.saving ∈ era.savings

/-- What is found while an era is unrolled is of the era. -/
structure Unrolled.Within (u : Unrolled) (era : Era) : Prop where
  saving : u.saving ∈ era.savings
  opening : u.opening ∈ era.savings
  spans : ∀ s ∈ u.spans, era.Keeps s

/-- The earliest rule and the others are among the rules. -/
theorem mem_of_earliest? {key : Rule → Int} {rules others : List Rule} {r : Rule}
    (h : earliest? key rules = some (r, others)) : r ∈ rules ∧ ∀ x ∈ others, x ∈ rules := by
  induction rules generalizing r others with
  | nil => cases h
  | cons r' rules ih =>
    simp only [earliest?] at h
    split at h
    · cases h
      exact ⟨List.mem_cons_self, fun x hx => absurd hx List.not_mem_nil⟩
    · next m others' hm =>
      obtain ⟨hmem, hothers⟩ := ih hm
      split_ifs at h
      · cases h
        exact ⟨List.mem_cons_self, fun x hx => List.mem_cons_of_mem _ hx⟩
      · cases h
        refine ⟨List.mem_cons_of_mem r' hmem, fun x hx => ?_⟩
        rcases List.mem_cons.1 hx with rfl | hx
        · exact List.mem_cons_self
        · exact List.mem_cons_of_mem r' (hothers x hx)

/-- What a rule that takes effect in a year makes of what was found before.  Its saving is in force
then.  Early rules tell the saving with which the era opens, and each later one begins a span. -/
inductive Unrolled.Step (era : Era) (year : Int) (r : Rule) (u : Unrolled) : Unrolled → Prop
  | early (needsOpening : Bool) : Step era year r u
      ⟨r.saving, r.saving, true, needsOpening, u.spans⟩
  | late (openingKnown needsOpening : Bool) : Step era year r u
      ⟨r.saving, u.opening, openingKnown, needsOpening,
        ⟨r.instant year era.offset u.saving, era.offset, r.saving⟩ :: u.spans⟩

section

variable {era : Era} {start : Int} {rules : List Rule} {P : Unrolled → Prop} {u : Unrolled}

/-- What every rule of a year keeps, all of them keep. -/
theorem applyRules_induction {year : Int} {steps : Nat}
    (hstep : ∀ r ∈ rules, ∀ u u', P u → Unrolled.Step era year r u u' → P u') (h : P u) :
    P (applyRules era start year steps rules u) := by
  induction steps generalizing rules u with
  | zero => exact h
  | succ steps ih =>
    simp only [applyRules]
    split
    · exact h
    · next r others hr =>
      obtain ⟨hmem, hothers⟩ := mem_of_earliest? hr
      have hrest := fun x hx => hstep x (hothers x hx)
      split_ifs
      · exact h
      · exact ih hrest (hstep r hmem _ _ h (.early _))
      · exact ih hrest (hstep r hmem _ _ h (.late _ _))

/-- What the rules keep in each of a number of years, they keep in all of them. -/
theorem applyYears_induction {years : Nat} {year : Int}
    (hstep : ∀ r ∈ rules, ∀ y, year ≤ y → y < year + years →
      ∀ u u', P u → Unrolled.Step era y r u u' → P u') (h : P u) :
    P (applyYears era start rules years year u) := by
  induction years generalizing year u with
  | zero => exact h
  | succ years ih =>
    simp only [applyYears]
    split_ifs
    · exact h
    · refine ih (fun r hr y hlow hhigh => hstep r hr y (by omega) (by omega)) ?_
      exact applyRules_induction
        (fun r hr => hstep r (List.mem_of_mem_filter hr) year (Int.le_refl year) (by omega)) h

/-- No rule leads out of its era. -/
theorem Unrolled.Within.step {u' : Unrolled} {r : Rule} {year : Int} (h : u.Within era)
    (hsaving : r.saving ∈ era.savings) (hstep : Unrolled.Step era year r u u') :
    u'.Within era := by
  cases hstep with
  | early => exact ⟨hsaving, hsaving, h.spans⟩
  | late =>
    refine ⟨hsaving, h.opening, fun s hs => ?_⟩
    rcases List.mem_cons.1 hs with rfl | hs
    · exact ⟨rfl, hsaving⟩
    · exact h.spans s hs

theorem saving_mem_savings (hsaving : era.saving = .recurring rules) {r : Rule} (hr : r ∈ rules) :
    r.saving ∈ era.savings := by
  rw [savings, hsaving]
  exact List.mem_cons_of_mem 0 (List.mem_map_of_mem hr)

/-- Before the first rule of an era nothing is found. -/
theorem within_nil (hsaving : era.saving = .recurring rules) (needsOpening : Bool) :
    Unrolled.Within ⟨0, 0, false, needsOpening, []⟩ era := by
  have hzero : (0 : Int) ∈ era.savings := by simp [savings, hsaving]
  exact ⟨hzero, hzero, fun s hs => absurd hs List.not_mem_nil⟩

/-- What is found while an era is unrolled is of the era. -/
theorem within_applyYears (start : Int) (hsaving : era.saving = .recurring rules)
    (needsOpening : Bool) :
    (applyYears era start rules yearCount firstYear ⟨0, 0, false, needsOpening, []⟩).Within era :=
  applyYears_induction (P := fun u => u.Within era)
    (fun _ hr _ _ _ _ _ h hstep => h.step (saving_mem_savings hsaving hr) hstep)
    (within_nil hsaving needsOpening)

end

/-- An era is unrolled into spans of its own. -/
theorem keeps_of_mem_unroll {era : Era} {start : Option Int} {s : Span}
    (hs : s ∈ (era.unroll start).1) : era.Keeps s := by
  unfold unroll at hs
  split at hs
  · next seconds hsaving =>
    obtain ⟨t, -, rfl⟩ := List.mem_map.1 hs
    exact ⟨rfl, by simp [savings, hsaving]⟩
  · next rules hsaving =>
    have hu := within_applyYears (start.getD 0) hsaving start.isSome
    rcases List.mem_append.1 hs with hs | hs
    · exact hu.spans s (List.mem_reverse.1 hs)
    · split at hs
      · split_ifs at hs
        · rw [List.mem_singleton.1 hs]
          exact ⟨rfl, hu.opening⟩
        · cases hs
      · cases hs

/-- The saving at the end of an era is one of its own. -/
theorem unroll_saving_mem (era : Era) (start : Option Int) :
    (era.unroll start).2 ∈ era.savings := by
  unfold unroll
  split
  · next seconds hsaving => simp [savings, hsaving]
  · next rules hsaving => exact (within_applyYears _ hsaving start.isSome).saving

/-- Every span of a history is one of an era. -/
theorem exists_keeps_of_mem_unrollAll {start : Option Int} {eras : List Era} {s : Span}
    (hs : s ∈ unrollAll start eras) : ∃ era ∈ eras, era.Keeps s := by
  induction eras generalizing start with
  | nil => cases hs
  | cons era eras ih =>
    rcases List.mem_append.1 hs with hs | hs
    · exact ⟨era, List.mem_cons_self, keeps_of_mem_unroll hs⟩
    · obtain ⟨era', hmem, hkeeps⟩ := ih hs
      exact ⟨era', List.mem_cons_of_mem era hmem, hkeeps⟩

/-! ### Spans in order -/

/-- Spans are put in order by insertion. -/
theorem inOrder_eq (spans : List Span) :
    inOrder spans = spans.insertionSort fun a b => a.start ≤ b.start := by
  have hinsert (s : Span) (spans : List Span) :
      insertSpan s spans = spans.orderedInsert (fun a b => a.start ≤ b.start) s := by
    induction spans with
    | nil => rfl
    | cons a spans ih => simp only [insertSpan, List.orderedInsert_cons, ih]
  induction spans with
  | nil => rfl
  | cons s spans ih => rw [inOrder, ih, hinsert, List.insertionSort_cons]

theorem mem_inOrder_iff {spans : List Span} {s : Span} : s ∈ inOrder spans ↔ s ∈ spans := by
  rw [inOrder_eq, List.mem_insertionSort]

theorem sorted_inOrder (spans : List Span) :
    (inOrder spans).Pairwise fun a b => a.start ≤ b.start := by
  have htotal : Std.Total fun a b : Span => a.start ≤ b.start := ⟨fun a b => Int.le_total _ _⟩
  have htrans : IsTrans Span fun a b => a.start ≤ b.start := ⟨fun _ _ _ => Int.le_trans⟩
  rw [inOrder_eq]
  exact List.pairwise_insertionSort _ spans

/-- Joining spans moves none of them. -/
theorem map_start_join_sublist (kept rest : List Span) :
    ((join kept rest).map Span.start).Sublist ((kept.reverse ++ rest).map Span.start) := by
  fun_induction join kept rest with
  | case1 kept => simp
  | case2 s rest ih => simpa using ih
  | case3 a s rest ih =>
    refine ih.trans ?_
    split_ifs <;> simp
  | case4 a b kept s rest _ ih => exact ih.trans (by simp)
  | case5 a b kept s rest _ ih =>
    refine ih.trans ?_
    split_ifs <;> simp

/-- Joining spans takes each offset and saving from one of them. -/
theorem exists_of_mem_join {kept rest : List Span} {s : Span} (hs : s ∈ join kept rest) :
    ∃ s' ∈ kept ++ rest, s'.offset = s.offset ∧ s'.saving = s.saving := by
  fun_induction join kept rest with
  | case1 kept => exact ⟨s, by simpa using hs, rfl, rfl⟩
  | case2 s' rest ih => simpa using ih hs
  | case3 a s' rest ih =>
    obtain ⟨x, hx, he⟩ := ih hs
    refine ⟨x, ?_, he⟩
    split_ifs at hx <;> simp only [List.cons_append, List.nil_append, List.mem_cons] at hx ⊢ <;>
      tauto
  | case4 a b kept s' rest _ ih =>
    -- the span that gives way is left with the offset and the saving of the next one
    obtain ⟨x, hx, he⟩ := ih hs
    simp only [List.cons_append, List.mem_cons, List.mem_append] at hx ⊢
    rcases hx with rfl | hx
    · exact ⟨s', by tauto, he⟩
    · exact ⟨x, by tauto, he⟩
  | case5 a b kept s' rest _ ih =>
    obtain ⟨x, hx, he⟩ := ih hs
    refine ⟨x, ?_, he⟩
    split_ifs at hx <;> simp only [List.cons_append, List.mem_cons, List.mem_append] at hx ⊢ <;>
      tauto

/-- Each transition is the beginning of a span. -/
theorem map_instant_changes_sublist (offset : Int) (spans : List Span) :
    ((changes offset spans).map Transition.instant).Sublist (spans.map Span.start) := by
  induction spans generalizing offset with
  | nil => exact List.Sublist.refl _
  | cons s spans ih =>
    simp only [changes]
    split_ifs
    · exact (ih offset).cons _
    · exact (ih s.total).cons_cons _

theorem exists_of_mem_changes {offset : Int} {spans : List Span} {change : Transition}
    (h : change ∈ changes offset spans) : ∃ s ∈ spans, change.offset = s.total := by
  induction spans generalizing offset with
  | nil => cases h
  | cons s spans ih =>
    simp only [changes] at h
    split_ifs at h
    · obtain ⟨s', hs', he⟩ := ih h
      exact ⟨s', List.mem_cons_of_mem s hs', he⟩
    · rcases List.mem_cons.1 h with rfl | h
      · exact ⟨s, List.mem_cons_self, rfl⟩
      · obtain ⟨s', hs', he⟩ := ih h
        exact ⟨s', List.mem_cons_of_mem s hs', he⟩

/-- The sums of the offset and a saving of an era are less than a day. -/
def Moderate (era : Era) : Prop :=
  ∀ s ∈ era.savings, IsOffset (era.offset + s)

instance (era : Era) : Decidable era.Moderate :=
  inferInstanceAs (Decidable (∀ s ∈ era.savings, IsOffset (era.offset + s)))

theorem Moderate.isOffset_total {era : Era} (h : era.Moderate) {s : Span} (hs : era.Keeps s) :
    IsOffset s.total := by
  rw [Span.total, hs.1]
  exact h _ hs.2

end Era

namespace Zone

/-- The zone of a history is regular when no era of it goes as far as a day. -/
theorem regular_ofEras {eras : List Era} (h : ∀ era ∈ eras, era.Moderate) :
    (ofEras eras).Regular := by
  have hspans {s : Span} (hs : s ∈ Era.inOrder (Era.unrollAll none eras)) : IsOffset s.total := by
    obtain ⟨era, hmem, hkeeps⟩ := Era.exists_keeps_of_mem_unrollAll (Era.mem_inOrder_iff.1 hs)
    exact (h era hmem).isOffset_total hkeeps
  refine ⟨?_, ?_, fun change hchange => ?_⟩
  · have hsub := (Era.map_instant_changes_sublist (ofEras eras).initial
      (Era.join [] (Era.inOrder (Era.unrollAll none eras)))).trans
        (Era.map_start_join_sublist [] (Era.inOrder (Era.unrollAll none eras)))
    have hsorted := List.pairwise_map.2 (Era.sorted_inOrder (Era.unrollAll none eras))
    exact List.pairwise_map.1 (hsorted.sublist hsub)
  · simp only [ofEras]
    split
    · next offset s ends eras => exact h _ List.mem_cons_self s (by simp [Era.savings])
    · cases hfind : (Era.inOrder (Era.unrollAll none eras)).find? fun s => s.saving == 0 with
      | none => decide
      | some s => exact hspans (List.mem_of_find?_eq_some hfind)
  · obtain ⟨s, hs, he⟩ := Era.exists_of_mem_changes hchange
    obtain ⟨s', hs', hoffset, hsaving⟩ := Era.exists_of_mem_join hs
    rw [he, Span.total, ← hoffset, ← hsaving]
    exact hspans hs'

/-- A fact about the zone known by a name shows that there is one. -/
theorem named?_getD_utc {β : Type} {name : String} {f : Zone → β} {b : β}
    (h : (named? name).map f = some b) :
    named? name = some ((named? name).getD .utc) ∧ f ((named? name).getD .utc) = b := by
  obtain ⟨z, hz, hf⟩ := Option.map_eq_some_iff.1 h
  rw [hz]
  exact ⟨rfl, hf⟩

/-- No era in the catalogue goes as far as a day. -/
theorem moderate_of_mem_histories : ∀ history ∈ histories, ∀ era ∈ history.2, era.Moderate := by
  decide +kernel

/-- The history of a zone is found in the catalogue, under the zone's own name. -/
theorem mem_histories_of_history? {name : String} {eras : List Era}
    (h : history? name = some eras) : ((aliases.lookup name).getD name, eras) ∈ histories := by
  obtain ⟨before, after, heq, -⟩ := List.lookup_eq_some_iff.1 h
  rw [heq]
  exact List.mem_append_right before List.mem_cons_self

/-- The zones of the catalogue are regular. -/
theorem regular_of_named? {name : String} {z : Zone} (h : named? name = some z) : z.Regular := by
  obtain ⟨eras, heras, rfl⟩ := Option.map_eq_some_iff.1 h
  exact regular_ofEras (moderate_of_mem_histories _ (mem_histories_of_history? heras))

end Zone

end Daybook
