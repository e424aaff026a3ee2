import Daybook.Proofs.Json.Crossing
import Daybook.Proofs.Json.Inversion

/-!
# How readers move the scanner through brackets

What stands inside brackets is one deeper than what is around them.  Where it cannot be read, the
end of the bracket is looked for all the same, from the place where the reader stopped; so a fault
may leave the scanner deeper than it was, or inside a string, but never out of more brackets than
the reader has opened.

## Main definitions

* `Json.Reader.Closes` : readers of the end of a bracket.

## Main results

* `Json.Runs.closedBy` : what a bracket holds and its end.
* `Json.scans_list`, `Json.scans_tree` : lists and values of any kind.
* `Json.crosses_skipValue` : values that are skipped.
-/

namespace Daybook.Json

open Reader

variable {α β : Type} {a b c : Spot} {n : Nat} {s t rest : Bytes}

/-! ### Closing brackets -/

/-- Whatever a reading that runs between settled spots has come to, it stops. -/
theorem Runs.stops {x : Reading α} (h : Runs n a b s x) (hn : n ≤ b.depth)
    (hb : b.place.IsSettled) : Stops n a s x.rest := by
  rcases hx : x with ⟨e | v, rest⟩
  · exact h.error e rest hx
  · exact (h.ok v rest hx).stops hn hb

/-- A reader *closes* a bracket when it runs out of it.  Inside a string it stays there. -/
structure Reader.Closes (close : Reader Unit) : Prop where
  between : ∀ d s, Runs d ⟨.between, d + 1⟩ ⟨.between, d⟩ s (close s)
  quoted : ∀ d s, Stops d ⟨.quoted .plain, d⟩ s (close s).rest
  nil : (close []).rest = []

theorem stops_quoted (d : Nat) (s : Bytes) : Stops d ⟨.quoted .plain, d⟩ s s :=
  (Crosses.refl _ s).stops (Nat.le_refl d) (.inr rfl)

/-- Blanks inside a string are read as if they were outside. -/
theorem stops_quoted_aheadOfSpace {d : Nat} {f : Option UInt8 → Reader α}
    (h : ∀ t r, f t.head? = r → Stops n ⟨.quoted .plain, d⟩ t (r t).rest) :
    Stops n ⟨.quoted .plain, d⟩ s ((aheadOfSpace >>= f) s).rest := by
  have hrest := h (s.dropWhile isSpace) _ rfl
  change Stops n _ s (f (s.dropWhile isSpace).head? (s.dropWhile isSpace)).rest
  generalize (f (s.dropWhile isSpace).head? (s.dropWhile isSpace)).rest = rest at hrest ⊢
  induction s with
  | nil => exact hrest
  | cons x s ih =>
    rw [List.dropWhile_cons] at hrest
    split_ifs at hrest with hx
    · by_cases hspace : x = 0x20
      · subst hspace
        exact .step (b := ⟨.quoted .plain, d⟩) rfl (ih hrest)
      · refine .of_next ?_ s rest
        simp only [isSpace, Bool.or_eq_true, beq_iff_eq, or_assoc] at hx
        rcases hx.resolve_left hspace with rfl | rfl | rfl <;> rfl
    · exact hrest

theorem runs_failAhead (d : Nat) (e : Cause) (s : Bytes) :
    Runs d ⟨.between, d + 1⟩ b s ((failAhead e : Reader Unit) s) :=
  .of_settled _ (Nat.le_succ d) (.inl rfl)

theorem closes_endOfList : endOfList.Closes where
  between d s := by
    refine .aheadOfSpace fun t => .of_forall_eq fun r hr => ?_
    split at hr <;> subst hr
    · next hend =>
      obtain ⟨t, rfl⟩ := List.head?_eq_some_iff.1 hend
      exact .step (b := ⟨.between, d⟩) rfl (.of_ok () (.refl _ t))
    · next hcomma =>
      obtain ⟨t, rfl⟩ := List.head?_eq_some_iff.1 hcomma
      refine .skip (b := ⟨.between, d + 1⟩) rfl
        (.aheadOfSpace fun t => .of_forall_eq fun r hr => ?_)
      split at hr <;> subst hr <;> exact runs_failAhead d _ t
    · exact runs_failAhead d _ t
    · exact runs_failAhead d _ t
  quoted d s := by
    refine stops_quoted_aheadOfSpace fun t r hr => ?_
    split at hr <;> subst hr
    · next hend =>
      obtain ⟨t, rfl⟩ := List.head?_eq_some_iff.1 hend
      exact .step (b := ⟨.quoted .plain, d⟩) rfl (stops_quoted d t)
    · next hcomma =>
      obtain ⟨t, rfl⟩ := List.head?_eq_some_iff.1 hcomma
      rw [skip_bind]
      refine .step (b := ⟨.quoted .plain, d⟩) rfl (stops_quoted_aheadOfSpace fun t r hr => ?_)
      split at hr <;> subst hr <;> exact stops_quoted d t
    · exact stops_quoted d t
    · exact stops_quoted d t
  nil := rfl

theorem closes_endOfObject : endOfObject.Closes where
  between d s := by
    refine .aheadOfSpace fun t => .of_forall_eq fun r hr => ?_
    split at hr <;> subst hr
    · next hend =>
      obtain ⟨t, rfl⟩ := List.head?_eq_some_iff.1 hend
      exact .step (b := ⟨.between, d⟩) rfl (.of_ok () (.refl _ t))
    all_goals exact runs_failAhead d _ t
  quoted d s := by
    refine stops_quoted_aheadOfSpace fun t r hr => ?_
    split at hr <;> subst hr
    · next hend =>
      obtain ⟨t, rfl⟩ := List.head?_eq_some_iff.1 hend
      exact .step (b := ⟨.quoted .plain, d⟩) rfl (stops_quoted d t)
    all_goals exact stops_quoted d t
  nil := rfl

/-- After a fault in what a bracket holds, its end is looked for where the reader stopped. -/
theorem Runs.closedBy {d : Nat} {r : Reader α} {close : Reader Unit} (hclose : close.Closes)
    (h : Runs (d + 1) ⟨.between, d + 1⟩ ⟨.between, d + 1⟩ s (r s)) :
    Runs d ⟨.between, d + 1⟩ ⟨.between, d⟩ s (Reader.closedBy r close s) := by
  rcases hr : r s with ⟨e | v, rest⟩
  · simp only [Reader.closedBy, hr]
    refine .of_error _ ?_
    rcases h.error e rest hr with rfl | hdead | ⟨⟨p, m⟩, hcrosses, hm, rfl | rfl⟩
    · exact .inl hclose.nil
    · exact .inr (.inl hdead)
    · obtain ⟨m, rfl⟩ := Nat.exists_eq_add_of_le' (Nat.le_trans (Nat.le_add_left 1 d) hm)
      have hd : d ≤ m := Nat.le_of_succ_le_succ hm
      exact hcrosses.trans_stops
        (((hclose.between m rest).stops (Nat.le_refl m) (.inl rfl)).mono hd)
    · exact hcrosses.trans_stops ((hclose.quoted m rest).mono (Nat.le_of_succ_le hm))
  · have hcrosses := h.ok v rest hr
    have hend := hclose.between d rest
    simp only [Reader.closedBy, hr]
    rcases hc : close rest with ⟨e | u, rest'⟩
    · exact .of_error e (hcrosses.trans_stops (hend.error e rest' hc))
    · exact .of_ok v (hcrosses.trans (hend.ok u rest' hc))

/-! ### Lists and objects -/

theorem runs_nextElement (d : Nat) (first : Bool) (s : Bytes) :
    Runs (d + 1) ⟨.between, d + 1⟩ ⟨.between, d + 1⟩ s (nextElement first s) := by
  unfold nextElement
  refine .aheadOfSpace fun t => ?_
  cases t with
  | nil => exact runs_between _ _ []
  | cons x t =>
    refine .ite (fun _ => .of_ok _ (.refl _ _)) fun _ =>
      .ite (fun _ => .of_ok _ (.refl _ _)) fun _ =>
        .ite (fun hcomma => ?_) fun _ => runs_between _ _ _
    subst hcomma
    refine .skip (b := ⟨.between, d + 1⟩) rfl (.aheadOfSpace fun t => .of_forall_eq fun r hr => ?_)
    split at hr <;> subst hr
    · exact runs_between _ _ t
    · exact runs_between _ _ t
    · exact .of_ok _ (.refl _ t)

theorem runs_elements (d : Nat) {r : Reader α} (hr : r.Scans) (steps : Bytes) (i : Nat)
    (s : Bytes) :
    Runs (d + 1) ⟨.between, d + 1⟩ ⟨.between, d + 1⟩ s (elements r steps i s) := by
  induction steps generalizing i s with
  | nil => exact runs_between _ _ s
  | cons x steps ih =>
    refine .bind (runs_nextElement d _ s) fun found rest _ => .ite (fun _ => ?_) fun _ => ?_
    · exact .bind ((hr (d + 1) rest).inside _) fun a rest _ =>
        .bind (ih (i + 1) rest) fun as rest _ => .of_ok _ (.refl _ rest)
    · exact .of_ok _ (.refl _ rest)

theorem scans_list {c : Codec α} (h : c.read.Scans) : (list c).read.Scans := by
  intro d s
  refine .aheadOfSpace fun t => .of_forall_eq fun r hr => ?_
  split at hr <;> subst hr
  · next hopen =>
    obtain ⟨t, rfl⟩ := List.head?_eq_some_iff.1 hopen
    exact .skip (b := ⟨.between, d + 1⟩) rfl (.closedBy closes_endOfList (runs_elements d h _ _ t))
  · exact scans_wrongKind _ d t

theorem runs_nextKey (d : Nat) (first : Bool) (s : Bytes) :
    Runs (d + 1) ⟨.between, d + 1⟩ ⟨.between, d + 1⟩ s (nextKey first s) := by
  unfold nextKey
  refine .aheadOfSpace fun t => ?_
  cases t with
  | nil => exact runs_between _ _ []
  | cons x t =>
    refine .ite (fun _ => .of_ok _ (.refl _ _)) fun _ => .ite (fun _ => ?_) fun _ =>
      .ite (fun hcomma => ?_) fun _ => runs_between _ _ _
    · exact .ite (fun _ => .of_ok _ (.refl _ _)) fun _ => runs_between _ _ _
    · subst hcomma
      refine .skip (b := ⟨.between, d + 1⟩) rfl
        (.aheadOfSpace fun t => .of_forall_eq fun r hr => ?_)
      split at hr <;> subst hr
      · exact runs_between _ _ t
      · exact .of_ok _ (.refl _ t)
      · exact runs_between _ _ t
      · exact runs_between _ _ t

/-- A member begins with its key in quotation marks. -/
theorem Runs.key {d : Nat} {first : Bool} {f g : Reader α}
    (hf : ∀ t, Runs (d + 1) ⟨.quoted .plain, d + 1⟩ b t (f t))
    (hg : ∀ t, Runs (d + 1) ⟨.between, d + 1⟩ b t (g t)) :
    Runs (d + 1) ⟨.between, d + 1⟩ b s
      ((nextKey first >>= fun found => if found then (Json.skip >>= fun _ => f) else g) s) := by
  refine .bind (runs_nextKey d first s) fun found rest hkey => ?_
  cases found with
  | false => exact hg rest
  | true =>
    obtain ⟨⟨t, rfl⟩, -⟩ := nextKey_eq_true hkey
    exact .skip (b := ⟨.quoted .plain, d + 1⟩) rfl (hf t)

/-- The value of a member, behind a colon. -/
theorem runs_memberValue (d : Nat) (name : String) {r : Reader α} (hr : r.Scans) (s : Bytes) :
    Runs (d + 1) ⟨.between, d + 1⟩ ⟨.between, d + 1⟩ s (memberValue name r s) := by
  refine .aheadOfSpace fun t => .of_forall_eq fun f hf => ?_
  split at hf <;> subst hf
  · next hcolon =>
    obtain ⟨t, rfl⟩ := List.head?_eq_some_iff.1 hcolon
    exact .skip (b := ⟨.between, d + 1⟩) rfl ((hr (d + 1) t).inside _)
  · exact runs_between _ _ t
  · exact runs_between _ _ t

/-! ### Trees -/

theorem runs_members (d : Nat) {r : Reader Tree} (hr : r.Scans) (steps : Bytes) (first : Bool)
    (s : Bytes) :
    Runs (d + 1) ⟨.between, d + 1⟩ ⟨.between, d + 1⟩ s (members r steps first s) := by
  induction steps generalizing first s with
  | nil => exact runs_between _ _ s
  | cons x steps ih =>
    refine .key (fun t => ?_) fun t => .of_ok _ (.refl _ t)
    refine .bind (runs_string (d + 1) t) fun name rest _ => ?_
    exact .bind (runs_memberValue d name hr rest) fun v rest _ =>
      .bind (ih false rest) fun vs rest _ => .of_ok _ (.refl _ rest)

/-- A value is scanned as a tree, at any depth. -/
theorem scans_tree (depth : Nat) : (tree depth).Scans := by
  induction depth with
  | zero =>
    intro d s
    refine .aheadOfSpace fun t => ?_
    cases t with
    | nil => exact runs_between d _ []
    | cons x t => exact .ite (fun _ => runs_between d _ _) fun _ => runs_scalar d x t
  | succ depth ih =>
    intro d s
    refine .aheadOfSpace fun t => ?_
    cases t with
    | nil => exact runs_between d _ []
    | cons x t =>
      refine .ite (fun hx => ?_) fun _ => .ite (fun hx => ?_) fun _ => runs_scalar d x t
      · subst hx
        refine .skip (b := ⟨.between, d + 1⟩) rfl ?_
        exact .bind (.closedBy closes_endOfList (runs_elements d ih _ _ t))
          fun v rest _ => .of_ok _ (.refl _ rest)
      · subst hx
        refine .skip (b := ⟨.between, d + 1⟩) rfl ?_
        exact .bind (.closedBy closes_endOfObject (runs_members d ih _ _ t))
          fun v rest _ => .of_ok _ (.refl _ rest)

/-! ### Values that are skipped -/

theorem crosses_skipStart {o : Option Bracket} (h : skipStart s = ⟨.ok o, rest⟩) (d : Nat) :
    Crosses ⟨.between, d⟩ ⟨.between, d + o.toList.length⟩ s rest := by
  have hliteral {cs : List Char} {t : Bytes}
      (h : (identifier cs >>= fun _ => (pure none : Reader (Option Bracket))) t = ⟨.ok o, rest⟩) :
      Crosses ⟨.before cs, d⟩ ⟨.between, d + o.toList.length⟩ t rest := by
    obtain ⟨u, t', hletters, h⟩ := exists_of_bind_eq_ok h
    cases h
    exact (runs_identifier d cs t).ok u rest hletters
  unfold skipStart at h
  rw [aheadOfSpace_apply] at h
  refine (Crosses.spaces d s).trans ?_
  generalize s.dropWhile isSpace = t at h ⊢
  cases t with
  | nil => cases h
  | cons x t =>
    rw [List.head?_cons] at h
    dsimp only at h
    split_ifs at h with hnull htrue hfalse hminus hdigit hquote hsquare hcurly
    · subst hnull
      exact .step rfl (hliteral h)
    · subst htrue
      exact .step rfl (hliteral h)
    · subst hfalse
      exact .step rfl (hliteral h)
    · subst hminus
      obtain ⟨u, t', hnumber, h⟩ := exists_of_bind_eq_ok ((skip_bind _ _ _).symm.trans h)
      cases h
      have hskipped := runs_skipNumber d (p := .digit) t trivial
      exact .step (b := ⟨.digit, d⟩) rfl (hskipped.ok u rest hnumber)
    · obtain ⟨u, t', hnumber, h⟩ := exists_of_bind_eq_ok h
      cases h
      exact (runs_skipNumber d (p := .between) (x :: t) ⟨x, rfl, hdigit⟩).ok u rest hnumber
    · subst hquote
      obtain ⟨u, t', hstring, h⟩ := exists_of_bind_eq_ok ((skip_bind _ _ _).symm.trans h)
      cases h
      exact .step (b := ⟨.quoted .plain, d⟩) rfl (crosses_skipStringFrom d hstring)
    · subst hsquare
      cases h
      exact .step (b := ⟨.between, d + 1⟩) rfl (.refl _ t)
    · subst hcurly
      cases h
      exact .step (b := ⟨.between, d + 1⟩) rfl (.refl _ t)
    · cases h

/-- The brackets that are still open. -/
def openBrackets : Option (Bracket × List Bracket) → List Bracket
  | none => []
  | some (inner, outer) => inner :: outer

theorem crosses_closeBrackets {comma : Bool} {bs : List Bracket}
    {o : Option (Bracket × List Bracket)} (h : closeBrackets comma bs s = ⟨.ok o, rest⟩) (d : Nat) :
    Crosses ⟨.between, d + bs.length⟩ ⟨.between, d + (openBrackets o).length⟩ s rest := by
  induction bs generalizing comma s with
  | nil =>
    cases h
    exact .refl _ _
  | cons inner outer ih =>
    unfold closeBrackets at h
    rw [aheadOfSpace_apply] at h
    refine (Crosses.spaces _ s).trans ?_
    generalize s.dropWhile isSpace = t at h ⊢
    cases t with
    | nil => cases h
    | cons x t =>
      rw [List.head?_cons] at h
      dsimp only at h
      split_ifs at h with hcomma hend
      · rw [Bool.and_eq_true, beq_iff_eq] at hcomma
        obtain rfl := hcomma.2
        cases h
        exact .step (b := ⟨.between, d + (inner :: outer).length⟩) rfl (.refl _ t)
      · rw [beq_iff_eq] at hend
        rw [skip_bind] at h
        refine .step (b := ⟨.between, d + outer.length⟩) ?_ (ih h)
        rw [hend]
        cases inner <;> rfl
      · cases h
      · cases h
        exact .refl _ _

theorem crosses_skipKey {u : Unit} (h : skipKey s = ⟨.ok u, rest⟩) (d : Nat) :
    Crosses ⟨.between, d + 1⟩ ⟨.between, d + 1⟩ s rest := by
  unfold skipKey at h
  rw [aheadOfSpace_apply] at h
  refine (Crosses.spaces _ s).trans ?_
  generalize s.dropWhile isSpace = t at h ⊢
  obtain ⟨r, hr, h⟩ := exists_eq_apply h
  split at hr <;> subst hr
  · next hquote =>
    obtain ⟨t, rfl⟩ := List.head?_eq_some_iff.1 hquote
    rw [skip_bind] at h
    obtain ⟨u', t', hstring, h⟩ := exists_of_bind_eq_ok h
    refine .step (b := ⟨.quoted .plain, d + 1⟩) rfl ((crosses_skipStringFrom _ hstring).trans ?_)
    rw [aheadOfSpace_apply] at h
    refine (Crosses.spaces _ t').trans ?_
    generalize t'.dropWhile isSpace = v at h ⊢
    obtain ⟨r, hr, h⟩ := exists_eq_apply h
    split at hr <;> subst hr
    · next hcolon =>
      obtain ⟨v, rfl⟩ := List.head?_eq_some_iff.1 hcolon
      cases h
      exact .step (b := ⟨.between, d + 1⟩) rfl (.refl _ v)
    · cases h
    · cases h
  · cases h
  · cases h

/-- A value is skipped together with what the brackets around it hold. -/
theorem crosses_skipValues {steps : Bytes} {bs : List Bracket} {u : Unit}
    (h : skipValues steps bs s = ⟨.ok u, rest⟩) (d : Nat) :
    Crosses ⟨.between, d + bs.length⟩ ⟨.between, d⟩ s rest := by
  induction steps generalizing bs s with
  | nil => cases h
  | cons x steps ih =>
    rw [skipValues] at h
    obtain ⟨opened, t, hstart, h⟩ := exists_of_bind_eq_ok h
    obtain ⟨o, t', hclose, h⟩ := exists_of_bind_eq_ok h
    have hopened := crosses_skipStart hstart (d + bs.length)
    have hclosed := crosses_closeBrackets hclose d
    have hdepth : d + bs.length + opened.toList.length =
        d + (opened.toList ++ bs).length := by
      rw [List.length_append]
      omega
    rw [hdepth] at hopened
    refine hopened.trans (hclosed.trans ?_)
    rcases o with _ | ⟨inner, outer⟩
    · cases h
      exact .refl _ _
    · dsimp only at h
      split_ifs at h with hkey
      · obtain ⟨u', t'', hkey, h⟩ := exists_of_bind_eq_ok h
        exact (crosses_skipKey hkey (d + outer.length)).trans (ih h)
      · exact ih h

theorem crosses_skipValue {u : Unit} (h : skipValue s = ⟨.ok u, rest⟩) (d : Nat) :
    Crosses ⟨.between, d⟩ ⟨.between, d⟩ s rest :=
  crosses_skipValues h d

end Daybook.Json
