import Daybook.Json.Tree
import Daybook.Proofs.Json.Scanning
import Daybook.Proofs.Json.Skipping

/-!
# How readers move the scanner

A reader of values that succeeds takes the scanner from a place where a value may begin to one where
it is over, at the same depth.  A reader that fails stops at that depth or deeper, or inside a
string.

## Main definitions

* `Json.Runs` : where a reading that succeeds or fails leaves the scanner.
* `Json.Reader.Scans` : readers of values that run from any depth to the same depth.
* `Json.Place.AwaitsDigit` : where nothing but a digit may come next.

## Main results

* `Json.Runs.bind` : readings that run one after the other.
* `Json.runs_stringBytes`, `Json.runs_number` : strings and numbers.
* `Json.scans_readText`, `Json.scans_readNumber`, `Json.scans_spelled` : values in one piece.
-/

namespace Daybook.Json

open Reader

variable {α β : Type} {a b c : Spot} {n : Nat} {s t rest : Bytes}

/-! ### Readings -/

/-- A reading *runs* from one spot to another when it crosses from the one to the other if it
succeeds, and stops if it fails. -/
structure Runs (n : Nat) (a b : Spot) (s : Bytes) (x : Reading α) : Prop where
  ok : ∀ v rest, x = ⟨.ok v, rest⟩ → Crosses a b s rest
  error : ∀ e rest, x = ⟨.error e, rest⟩ → Stops n a s rest

namespace Runs

theorem of_ok (v : α) (h : Crosses a b s rest) : Runs n a b s (⟨.ok v, rest⟩ : Reading α) where
  ok := by
    rintro v rest ⟨⟩
    exact h
  error := by
    rintro e rest ⟨⟩

theorem of_error (e : Fault) (h : Stops n a s rest) :
    Runs n a b s (⟨.error e, rest⟩ : Reading α) where
  ok := by
    rintro v rest ⟨⟩
  error := by
    rintro e rest ⟨⟩
    exact h

theorem of_crosses {x : Reading α} (hs : Crosses a b s t) (ht : Runs n b c t x) :
    Runs n a c s x where
  ok v rest hx := hs.trans (ht.ok v rest hx)
  error e rest hx := hs.trans_stops (ht.error e rest hx)

theorem step {x : Reading α} {y : UInt8} (h : a.step y = some b) (hs : Runs n b c s x) :
    Runs n a c (y :: s) x :=
  of_crosses ((Crosses.refl b s).step h) hs

theorem bind {r : Reader α} {f : α → Reader β} (hr : Runs n a b s (r s))
    (hf : ∀ v rest, r s = ⟨.ok v, rest⟩ → Runs n b c rest (f v rest)) :
    Runs n a c s ((r >>= f) s) := by
  rcases hx : r s with ⟨e | v, rest⟩
  · rw [bind_of_error hx]
    exact of_error e (hr.error e rest hx)
  · rw [bind_of_ok hx]
    exact of_crosses (hr.ok v rest hx) (hf v rest hx)

/-- The reader may be taken for a variable, so that its cases can be distinguished. -/
theorem of_forall_eq {r : Reader α} (h : ∀ f, r = f → Runs n a b s (f t)) : Runs n a b s (r t) :=
  h r rfl

theorem ite {p : Prop} [Decidable p] {f g : Reader α} (hf : p → Runs n a b s (f t))
    (hg : ¬p → Runs n a b s (g t)) : Runs n a b s ((if p then f else g) t) := by
  split_ifs with hp
  · exact hf hp
  · exact hg hp

theorem aheadOfSpace {d : Nat} {f : Option UInt8 → Reader α}
    (h : ∀ t, Runs n ⟨.between, d⟩ b t (f t.head? t)) :
    Runs n ⟨.between, d⟩ b s ((Json.aheadOfSpace >>= f) s) :=
  of_crosses (Crosses.spaces d s) (h (s.dropWhile isSpace))

theorem skip {f : Unit → Reader α} {x : UInt8} (h : a.step x = some b)
    (hs : Runs n b c s (f () s)) : Runs n a c (x :: s) ((Json.skip >>= f) (x :: s)) :=
  step h hs

theorem inside {r : Reader α} (h : Runs n a b s (r s)) (x : Step) :
    Runs n a b s (Reader.inside x r s) := by
  rcases hr : r s with ⟨e | v, rest⟩
  · simp only [Reader.inside, hr]
    exact of_error _ (h.error e rest hr)
  · simp only [Reader.inside, hr]
    exact of_ok v (h.ok v rest hr)

/-- What fails at a settled place has stopped there. -/
theorem of_settled (e : Fault) (hn : n ≤ a.depth) (ha : a.place.IsSettled) :
    Runs n a b s (⟨.error e, s⟩ : Reading α) :=
  of_error e ((Crosses.refl a s).stops hn ha)

end Runs

/-- A reader of values *scans* when it runs from any place where a value may begin to one where it
is over. -/
def Reader.Scans (r : Reader α) : Prop :=
  ∀ d s, Runs d ⟨.between, d⟩ ⟨.between, d⟩ s (r s)

/-- A reader that fails wherever a value may begin, before it has read anything. -/
theorem runs_between (d : Nat) (e : Fault) (s : Bytes) :
    Runs d ⟨.between, d⟩ b s (⟨.error e, s⟩ : Reading α) :=
  .of_settled e (Nat.le_refl d) (.inl rfl)

/-! ### Strings -/

section

variable {d : Nat} {y : SkipState} {x : UInt8} {p : Place}

theorem Spot.step_quoted (h : y.next x = some p) (d : Nat) :
    step ⟨.quoted y, d⟩ x = some ⟨p, d⟩ := by
  refine step_eq_some.2 ⟨.stay, ?_, rfl⟩
  simp only [Place.next, h, Option.map_some]

theorem runs_quoted_step {r : Reading α} (h : y.next x = some p)
    (hs : Runs n ⟨p, d⟩ b s r) : Runs n ⟨.quoted y, d⟩ b (x :: s) r :=
  .step (Spot.step_quoted h d) hs

theorem crosses_quoted_step (h : y.next x = some p) (hs : Crosses ⟨p, d⟩ b s rest) :
    Crosses ⟨.quoted y, d⟩ b (x :: s) rest :=
  .step (Spot.step_quoted h d) hs

/-- A byte that ends the reading of a string is none that may follow, or leaves a settled place. -/
theorem runs_quoted_fault (e : Fault) (h : ∀ p, y.next x = some p → p.IsSettled) :
    Runs d ⟨.quoted y, d⟩ b (x :: s) (⟨.error e, s⟩ : Reading α) := by
  cases hnext : y.next x with
  | none => exact .of_error e (.of_next (by simp [Place.next, hnext]) s s)
  | some p => exact runs_quoted_step hnext (.of_settled e (Nat.le_refl d) (h p hnext))

theorem SkipState.next_plain_settled (hx : x ≠ 0x5C) (h : SkipState.plain.next x = some p) :
    p.IsSettled := by
  simp only [next, if_neg hx] at h
  split_ifs at h <;> cases h
  · exact .inl rfl
  · exact .inr rfl

theorem SkipState.next_escape_settled (hx : x ≠ 0x75) (h : SkipState.escape.next x = some p) :
    p.IsSettled := by
  simp only [next, if_neg hx] at h
  split_ifs at h
  cases h
  exact .inr rfl

theorem SkipState.next_digits_settled {ds : Bytes} (hds : ¬ds.length < 3)
    (h : (SkipState.digits ds).next x = some p) : p.IsSettled := by
  simp only [next, if_neg hds] at h
  split_ifs at h
  cases h
  exact .inr rfl

end

/-- The rest of a string is read up to its closing quotation mark.  Where it cannot be read, the
reader stops inside the string or right behind it. -/
theorem runs_stringBytes (d : Nat) (x : StringState) (found s : Bytes) :
    Runs d ⟨.quoted x.skipped, d⟩ ⟨.between, d⟩ s (stringBytes x found s) := by
  induction s generalizing x found with
  | nil => cases x <;> exact .of_error _ (.inl rfl)
  | cons b s ih =>
    cases x with
    | plain =>
      simp only [stringBytes, StringState.skipped]
      split_ifs with hquote hslash hcontrol
      · exact runs_quoted_step (if_pos hquote) (.of_ok _ (.refl _ s))
      · exact runs_quoted_step (by simp [SkipState.next, StringState.skipped, hslash])
          (ih .escape found)
      · exact runs_quoted_fault _ fun p => SkipState.next_plain_settled hslash
      · exact runs_quoted_step (by simp [SkipState.next, StringState.skipped, *]) (ih .plain _)
    | escape =>
      simp only [stringBytes, StringState.skipped]
      split_ifs with hletter
      · exact runs_quoted_step (if_pos hletter) (ih (.digits [] none) found)
      · split
        · next h =>
          exact runs_quoted_step (by simp [SkipState.next, StringState.skipped, hletter, h])
            (ih .plain _)
        · exact runs_quoted_fault _ fun p => SkipState.next_escape_settled hletter
    | digits ds leading =>
      simp only [stringBytes, StringState.skipped]
      split_ifs with hshort
      · exact runs_quoted_step (if_pos hshort) (ih (.digits (ds ++ [b]) leading) found)
      · have hfault {e : Fault} : Runs d ⟨.quoted (.digits ds), d⟩ ⟨.between, d⟩ (b :: s)
            (⟨.error e, s⟩ : Reading Bytes) :=
          runs_quoted_fault _ fun p => SkipState.next_digits_settled hshort
        have hnext {k : Nat} (h : hexNumber? (ds ++ [b]) = some k) :
            (SkipState.digits ds).next b = some (.quoted .plain) := by
          simp [SkipState.next, hshort, h]
        split
        · exact hfault
        · next k h =>
          split_ifs
          · exact hfault
          · exact runs_quoted_step (hnext h) (ih (.pairBackslash k) found)
          · exact runs_quoted_step (hnext h) (ih .plain _)
        · next k h =>
          split_ifs
          · exact runs_quoted_step (hnext h) (ih .plain _)
          · exact hfault
    | pairBackslash k =>
      simp only [stringBytes, StringState.skipped]
      split_ifs with hslash
      · exact runs_quoted_step (by simp [SkipState.next, StringState.skipped, hslash])
          (ih (.pairLetter k) found)
      · exact runs_quoted_fault _ fun p => SkipState.next_plain_settled hslash
    | pairLetter k =>
      simp only [stringBytes, StringState.skipped]
      split_ifs with hletter
      · exact runs_quoted_step (if_pos hletter) (ih (.digits [] (some k)) found)
      · exact runs_quoted_fault _ fun p => SkipState.next_escape_settled hletter

/-- A string after its opening quotation mark. -/
theorem runs_string (d : Nat) (s : Bytes) :
    Runs d ⟨.quoted .plain, d⟩ ⟨.between, d⟩ s (string s) := by
  have hbytes := runs_stringBytes d .plain [] s
  unfold string
  rcases hx : stringBytes .plain [] s with ⟨e | bs, rest⟩
  · exact .of_error e (hbytes.error e rest hx)
  · have hcrosses := hbytes.ok bs rest hx
    dsimp only
    split
    · exact .of_ok _ hcrosses
    · exact .of_error _ (hcrosses.stops (Nat.le_refl d) (.inl rfl))

/-- A string that is skipped after its opening quotation mark. -/
theorem crosses_skipStringFrom (d : Nat) {y : SkipState} {u : Unit}
    (h : skipStringFrom y s = ⟨.ok u, rest⟩) :
    Crosses ⟨.quoted y, d⟩ ⟨.between, d⟩ s rest := by
  induction s generalizing y with
  | nil => cases y <;> cases h
  | cons b s ih =>
    cases y with
    | plain =>
      simp only [skipStringFrom] at h
      split_ifs at h with hquote hslash hcontrol
      · cases h
        exact crosses_quoted_step (if_pos hquote) (.refl _ _)
      · exact crosses_quoted_step (by simp [SkipState.next, hslash]) (ih h)
      · cases h
      · exact crosses_quoted_step (by simp [SkipState.next, *]) (ih h)
    | escape =>
      simp only [skipStringFrom] at h
      split_ifs at h with hletter hsimple
      · exact crosses_quoted_step (if_pos hletter) (ih h)
      · exact crosses_quoted_step (by simp [SkipState.next, hletter, hsimple]) (ih h)
      · cases h
    | digits ds =>
      simp only [skipStringFrom] at h
      split_ifs at h with hshort hhex
      · exact crosses_quoted_step (if_pos hshort) (ih h)
      · exact crosses_quoted_step (by simp [SkipState.next, hshort, hhex]) (ih h)
      · cases h

/-! ### Literals and numbers -/

theorem Spot.step_letter {c : Char} {cs : List Char} {x : UInt8} (h : x.toNat = c.toNat)
    (d : Nat) : step ⟨.before (c :: cs), d⟩ x = some ⟨.before cs, d⟩ :=
  step_eq_some.2 ⟨.stay, by simp [Place.before, Place.next, h], rfl⟩

/-- The rest of a literal. -/
theorem runs_identifier (d : Nat) (cs : List Char) (s : Bytes) :
    Runs d ⟨.before cs, d⟩ ⟨.between, d⟩ s (identifier cs s) := by
  induction cs generalizing s with
  | nil => exact .of_ok () (.refl _ s)
  | cons c cs ih =>
    cases s with
    | nil => exact .of_error _ (.inl rfl)
    | cons x s =>
      simp only [identifier]
      split_ifs with hc
      · exact .step (Spot.step_letter hc d) (ih s)
      · exact .of_error _ (.of_next (by simp [Place.before, Place.next, hc]) s s)

theorem runs_real (d : Nat) (negative : Bool) (significand : Nat) (exponent : Int) (s : Bytes) :
    Runs d ⟨.between, d⟩ ⟨.between, d⟩ s (real negative significand exponent s) := by
  unfold real
  cases Real.ofDecimal? significand exponent with
  | none => exact runs_between d _ s
  | some x => exact .of_ok _ (.refl _ s)

namespace Place

/-- A place where a digit may follow. -/
def TakesDigit : Place → Prop
  | .between | .digit | .exponent => True
  | _ => False

/-- A place where a digit has to follow, or is known to come next. -/
def AwaitsDigit (s : Bytes) : Place → Prop
  | .between => ∃ x ∈ s.head?, isDigit x = true
  | .digit => True
  | .exponent => ¬(s.head? = some 0x2B ∨ s.head? = some 0x2D)
  | _ => False

variable {p : Place} {x : UInt8}

theorem AwaitsDigit.takesDigit (h : p.AwaitsDigit s) : p.TakesDigit := by
  cases p with
  | letter c cs => exact h.elim
  | quoted y => exact h.elim
  | _ => trivial

/-- Nothing but a digit follows where one has to. -/
theorem AwaitsDigit.next_eq_none (h : p.AwaitsDigit (x :: s)) (hx : ¬isDigit x = true) :
    p.next x = none := by
  cases p with
  | between =>
    obtain ⟨y, hy, hdigit⟩ := h
    cases hy
    exact absurd hdigit hx
  | digit => exact if_neg hx
  | exponent =>
    simp only [AwaitsDigit, List.head?_cons, Option.some.injEq] at h
    simp only [next, if_neg hx, if_neg h]
  | letter c cs => exact h.elim
  | quoted y => exact h.elim

end Place

theorem Spot.step_digit {p : Place} (hp : p.TakesDigit) {x : UInt8} (hx : isDigit x = true)
    (d : Nat) : step ⟨p, d⟩ x = some ⟨.between, d⟩ := by
  refine step_eq_some.2 ⟨.stay, ?_, rfl⟩
  cases p with
  | between => simp [Place.next, hx]
  | digit => exact if_pos hx
  | exponent => exact if_pos hx
  | letter c cs => exact hp.elim
  | quoted y => exact hp.elim

theorem Spot.step_exponentLetter {x : UInt8} (hx : isExponentLetter x = true) (d : Nat) :
    step ⟨.between, d⟩ x = some ⟨.exponent, d⟩ := by
  rw [isExponentLetter, Bool.or_eq_true, beq_iff_eq, beq_iff_eq] at hx
  rcases hx with rfl | rfl <;> rfl

theorem runs_exponentDigits (d : Nat) (negative down : Bool) (significand : Nat) (base : Int)
    (k : Nat) (s : Bytes) :
    Runs d ⟨.between, d⟩ ⟨.between, d⟩ s
      (exponentDigits negative down significand base k s) := by
  induction s generalizing k with
  | nil => exact runs_real d _ _ _ []
  | cons x s ih =>
    simp only [exponentDigits]
    split_ifs with hdigit
    · exact .step (Spot.step_digit (p := .between) trivial hdigit d) (runs_between d _ s)
    · exact .step (Spot.step_digit (p := .between) trivial hdigit d) (.of_ok _ (.digits d s))
    · exact .step (Spot.step_digit (p := .between) trivial hdigit d) (ih _)
    · exact runs_real d _ _ _ (x :: s)

/-- The digits of an exponent, of which the first has to follow. -/
private theorem runs_afterSign {p : Place} (d : Nat) (negative down : Bool) (significand : Nat)
    (base : Int) (s : Bytes) (hp : p.AwaitsDigit s) :
    Runs d ⟨p, d⟩ ⟨.between, d⟩ s ((do
      match ← ahead with
      | none => fail (.truncated .value)
      | some b =>
        skip
        if isDigit b then exponentDigits negative down significand base (digitValue b)
        else fail (.malformed .invalidNumber) : Reader Number) s) := by
  rw [ahead_bind]
  cases s with
  | nil => exact .of_error _ (.inl rfl)
  | cons x s =>
    rw [List.head?_cons]
    dsimp only
    rw [skip_bind]
    refine .ite (fun hx => ?_) fun hx => .of_error _ (.of_next (hp.next_eq_none hx) s s)
    exact .step (Spot.step_digit hp.takesDigit hx d) (runs_exponentDigits d _ _ _ _ _ s)

theorem runs_exponent (d : Nat) (negative : Bool) (significand : Nat) (base : Int) (s : Bytes) :
    Runs d ⟨.exponent, d⟩ ⟨.between, d⟩ s (exponent negative significand base s) := by
  unfold exponent
  rw [ahead_bind]
  refine .ite (fun hsign => ?_) fun hsign => runs_afterSign d _ _ _ _ s hsign
  cases s with
  | nil => simp at hsign
  | cons x s =>
    refine .skip (b := ⟨.digit, d⟩) ?_ (runs_afterSign d _ _ _ _ s trivial)
    rw [List.head?_cons, Option.some.injEq, Option.some.injEq] at hsign
    rcases hsign with rfl | rfl <;> rfl

theorem runs_fractionDigits (d : Nat) {p : Place} {count : Nat}
    (hp : count = 0 ∧ p = .digit ∨ count ≠ 0 ∧ p = .between) (negative full : Bool)
    (significand : Nat) (base : Int) (s : Bytes) :
    Runs d ⟨p, d⟩ ⟨.between, d⟩ s (fractionDigits negative count full significand base s) := by
  induction s generalizing p count full significand base with
  | nil =>
    rcases hp with ⟨hcount, rfl⟩ | ⟨hcount, rfl⟩
    · simp only [fractionDigits, if_pos hcount]
      exact .of_error _ (.inl rfl)
    · simp only [fractionDigits, if_neg hcount]
      exact runs_real d _ _ _ []
  | cons x s ih =>
    simp only [fractionDigits]
    by_cases hx : isDigit x = true
    · have htakes : p.TakesDigit := by
        rcases hp with ⟨-, rfl⟩ | ⟨-, rfl⟩ <;> trivial
      have hstep := Spot.step_digit htakes hx d
      have hlater := ih (.inr ⟨Nat.succ_ne_zero count, rfl⟩)
      rw [if_pos hx]
      split_ifs
      · exact .step hstep (hlater _ _ _)
      · exact .step hstep (hlater _ _ _)
    · rw [if_neg hx]
      rcases hp with ⟨hcount, rfl⟩ | ⟨hcount, rfl⟩
      · rw [if_pos hcount]
        exact .of_error _ (.of_next (a := ⟨.digit, d⟩) (if_neg hx) s _)
      · rw [if_neg hcount]
        split_ifs with hletter
        · exact .step (Spot.step_exponentLetter hletter d) (runs_exponent d _ _ _ s)
        · exact runs_real d _ _ _ (x :: s)

theorem runs_whole (d : Nat) (negative full : Bool) (significand : Nat) (base : Int) (s : Bytes) :
    Runs d ⟨.between, d⟩ ⟨.between, d⟩ s (afterDigits.whole negative full significand base s) := by
  unfold afterDigits.whole
  refine .ite (fun _ => runs_real d _ _ _ s) fun _ => ?_
  refine .ite (fun _ => .of_ok _ (.refl _ s)) fun _ => ?_
  exact .ite (fun _ => .of_ok _ (.refl _ s)) fun _ => .of_ok _ (.refl _ s)

theorem runs_afterDigits (d : Nat) (negative full : Bool) (significand : Nat) (base : Int)
    (s : Bytes) :
    Runs d ⟨.between, d⟩ ⟨.between, d⟩ s (afterDigits negative full significand base s) := by
  unfold afterDigits
  rw [ahead_bind]
  refine .of_forall_eq fun r hr => ?_
  split at hr <;> subst hr
  · next hpoint =>
    obtain ⟨s, rfl⟩ := List.head?_eq_some_iff.1 hpoint
    exact .skip (b := ⟨.digit, d⟩) rfl (runs_fractionDigits d (.inl ⟨rfl, rfl⟩) _ _ _ _ s)
  · next x _ hx =>
    obtain ⟨s, rfl⟩ := List.head?_eq_some_iff.1 hx
    refine .ite (fun hletter => ?_) fun _ => runs_whole d _ _ _ _ _
    exact .skip (Spot.step_exponentLetter hletter d) (runs_exponent d _ _ _ s)
  · exact runs_whole d _ _ _ _ s

theorem runs_wholeDigits (d : Nat) (negative full : Bool) (significand : Nat) (base : Int)
    (s : Bytes) :
    Runs d ⟨.between, d⟩ ⟨.between, d⟩ s (wholeDigits negative full significand base s) := by
  induction s generalizing full significand base with
  | nil => exact runs_afterDigits d _ _ _ _ []
  | cons x s ih =>
    simp only [wholeDigits]
    split_ifs with hx
    · exact .step (Spot.step_digit (p := .between) trivial hx d) (ih _ _ _)
    · exact .step (Spot.step_digit (p := .between) trivial hx d) (ih _ _ _)
    · exact runs_afterDigits d _ _ _ _ (x :: s)

/-- A number after its sign; without a sign a digit is known to come next. -/
theorem runs_unsignedNumber (d : Nat) {p : Place} (negative : Bool) (s : Bytes)
    (hp : p.AwaitsDigit s) :
    Runs d ⟨p, d⟩ ⟨.between, d⟩ s (unsignedNumber negative s) := by
  unfold unsignedNumber
  rw [ahead_bind]
  cases s with
  | nil => exact .of_error _ (.inl rfl)
  | cons x s =>
    rw [List.head?_cons]
    dsimp only
    rw [skip_bind]
    refine .ite (fun hzero => ?_) fun _ => .ite (fun hx => ?_) fun hx =>
      .of_error _ (.of_next (hp.next_eq_none hx) s s)
    · refine .step (Spot.step_digit hp.takesDigit (by rw [hzero]; rfl) d) ?_
      rw [ahead_bind]
      cases s with
      | nil => exact runs_afterDigits d _ _ _ _ []
      | cons y s => exact .ite (fun _ => runs_between d _ _) fun _ => runs_afterDigits d _ _ _ _ _
    · exact .step (Spot.step_digit hp.takesDigit hx d) (runs_wholeDigits d _ _ _ _ s)

/-- A number, whose first byte is known to be a minus sign or a digit. -/
theorem runs_number (d : Nat) {x : UInt8} (hx : x = 0x2D ∨ isDigit x = true) (s : Bytes) :
    Runs d ⟨.between, d⟩ ⟨.between, d⟩ (x :: s) (number (x :: s)) := by
  unfold number
  rw [ahead_bind]
  refine .ite (fun hminus => ?_) fun hminus => ?_
  · rw [List.head?_cons, Option.some.injEq] at hminus
    subst hminus
    exact .skip (b := ⟨.digit, d⟩) rfl (runs_unsignedNumber d true s trivial)
  · rw [List.head?_cons, Option.some.injEq] at hminus
    exact runs_unsignedNumber d false (x :: s) ⟨x, rfl, hx.resolve_left hminus⟩

/-- Digits of which the first has to follow. -/
private theorem runs_skipSomeDigits {p : Place} (d : Nat) {fault : Reader Unit}
    (hfault : ∀ s, ∃ e t, fault s = ⟨.error e, t⟩ ∧ (s = [] → t = [])) (s : Bytes)
    (hp : p.AwaitsDigit s) :
    Runs d ⟨p, d⟩ ⟨.between, d⟩ s (skipSomeDigits fault s) := by
  unfold skipSomeDigits
  rw [ahead_bind]
  cases s with
  | nil =>
    obtain ⟨e, t, h, ht⟩ := hfault []
    obtain rfl := ht rfl
    change Runs d ⟨p, d⟩ ⟨.between, d⟩ [] (fault [])
    rw [h]
    exact .of_error e (.inl rfl)
  | cons x s =>
    refine .ite (fun hx => ?_) fun hx => ?_
    · have hdigits : skipDigits (x :: s) = ⟨.ok (), s.dropWhile isDigit⟩ := by
        rw [skipDigits, List.dropWhile_cons_of_pos hx]
      rw [hdigits]
      exact .of_ok () (.step (Spot.step_digit hp.takesDigit hx d) (.digits d s))
    · obtain ⟨e, t, h, -⟩ := hfault (x :: s)
      rw [h]
      exact .of_error e (.of_next (hp.next_eq_none hx) s t)

/-- The exponent of a number that is skipped, if there is one. -/
private theorem runs_skipExponent (d : Nat) (s : Bytes) :
    Runs d ⟨.between, d⟩ ⟨.between, d⟩ s ((do
      if (← ahead).any isExponentLetter then do
        skip
        let sign ← ahead
        if sign = some 0x2B ∨ sign = some 0x2D then skip
        skipSomeDigits (do skip; fail (.malformed .invalidNumber)) : Reader Unit) s) := by
  have hfault (s : Bytes) : ∃ e t,
      (do skip; fail (.malformed .invalidNumber) : Reader Unit) s = ⟨.error e, t⟩ ∧
        (s = [] → t = []) :=
    ⟨_, s.drop 1, rfl, fun hs => by rw [hs]; rfl⟩
  rw [ahead_bind]
  refine .ite (fun hletter => ?_) fun _ => .of_ok () (.refl _ s)
  cases s with
  | nil => cases hletter
  | cons x s =>
    refine .skip (Spot.step_exponentLetter hletter d) ?_
    rw [ahead_bind]
    refine .ite (fun hsign => ?_) fun hsign => runs_skipSomeDigits d hfault s hsign
    cases s with
    | nil => simp at hsign
    | cons y s =>
      refine .skip (b := ⟨.digit, d⟩) ?_ (runs_skipSomeDigits d hfault s trivial)
      rw [List.head?_cons, Option.some.injEq, Option.some.injEq] at hsign
      rcases hsign with rfl | rfl <;> rfl

/-- A number that is skipped after its sign; without a sign a digit is known to come next. -/
theorem runs_skipNumber (d : Nat) {p : Place} (s : Bytes) (hp : p.AwaitsDigit s) :
    Runs d ⟨p, d⟩ ⟨.between, d⟩ s (skipNumber s) := by
  have hfraction (s : Bytes) : Runs d ⟨.between, d⟩ ⟨.between, d⟩ s ((do
      if (← ahead) = some 0x2E then do
        skip
        skipSomeDigits (failAhead (.malformed .invalidNumber))
      if (← ahead).any isExponentLetter then do
        skip
        let sign ← ahead
        if sign = some 0x2B ∨ sign = some 0x2D then skip
        skipSomeDigits (do skip; fail (.malformed .invalidNumber)) : Reader Unit) s) := by
    rw [ahead_bind]
    refine .ite (fun hpoint => ?_) fun _ => runs_skipExponent d s
    obtain ⟨s, rfl⟩ := List.head?_eq_some_iff.1 hpoint
    refine .skip (b := ⟨.digit, d⟩) rfl (.bind (runs_skipSomeDigits d ?_ s trivial)
      fun _ rest _ => runs_skipExponent d rest)
    exact fun s => ⟨_, s, rfl, id⟩
  unfold skipNumber
  rw [ahead_bind]
  cases s with
  | nil => exact .of_error _ (.inl rfl)
  | cons x s =>
    rw [skip_bind]
    refine .of_forall_eq fun r hr => ?_
    split at hr <;> subst hr
    · next hzero =>
      cases hzero
      refine .step (Spot.step_digit hp.takesDigit rfl d) ?_
      rw [ahead_bind]
      exact .ite (fun _ => runs_between d _ s) fun _ => hfraction s
    · next y _ hy =>
      cases hy
      refine .ite (fun hx => ?_) fun hx => .of_error _ (.of_next (hp.next_eq_none hx) s s)
      exact .step (Spot.step_digit hp.takesDigit hx d) (.of_crosses (.digits d s) (hfraction _))
    · next hnone => cases hnone

/-! ### Scalars -/

theorem Runs.literal {d : Nat} {x : UInt8} {cs : List Char} {f : Unit → Reader α}
    (h : Spot.step ⟨.between, d⟩ x = some ⟨.before cs, d⟩)
    (hf : ∀ t, Runs d ⟨.between, d⟩ b t (f () t)) :
    Runs d ⟨.between, d⟩ b (x :: s) ((do Json.skip; identifier cs >>= f : Reader α) (x :: s)) :=
  .skip h (.bind (runs_identifier d cs s) fun _ rest _ => hf rest)

theorem scans_wrongKind (expected : String) : (wrongKind expected : Reader α).Scans := by
  intro d s
  unfold wrongKind
  refine .aheadOfSpace fun t => ?_
  cases t with
  | nil => exact runs_between d _ []
  | cons x t =>
    have hfail (e : Cause) (t : Bytes) :
        Runs d ⟨.between, d⟩ ⟨.between, d⟩ t ((fail e : Reader α) t) := runs_between d _ t
    refine .ite (fun hx => ?_) fun _ => .ite (fun hx => ?_) fun _ => .ite (fun hx => ?_) fun _ =>
      .ite (fun hx => ?_) fun _ => .ite (fun hx => ?_) fun _ => .ite (fun _ => hfail _ _) fun _ =>
        .ite (fun _ => hfail _ _) fun _ => runs_between d _ _
    · subst hx
      refine .literal rfl fun t => ?_
      exact hfail _ t
    · subst hx
      refine .literal rfl fun t => ?_
      exact hfail _ t
    · subst hx
      refine .literal rfl fun t => ?_
      exact hfail _ t
    · rw [Bool.or_eq_true, decide_eq_true_eq] at hx
      exact .bind (runs_number d hx t) fun n rest _ => hfail _ rest
    · subst hx
      exact .skip (b := ⟨.quoted .plain, d⟩) rfl
        (.bind (runs_string d t) fun text rest _ => hfail _ rest)

/-- A scalar whose first byte comes next. -/
theorem runs_scalar (d : Nat) (x : UInt8) (s : Bytes) :
    Runs d ⟨.between, d⟩ ⟨.between, d⟩ (x :: s) (scalar x (x :: s)) := by
  unfold scalar
  refine .ite (fun hx => ?_) fun _ => .ite (fun hx => ?_) fun _ => .ite (fun hx => ?_) fun _ =>
    .ite (fun hx => ?_) fun _ => .ite (fun hx => ?_) fun _ => runs_between d _ _
  · subst hx
    refine .literal rfl fun t => ?_
    exact .of_ok _ (.refl _ t)
  · subst hx
    refine .literal rfl fun t => ?_
    exact .of_ok _ (.refl _ t)
  · subst hx
    refine .literal rfl fun t => ?_
    exact .of_ok _ (.refl _ t)
  · rw [Bool.or_eq_true, decide_eq_true_eq] at hx
    exact .bind (runs_number d hx s) fun n rest _ => .of_ok _ (.refl _ rest)
  · subst hx
    exact .skip (b := ⟨.quoted .plain, d⟩) rfl
      (.bind (runs_string d s) fun text rest _ => .of_ok _ (.refl _ rest))

theorem scans_readText (expected : String) : (readText expected).Scans := by
  intro d s
  refine .aheadOfSpace fun t => .of_forall_eq fun r hr => ?_
  split at hr <;> subst hr
  · next hquote =>
    obtain ⟨t, rfl⟩ := List.head?_eq_some_iff.1 hquote
    exact .skip (b := ⟨.quoted .plain, d⟩) rfl (runs_string d t)
  · exact scans_wrongKind expected d t

theorem scans_spelled (expected reason : String) (parse? : String → Option α)
    (spell : α → String) : (spelled expected reason parse? spell).read.Scans := by
  intro d s
  refine .bind (scans_readText expected d s) fun text rest _ => .of_forall_eq fun r hr => ?_
  split at hr <;> subst hr
  · exact .of_ok _ (.refl _ rest)
  · exact runs_between d _ rest

theorem scans_readNumber (expected : String) (accept? : Int → Option α) :
    (readNumber expected accept?).Scans := by
  have haccepted (n : Number) (o : Option α) (d : Nat) (s : Bytes) :
      Runs d ⟨.between, d⟩ ⟨.between, d⟩ s (readNumber.accepted expected n o s) := by
    cases o with
    | none => exact runs_between d _ s
    | some a => exact .of_ok _ (.refl _ s)
  intro d s
  unfold readNumber
  refine .aheadOfSpace fun t => ?_
  cases t with
  | nil => exact scans_wrongKind expected d []
  | cons x t =>
    refine .ite (fun hx => ?_) fun _ => scans_wrongKind expected d _
    rw [Bool.or_eq_true, decide_eq_true_eq] at hx
    refine .bind (runs_number d hx t) fun n rest _ => ?_
    cases n <;> exact haccepted _ _ d rest

theorem scans_orNull {r : Reader α} (h : r.Scans) : (Member.orNull r).Scans := by
  intro d s
  refine .aheadOfSpace fun t => .of_forall_eq fun f hf => ?_
  split at hf <;> subst hf
  · next hnull =>
    obtain ⟨t, rfl⟩ := List.head?_eq_some_iff.1 hnull
    refine .literal rfl fun t => ?_
    exact .of_ok _ (.refl _ t)
  · exact .bind (h d t) fun v rest _ => .of_ok _ (.refl _ rest)

end Daybook.Json
