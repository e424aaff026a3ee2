import Daybook.Json.Reader
import Daybook.Proofs.Text.Decimal

/-!
# Places in a JSON text

A scanner follows the bytes of a JSON text without building values.  It knows how many brackets are
open, and whether it is inside a string, a literal or a number.  Whatever reads a text moves the
scanner; two readers of one text can be compared by where they leave it.

## Main definitions

* `Json.Place`, `Json.Spot` : what a place lies in, and how deep.
* `Json.scan` : the spot after some bytes.
* `Json.Crosses`, `Json.Stops` : where a reader that succeeds or fails leaves the scanner.

## Main results

* `Json.scan_up` : more open brackets around a text make no difference to it.
* `Json.Opposite.scan` : two scanners of which one is inside a string and the other is not remain
  so.
* `Json.same_end` : a value has one end.
-/

namespace Daybook.Json

/-! ### The scanner -/

/-- What a place in a JSON text lies in. -/
inductive Place where
  /-- Outside strings, where any value or mark may follow. -/
  | between
  /-- Inside a literal; a letter has to follow, and then others. -/
  | letter (c : Char) (cs : List Char)
  /-- Inside a number; a digit has to follow. -/
  | digit
  /-- After the letter before an exponent. -/
  | exponent
  /-- Inside a string. -/
  | quoted (x : SkipState)

/-- The place before the rest of a literal. -/
def Place.before : List Char → Place
  | [] => .between
  | c :: cs => .letter c cs

/-- What a byte means for the brackets around it.  A mark stands inside brackets only. -/
inductive Move where
  | stay
  | opening
  | closing
  | mark

/-- How many brackets are open after a move. -/
def Move.depth? : Move → Nat → Option Nat
  | .stay, d => some d
  | .opening, d => some (d + 1)
  | .closing, d + 1 => some d
  | .mark, d + 1 => some (d + 1)
  | _, 0 => none

/-- The place after a byte inside a string. -/
def SkipState.next : SkipState → UInt8 → Option Place
  | .plain, b =>
    if b = 0x22 then some .between
    else if b = 0x5C then some (.quoted .escape)
    else if b < 0x20 then none
    else some (.quoted .plain)
  | .escape, b =>
    if b = 0x75 then some (.quoted (.digits []))
    else if (simpleEscape? b).isSome then some (.quoted .plain)
    else none
  | .digits ds, b =>
    if ds.length < 3 then some (.quoted (.digits (ds ++ [b])))
    else if (hexNumber? (ds ++ [b])).isSome then some (.quoted .plain)
    else none

/-- The place after a byte, and what the byte means for the brackets. -/
def Place.next : Place → UInt8 → Option (Place × Move)
  | .between, b =>
    if isSpace b || isDigit b then some (.between, .stay)
    else if b = 0x22 then some (.quoted .plain, .stay)
    else if b = 0x5B ∨ b = 0x7B then some (.between, .opening)
    else if b = 0x5D ∨ b = 0x7D then some (.between, .closing)
    else if b = 0x2C ∨ b = 0x3A then some (.between, .mark)
    else if b = 0x2D ∨ b = 0x2E then some (.digit, .stay)
    else if isExponentLetter b then some (.exponent, .stay)
    else if b = 0x6E then some (.before ['u', 'l', 'l'], .stay)
    else if b = 0x74 then some (.before ['r', 'u', 'e'], .stay)
    else if b = 0x66 then some (.before ['a', 'l', 's', 'e'], .stay)
    else none
  | .letter c cs, b => if b.toNat = c.toNat then some (.before cs, .stay) else none
  | .digit, b => if isDigit b then some (.between, .stay) else none
  | .exponent, b =>
    if isDigit b then some (.between, .stay)
    else if b = 0x2B ∨ b = 0x2D then some (.digit, .stay)
    else none
  | .quoted x, b => (x.next b).map fun p => (p, .stay)

/-- A place, and how many brackets are open there. -/
structure Spot where
  place : Place
  depth : Nat

namespace Spot

/-- The spot after a byte. -/
def step (a : Spot) (b : UInt8) : Option Spot := do
  let (p, m) ← a.place.next b
  let d ← m.depth? a.depth
  pure ⟨p, d⟩

/-- The same place inside more brackets. -/
def up (a : Spot) (k : Nat) : Spot :=
  ⟨a.place, a.depth + k⟩

/-- The spot outside all brackets, where a value may begin. -/
def start : Spot :=
  ⟨.between, 0⟩

end Spot

/-- The spot after some bytes. -/
def scan : Spot → Bytes → Option Spot
  | a, [] => some a
  | a, b :: s => (a.step b).bind fun c => scan c s

theorem scan_append (a : Spot) (v w : Bytes) :
    scan a (v ++ w) = (scan a v).bind fun b => scan b w := by
  induction v generalizing a with
  | nil => rfl
  | cons x v ih =>
    rw [List.cons_append, scan, scan]
    cases a.step x with
    | none => rfl
    | some c => exact ih c

theorem Move.depth?_add {m : Move} {d e : Nat} (h : m.depth? d = some e) (k : Nat) :
    m.depth? (d + k) = some (e + k) := by
  cases m with
  | stay =>
    cases h
    rfl
  | opening =>
    cases h
    rw [Nat.add_right_comm]
    rfl
  | closing =>
    cases d with
    | zero => cases h
    | succ d =>
      cases h
      rw [Nat.add_right_comm]
      rfl
  | mark =>
    cases d with
    | zero => cases h
    | succ d =>
      cases h
      rw [Nat.add_right_comm]
      rfl

theorem Spot.step_eq_some {a b : Spot} {x : UInt8} :
    a.step x = some b ↔ ∃ m : Move, a.place.next x = some (b.place, m) ∧
      m.depth? a.depth = some b.depth := by
  obtain ⟨q, e⟩ := b
  simp only [step, Option.bind_eq_bind, Option.pure_def, Option.bind_eq_some_iff, Option.some.injEq,
    Prod.exists, Spot.mk.injEq]
  constructor
  · rintro ⟨p, m, hnext, d, hdepth, rfl, rfl⟩
    exact ⟨m, hnext, hdepth⟩
  · rintro ⟨m, hnext, hdepth⟩
    exact ⟨q, m, hnext, e, hdepth, rfl, rfl⟩

theorem Spot.step_up {a b : Spot} {x : UInt8} (h : a.step x = some b) (k : Nat) :
    (a.up k).step x = some (b.up k) := by
  obtain ⟨m, hnext, hdepth⟩ := step_eq_some.1 h
  exact step_eq_some.2 ⟨m, hnext, Move.depth?_add hdepth k⟩

/-- More open brackets around a text make no difference to it. -/
theorem scan_up {a b : Spot} {w : Bytes} (h : scan a w = some b) (k : Nat) :
    scan (a.up k) w = some (b.up k) := by
  induction w generalizing a with
  | nil =>
    cases h
    rfl
  | cons x w ih =>
    obtain ⟨c, hstep, hscan⟩ := Option.bind_eq_some_iff.1 h
    rw [scan, Spot.step_up hstep, Option.bind_some]
    exact ih hscan

/-! ### Inside and outside of strings -/

namespace Place

/-- A place outside strings. -/
def IsOutside : Place → Prop
  | .letter c cs => '"' ∉ c :: cs ∧ '\\' ∉ c :: cs
  | .quoted _ => False
  | _ => True

variable {p q : Place} {b : UInt8} {m : Move}

theorem isOutside_before {cs : List Char} (h : '"' ∉ cs ∧ '\\' ∉ cs) :
    (before cs).IsOutside := by
  cases cs with
  | nil => trivial
  | cons c cs => exact h

/-- No backslash stands outside strings. -/
theorem next_backslash (hp : p.IsOutside) : p.next 0x5C = none := by
  cases p with
  | letter c cs =>
    refine if_neg fun hc => hp.2 ?_
    rw [show c = '\\' from Char.toNat_inj.1 hc.symm]
    exact List.mem_cons_self
  | quoted x => exact hp.elim
  | _ => rfl

/-- A quotation mark outside strings begins one. -/
theorem next_quotationMark (hp : p.IsOutside) (h : p.next 0x22 = some (q, m)) :
    q = .quoted .plain := by
  cases p with
  | between =>
    cases h
    rfl
  | letter c cs =>
    simp only [next] at h
    split_ifs at h with hc
    refine absurd ?_ hp.1
    rw [show c = '"' from Char.toNat_inj.1 hc.symm]
    exact List.mem_cons_self
  | quoted x => exact hp.elim
  | _ => cases h

/-- No other byte leads into a string. -/
theorem next_outside (hp : p.IsOutside) (hb : b ≠ 0x22) (h : p.next b = some (q, m)) :
    q.IsOutside := by
  cases p with
  | between =>
    simp only [next] at h
    split_ifs at h with _ hquote <;> cases h
    all_goals first
      | exact absurd hquote hb
      | trivial
  | letter c cs =>
    simp only [next] at h
    split_ifs at h
    cases h
    exact isOutside_before ⟨fun hc => hp.1 (List.mem_cons_of_mem _ hc),
      fun hc => hp.2 (List.mem_cons_of_mem _ hc)⟩
  | digit =>
    simp only [next] at h
    split_ifs at h
    cases h
    trivial
  | exponent =>
    simp only [next] at h
    split_ifs at h <;> cases h <;> trivial
  | quoted x => exact hp.elim

end Place

/-- Of two places one lies inside a string, not in an escape, and the other outside. -/
def Opposite (p q : Place) : Prop :=
  p = .quoted .plain ∧ q.IsOutside ∨ p.IsOutside ∧ q = .quoted .plain

namespace Opposite

theorem symm {p q : Place} (h : Opposite p q) : Opposite q p :=
  h.elim (fun ⟨hp, hq⟩ => .inr ⟨hq, hp⟩) fun ⟨hp, hq⟩ => .inl ⟨hq, hp⟩

private theorem next_quoted {p p' q' : Place} {b : UInt8} {m m' : Move} (hp : p.IsOutside)
    (h : p.next b = some (p', m)) (h' : (Place.quoted .plain).next b = some (q', m')) :
    Opposite p' q' := by
  by_cases hslash : b = 0x5C
  · rw [hslash, Place.next_backslash hp] at h
    cases h
  · by_cases hquote : b = 0x22
    · subst hquote
      cases h'
      exact .inl ⟨Place.next_quotationMark hp h, trivial⟩
    · simp only [Place.next, SkipState.next, if_neg hquote, if_neg hslash, Option.map_eq_some_iff,
        Option.ite_none_left_eq_some, Option.some.injEq, Prod.mk.injEq] at h'
      obtain ⟨-, ⟨-, rfl⟩, rfl, -⟩ := h'
      exact .inr ⟨Place.next_outside hp hquote h, rfl⟩

/-- Two scanners of which one is inside a string and the other is not remain so. -/
theorem scan {a b a' b' : Spot} {w : Bytes} (h : Opposite a.place b.place)
    (ha : Json.scan a w = some a') (hb : Json.scan b w = some b') :
    Opposite a'.place b'.place := by
  induction w generalizing a b with
  | nil =>
    cases ha
    cases hb
    exact h
  | cons x w ih =>
    obtain ⟨c, hac, hca⟩ := Option.bind_eq_some_iff.1 ha
    obtain ⟨d, hbd, hdb⟩ := Option.bind_eq_some_iff.1 hb
    obtain ⟨m, hnext, -⟩ := Spot.step_eq_some.1 hac
    obtain ⟨n, hnext', -⟩ := Spot.step_eq_some.1 hbd
    refine ih ?_ hca hdb
    rcases h with ⟨hquoted, hout⟩ | ⟨hout, hquoted⟩
    · rw [hquoted] at hnext
      exact (next_quoted hout hnext' hnext).symm
    · rw [hquoted] at hnext'
      exact next_quoted hout hnext hnext'

theorem eq_quoted {p : Place} (h : Opposite .between p) : p = .quoted .plain :=
  h.elim (fun ⟨hbetween, _⟩ => nomatch hbetween) And.right

end Opposite

/-! ### Where readers leave the scanner -/

variable {a b c : Spot} {n : Nat} {s t rest : Bytes} {x : UInt8}

/-- What was read of some bytes leads from one spot to another. -/
def Crosses (a b : Spot) (s rest : Bytes) : Prop :=
  ∃ w, s = w ++ rest ∧ scan a w = some b

namespace Crosses

theorem refl (a : Spot) (s : Bytes) : Crosses a a s s :=
  ⟨[], rfl, rfl⟩

theorem step (h : a.step x = some b) (hs : Crosses b c s rest) : Crosses a c (x :: s) rest := by
  obtain ⟨w, rfl, hw⟩ := hs
  refine ⟨x :: w, rfl, ?_⟩
  rw [Json.scan, h]
  exact hw

theorem trans (hs : Crosses a b s t) (ht : Crosses b c t rest) : Crosses a c s rest := by
  obtain ⟨v, rfl, hv⟩ := hs
  obtain ⟨w, rfl, hw⟩ := ht
  refine ⟨v ++ w, (List.append_assoc v w rest).symm, ?_⟩
  rw [scan_append, hv]
  exact hw

theorem up (h : Crosses a b s rest) (k : Nat) : Crosses (a.up k) (b.up k) s rest := by
  obtain ⟨w, rfl, hw⟩ := h
  exact ⟨w, rfl, scan_up hw k⟩

/-- All of the bytes lead where those that are left lead from the second spot. -/
theorem scan_eq (h : Crosses a b s rest) : scan a s = scan b rest := by
  obtain ⟨w, rfl, hw⟩ := h
  rw [scan_append, hw]
  rfl

/-- Another scanner that does not fail crosses the same bytes. -/
theorem exists_of_scan (h : Crosses a b s rest) {p q : Spot} (hp : scan p s = some q) :
    ∃ r, Crosses p r s rest ∧ (Opposite a.place p.place → Opposite b.place r.place) := by
  obtain ⟨w, rfl, hw⟩ := h
  rw [scan_append] at hp
  obtain ⟨r, hr, -⟩ := Option.bind_eq_some_iff.1 hp
  exact ⟨r, ⟨w, rfl, hr⟩, fun hopposite => hopposite.scan hw hr⟩

theorem dropWhile {f : UInt8 → Bool} (h : ∀ x, f x = true → a.step x = some a) (s : Bytes) :
    Crosses a a s (s.dropWhile f) := by
  induction s with
  | nil => exact refl a []
  | cons x s ih =>
    rw [List.dropWhile_cons]
    split_ifs with hx
    · exact step (h x hx) ih
    · exact refl a (x :: s)

theorem spaces (d : Nat) (s : Bytes) :
    Crosses ⟨.between, d⟩ ⟨.between, d⟩ s (s.dropWhile isSpace) :=
  dropWhile (fun x hx => Spot.step_eq_some.2 ⟨.stay, by simp [Place.next, hx], rfl⟩) s

theorem digits (d : Nat) (s : Bytes) :
    Crosses ⟨.between, d⟩ ⟨.between, d⟩ s (s.dropWhile isDigit) :=
  dropWhile (fun x hx => Spot.step_eq_some.2 ⟨.stay, by simp [Place.next, hx], rfl⟩) s

end Crosses

/-- A place that is not inside an escape, a literal or a number that has to go on. -/
def Place.IsSettled (p : Place) : Prop :=
  p = .between ∨ p = .quoted .plain

/-- A reader that gives up *stops* at the end of the bytes, or has found that they are no JSON text
inside any brackets, or leaves the scanner settled and at some depth at least. -/
def Stops (n : Nat) (a : Spot) (s rest : Bytes) : Prop :=
  rest = [] ∨ (∀ k, scan (a.up k) s = none) ∨
    ∃ c, Crosses a c s rest ∧ n ≤ c.depth ∧ c.place.IsSettled

theorem Crosses.stops (h : Crosses a b s rest) (hn : n ≤ b.depth) (hb : b.place.IsSettled) :
    Stops n a s rest :=
  .inr (.inr ⟨b, h, hn, hb⟩)

theorem Crosses.trans_stops (hs : Crosses a b s t) (ht : Stops n b t rest) : Stops n a s rest := by
  rcases ht with rfl | hdead | ⟨c, hc, hn, hsettled⟩
  · exact .inl rfl
  · exact .inr (.inl fun k => (hs.up k).scan_eq.trans (hdead k))
  · exact .inr (.inr ⟨c, hs.trans hc, hn, hsettled⟩)

namespace Stops

theorem step (h : a.step x = some b) (hs : Stops n b s rest) : Stops n a (x :: s) rest :=
  ((Crosses.refl b s).step h).trans_stops hs

/-- A byte that may not follow is found to be none. -/
theorem of_next (h : a.place.next x = none) (s rest : Bytes) : Stops n a (x :: s) rest := by
  refine .inr (.inl fun k => ?_)
  have hstep : (a.up k).step x = none := by simp [Spot.step, Spot.up, h]
  rw [scan, hstep]
  rfl

theorem mono {m : Nat} (h : Stops n a s rest) (hm : m ≤ n) : Stops m a s rest :=
  h.imp_right fun h => h.imp_right fun ⟨c, hc, hn, hsettled⟩ =>
    ⟨c, hc, Nat.le_trans hm hn, hsettled⟩

end Stops

/-! ### The end of a value -/

/-- A comma or a closing brace comes next after blanks. -/
def MemberEnds (s : Bytes) : Prop :=
  ∃ x t, s.dropWhile isSpace = x :: t ∧ (x = 0x2C ∨ x = 0x7D)

private theorem dropWhile_append_of_crosses {w : Bytes} (h : scan .start w = some .start)
    (hends : MemberEnds (w ++ s)) : (w ++ s).dropWhile isSpace = s.dropWhile isSpace := by
  induction w with
  | nil => rfl
  | cons x w ih =>
    obtain ⟨b, hstep, hscan⟩ := Option.bind_eq_some_iff.1 h
    rw [List.cons_append, MemberEnds, List.dropWhile_cons] at hends
    rw [List.cons_append, List.dropWhile_cons]
    split_ifs at hends ⊢ with hx
    · have hstay : Spot.start.step x = some .start :=
        Spot.step_eq_some.2 ⟨.stay, by simp [Spot.start, Place.next, hx], rfl⟩
      rw [hstay] at hstep
      cases hstep
      exact ih hscan hends
    · obtain ⟨y, u, hy, hmark⟩ := hends
      cases hy
      rcases hmark with rfl | rfl <;> cases hstep

/-- A value in an object has one end, apart from blanks. -/
theorem same_end {s₁ s₂ : Bytes} (h₁ : Crosses .start .start s s₁)
    (h₂ : Crosses .start .start s s₂) (hends₁ : MemberEnds s₁) (hends₂ : MemberEnds s₂) :
    s₁.dropWhile isSpace = s₂.dropWhile isSpace := by
  obtain ⟨w₁, rfl, hw₁⟩ := h₁
  obtain ⟨w₂, heq, hw₂⟩ := h₂
  rcases List.append_eq_append_iff.1 heq with ⟨w, rfl, rfl⟩ | ⟨w, rfl, rfl⟩
  · rw [scan_append, hw₁] at hw₂
    exact dropWhile_append_of_crosses hw₂ hends₁
  · rw [scan_append, hw₂] at hw₁
    exact (dropWhile_append_of_crosses hw₁ hends₂).symm

end Daybook.Json
