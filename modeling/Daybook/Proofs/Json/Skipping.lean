import Daybook.Proofs.Json.Reads

/-!
# Skipping what was written in JSON

A value that is not wanted is skipped up to the place where reading it would have stopped.

## Main results

* `Json.skipStringFrom_of_stringBytes` : a string that can be read is skipped to the same place.
* `Json.skips_quoted`, `Json.skips_integer`, `Json.skips_list` : what is written is skipped.
-/

namespace Daybook.Json

open Utf8 Reader

/-! ### Strings -/

/-- Where skipping stands when reading a string stands at some place.  The second half of a
surrogate pair is skipped like any other escape. -/
def StringState.skipped : StringState → SkipState
  | .plain => .plain
  | .escape => .escape
  | .digits ds _ => .digits ds
  | .pairBackslash _ => .plain
  | .pairLetter _ => .escape

/-- A string that can be read is skipped to the same place. -/
theorem skipStringFrom_of_stringBytes {x : StringState} {found s bs rest : Bytes}
    (h : stringBytes x found s = ⟨.ok bs, rest⟩) :
    skipStringFrom x.skipped s = ⟨.ok (), rest⟩ := by
  induction s generalizing x found with
  | nil => cases x <;> cases h
  | cons b s ih =>
    cases x with
    | plain =>
      simp only [stringBytes, StringState.skipped, skipStringFrom] at h ⊢
      split_ifs at h ⊢
      · cases h
        rfl
      · exact ih h
      · cases h
      · exact ih h
    | escape =>
      simp only [stringBytes, StringState.skipped, skipStringFrom] at h ⊢
      split_ifs at h ⊢ with hletter hsimple
      · exact ih h
      · split at h
        · exact ih h
        · cases h
      · rw [Option.not_isSome_iff_eq_none.1 hsimple] at h
        cases h
    | digits ds leading =>
      simp only [stringBytes, StringState.skipped, skipStringFrom] at h ⊢
      split_ifs at h ⊢ with hshort hhex
      · exact ih h
      · split at h
        · cases h
        · split_ifs at h
          · cases h
          · exact ih h
          · exact ih h
        · split_ifs at h
          · exact ih h
          · cases h
      · rw [Option.not_isSome_iff_eq_none.1 hhex] at h
        cases h
    | pairBackslash n =>
      simp only [stringBytes, StringState.skipped, skipStringFrom] at h ⊢
      split_ifs at h with hslash
      · subst hslash
        exact ih h
      · cases h
    | pairLetter n =>
      simp only [stringBytes, StringState.skipped, skipStringFrom] at h ⊢
      split_ifs at h with hletter
      · rw [if_pos hletter]
        exact ih h
      · cases h

/-! ### Scalars -/

/-- A text is *skipped whole* when skipping takes just the text and finds no bracket to open,
wherever the value is over after it. -/
def SkippedWhole (t : List Char) : Prop :=
  ∀ rest, Ends rest → skipStart (bytes t ++ rest) = ⟨.ok none, rest⟩

theorem skippedWhole_quoted (s : String) : SkippedWhole (quoted s) := by
  intro rest _
  have hread : stringBytes .plain [] (bytes (s.toList.flatMap escaped) ++ 0x22 :: rest) =
      ⟨.ok (bytes s.toList), rest⟩ := by
    rw [stringBytes_quoted, stringBytes, if_pos rfl, List.append_nil, List.reverse_reverse]
  rw [bytes_quoted, List.cons_append, List.append_assoc]
  unfold skipStart
  rw [aheadOfSpace_bind _ (by decide)]
  exact bind_of_ok (skipStringFrom_of_stringBytes hread)

theorem dropWhile_digits {cs : List Char} (hcs : ∀ c ∈ cs, c.isDigit = true) {rest : Bytes}
    (h : Ends rest) : (bytes cs ++ rest).dropWhile isDigit = rest := by
  induction cs with
  | nil => rcases ends_cases h with rfl | ⟨b, s, rfl, rfl | rfl | rfl⟩ <;> rfl
  | cons c cs ih =>
    rw [List.forall_mem_cons] at hcs
    obtain ⟨b, hb, hdigit, -⟩ := bytes_cons_digit hcs.1 cs
    rw [hb, List.cons_append, List.dropWhile_cons_of_pos hdigit, ih hcs.2]

/-- A run of digits that begins with no zero is skipped. -/
theorem skipNumber_of_isDigit {b : UInt8} (hb : isDigit b = true) (hzero : b ≠ 0x30)
    {s rest : Bytes} (hs : s.dropWhile isDigit = rest) (h : Ends rest) :
    skipNumber (b :: s) = ⟨.ok (), rest⟩ := by
  have hdigits : skipDigits s = ⟨.ok (), rest⟩ := by rw [skipDigits, hs]
  unfold skipNumber
  rw [ahead_bind, skip_bind]
  simp only [List.head?_cons, hb, if_true]
  refine (bind_of_ok hdigits).trans ?_
  rcases ends_cases h with rfl | ⟨b, s, rfl, rfl | rfl | rfl⟩ <;> rfl

theorem skipNumber_digits (n : Nat) {rest : Bytes} (h : Ends rest) :
    skipNumber (bytes (Decimal.digits n) ++ rest) = ⟨.ok (), rest⟩ := by
  rcases Nat.eq_zero_or_pos n with rfl | hpos
  · rcases ends_cases h with rfl | ⟨b, s, rfl, rfl | rfl | rfl⟩ <;> rfl
  · obtain ⟨b, cs, hs, hdigit, hzero, hcs, -⟩ := bytes_digits_of_pos hpos
    rw [hs, List.cons_append]
    exact skipNumber_of_isDigit hdigit hzero (dropWhile_digits hcs h) h

theorem skippedWhole_integer (n : Int) : SkippedWhole (Decimal.integer n) := by
  intro rest hrest
  have hdigits := skipNumber_digits n.natAbs hrest
  rw [Decimal.integer_eq]
  unfold skipStart
  split_ifs with hneg
  · rw [bytes_cons_ascii (by decide), List.cons_append, aheadOfSpace_bind _ (by decide)]
    exact bind_of_ok hdigits
  · obtain ⟨b, s, hs, hdigit⟩ := bytes_digits n.natAbs
    rw [hs, List.cons_append] at hdigits ⊢
    rw [aheadOfSpace_bind _ (isSpace_of_isDigit (.inr hdigit))]
    have hother : b ≠ 0x6E ∧ b ≠ 0x74 ∧ b ≠ 0x66 ∧ b ≠ 0x2D := by
      refine ⟨?_, ?_, ?_, ?_⟩ <;> rintro rfl <;> exact absurd hdigit (by decide)
    obtain ⟨h1, h2, h3, h4⟩ := hother
    simp only [h1, h2, h3, h4, if_false, hdigit, if_true]
    exact bind_of_ok hdigits

/-! ### Values -/

theorem closeBrackets_nil (comma : Bool) (s : Bytes) :
    closeBrackets comma [] s = ⟨.ok none, s⟩ :=
  rfl

/-- A value of which nothing is skipped apart is skipped at once. -/
theorem skips_of_skippedWhole {t : List Char} (h : SkippedWhole t) : Reads skipValue t () := by
  intro rest hrest
  exact (bind_of_ok (h rest hrest)).trans (bind_of_ok (closeBrackets_nil true rest))

private theorem skipValues_later {ts : List (List Char)} (h : ∀ t ∈ ts, SkippedWhole t)
    {t : List Char} (ht : SkippedWhole t) {steps : Bytes} (hsteps : ts.length < steps.length)
    (rest : Bytes) :
    skipValues steps [.square] (bytes t ++ (bytes (ts.flatMap fun u => ',' :: u) ++ 0x5D :: rest)) =
      ⟨.ok (), rest⟩ := by
  induction ts generalizing t steps with
  | nil =>
    cases steps with
    | nil => cases hsteps
    | cons x steps =>
      have hclose : closeBrackets true [.square] (0x5D :: rest) = ⟨.ok none, rest⟩ := by
        rw [closeBrackets, aheadOfSpace_bind _ (by decide)]
        rfl
      rw [skipValues]
      exact (bind_of_ok (ht _ (ends_bracket rest))).trans (bind_of_ok hclose)
  | cons u us ih =>
    rw [List.forall_mem_cons] at h
    cases steps with
    | nil => cases hsteps
    | cons x steps =>
      rw [List.flatMap_cons, List.cons_append, bytes_comma, bytes_append, List.cons_append,
        List.append_assoc]
      have hcomma (s : Bytes) :
          closeBrackets true [.square] (0x2C :: s) = ⟨.ok (some (.square, [])), s⟩ := by
        rw [closeBrackets, aheadOfSpace_bind _ (by decide)]
        rfl
      rw [skipValues]
      exact (bind_of_ok (ht _ (ends_comma _))).trans ((bind_of_ok (hcomma _)).trans
        (ih h.2 h.1 (Nat.lt_of_succ_lt_succ hsteps)))

/-- A list of values of which nothing is skipped apart is skipped. -/
theorem skips_list {ts : List (List Char)} (hskips : ∀ t ∈ ts, SkippedWhole t)
    (hstarts : ∀ t ∈ ts, Starts t) :
    Reads skipValue ('[' :: separated ts ++ [']']) () := by
  intro rest _
  have hopen (s : Bytes) : skipStart (0x5B :: s) = ⟨.ok (some .square), s⟩ := by
    unfold skipStart
    rw [aheadOfSpace_bind _ (by decide)]
    rfl
  rw [List.cons_append, bytes_bracket, bytes_append, List.cons_append, List.append_assoc,
    show bytes [']'] ++ rest = 0x5D :: rest from rfl, skipValue, skipValues]
  refine (bind_of_ok (hopen _)).trans ?_
  cases ts with
  | nil =>
    have hclose : closeBrackets false [.square] (0x5D :: rest) = ⟨.ok none, rest⟩ := by
      rw [closeBrackets, aheadOfSpace_bind _ (by decide)]
      rfl
    exact bind_of_ok hclose
  | cons t ts =>
    have hlength := length_le_separated (t :: ts)
    rw [List.forall_mem_cons] at hskips hstarts
    obtain ⟨b, s, hs, hspace, hend, -⟩ := hstarts.1
    have hfirst (s' : Bytes) :
        closeBrackets false [.square] (b :: s') = ⟨.ok (some (.square, [])), b :: s'⟩ := by
      rw [closeBrackets, aheadOfSpace_bind _ hspace]
      simp [Bracket.close, hend]
      rfl
    have hrest : bytes (separated (t :: ts)) ++ 0x5D :: rest =
        bytes t ++ (bytes (ts.flatMap fun u => ',' :: u) ++ 0x5D :: rest) := by
      rw [separated_cons, bytes_append, List.append_assoc]
    have hclose : closeBrackets false [.square] (bytes (separated (t :: ts)) ++ 0x5D :: rest) =
        ⟨.ok (some (.square, [])), bytes (separated (t :: ts)) ++ 0x5D :: rest⟩ := by
      rw [hrest, hs]
      exact hfirst _
    have hsteps : ts.length < (0x5B :: (bytes (separated (t :: ts)) ++ 0x5D :: rest)).length := by
      simp only [List.length_append, List.length_cons] at hlength ⊢
      omega
    refine (bind_of_ok hclose).trans ?_
    rw [hrest] at hsteps ⊢
    exact skipValues_later hskips.2 hskips.1 hsteps rest

end Daybook.Json
