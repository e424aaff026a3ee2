import Daybook.Text.Blank
import Daybook.Text.Split
import Mathlib.Data.List.DropRight

/-!
# Splitting what was joined

## Main results

* `Text.pieces_append` : the piece in front of a separator that does not occur in it.
* `Text.pieces_intercalate` : the pieces that were joined.
* `Text.mem_of_mem_intercalate` : what was joined comes from a piece.
* `Text.before_append`, `Text.after_append` : what comes before and after the first separator.
* `Text.trim_of_forall` : a text without blanks is not trimmed.
* `Text.trim_append_left`, `Text.trim_append_right` : blanks at the ends do not count.
* `Text.trim_trim` : a text is trimmed once and for all.
-/

namespace Daybook.Text

section

variable {α : Type} [DecidableEq α] {sep : α} {p : List α}

theorem pieces_of_notMem (h : sep ∉ p) : pieces sep p = [p] := by
  induction p with
  | nil => rfl
  | cons a p ih =>
    rw [List.mem_cons, not_or] at h
    simp only [pieces, if_neg (Ne.symm h.1), ih h.2]

theorem pieces_append (h : sep ∉ p) (s : List α) :
    pieces sep (p ++ sep :: s) = p :: pieces sep s := by
  induction p with
  | nil => exact if_pos rfl
  | cons a p ih =>
    rw [List.mem_cons, not_or] at h
    simp only [List.cons_append, pieces, if_neg (Ne.symm h.1), ih h.2]

/-- What is in a piece was in the whole. -/
theorem mem_of_mem_pieces {a : α} {s : List α} (hp : p ∈ pieces sep s) (ha : a ∈ p) : a ∈ s := by
  induction s generalizing p with
  | nil => rwa [List.mem_singleton.1 hp] at ha
  | cons b s ih =>
    by_cases hb : b = sep
    · rw [pieces, if_pos hb] at hp
      rcases List.mem_cons.1 hp with rfl | hp
      · exact absurd ha List.not_mem_nil
      · exact List.mem_cons_of_mem b (ih hp ha)
    · rw [pieces, if_neg hb] at hp
      cases hps : pieces sep s with
      | nil =>
        rw [hps, List.mem_singleton] at hp
        rw [hp, List.mem_singleton] at ha
        exact ha ▸ List.mem_cons_self
      | cons q qs =>
        rw [hps] at hp ih
        rcases List.mem_cons.1 hp with rfl | hp
        · rcases List.mem_cons.1 ha with rfl | ha
          · exact List.mem_cons_self
          · exact List.mem_cons_of_mem b (ih List.mem_cons_self ha)
        · exact List.mem_cons_of_mem b (ih (List.mem_cons_of_mem q hp) ha)

/-- No separator is in a piece. -/
theorem notMem_of_mem_pieces {s : List α} (hp : p ∈ pieces sep s) : sep ∉ p := by
  induction s generalizing p with
  | nil =>
    rw [List.mem_singleton.1 hp]
    exact List.not_mem_nil
  | cons b s ih =>
    by_cases hb : b = sep
    · rw [pieces, if_pos hb] at hp
      rcases List.mem_cons.1 hp with rfl | hp
      · exact List.not_mem_nil
      · exact ih hp
    · rw [pieces, if_neg hb] at hp
      cases hps : pieces sep s with
      | nil =>
        rw [hps, List.mem_singleton] at hp
        rw [hp, List.mem_singleton]
        exact Ne.symm hb
      | cons q qs =>
        rw [hps] at hp ih
        rcases List.mem_cons.1 hp with rfl | hp
        · rw [List.mem_cons, not_or]
          exact ⟨Ne.symm hb, ih List.mem_cons_self⟩
        · exact ih (List.mem_cons_of_mem q hp)

/-- Pieces without separators are found again in what was joined of them. -/
theorem pieces_intercalate {ps : List (List α)} (hne : ps ≠ []) (h : ∀ p ∈ ps, sep ∉ p) :
    pieces sep ([sep].intercalate ps) = ps := by
  induction ps with
  | nil => exact absurd rfl hne
  | cons p ps ih =>
    rw [List.forall_mem_cons] at h
    cases ps with
    | nil => simpa using pieces_of_notMem h.1
    | cons q ps =>
      rw [List.intercalate_cons_cons, List.append_assoc, List.singleton_append, pieces_append h.1,
        ih (List.cons_ne_nil q ps) h.2]

omit [DecidableEq α] in
/-- What was joined is the separator or was in one of the pieces. -/
theorem mem_of_mem_intercalate {ps : List (List α)} {a : α} (h : a ∈ [sep].intercalate ps) :
    a = sep ∨ ∃ p ∈ ps, a ∈ p := by
  induction ps with
  | nil => exact absurd h List.not_mem_nil
  | cons p ps ih =>
    cases ps with
    | nil =>
      rw [List.intercalate_singleton] at h
      exact .inr ⟨p, List.mem_cons_self, h⟩
    | cons q ps =>
      rw [List.intercalate_cons_cons, List.mem_append, List.mem_append] at h
      rcases h with (h | h) | h
      · exact .inr ⟨p, List.mem_cons_self, h⟩
      · exact .inl (List.mem_singleton.1 h)
      · exact (ih h).imp_right fun ⟨r, hr, ha⟩ => ⟨r, List.mem_cons_of_mem p hr, ha⟩

/-- Pieces stay pieces when nothing but the separator is mapped to another one. -/
theorem pieces_map {β : Type} [DecidableEq β] {f : α → β} {sep' : β}
    (hf : ∀ a, f a = sep' ↔ a = sep) (s : List α) :
    pieces sep' (s.map f) = (pieces sep s).map (List.map f) := by
  induction s with
  | nil => rfl
  | cons a s ih =>
    rw [List.map_cons, pieces, pieces, ih]
    by_cases ha : a = sep
    · rw [if_pos ha, if_pos ((hf a).2 ha), List.map_cons, List.map_nil]
    · rw [if_neg ha, if_neg (mt (hf a).1 ha)]
      cases pieces sep s <;> rfl

theorem before_of_notMem (h : sep ∉ p) : before sep p = p := by
  induction p with
  | nil => rfl
  | cons a p ih =>
    rw [List.mem_cons, not_or] at h
    rw [before, List.takeWhile_cons, if_pos (decide_eq_true (Ne.symm h.1)), ← before, ih h.2]

theorem before_append (h : sep ∉ p) (s : List α) : before sep (p ++ sep :: s) = p := by
  have hkeep : ∀ a ∈ p, decide (a ≠ sep) = true := by
    intro a ha
    exact decide_eq_true fun he => h (he ▸ ha)
  rw [before, List.takeWhile_append_of_pos hkeep]
  simp

/-- What comes before the first separator holds none. -/
theorem notMem_before (s : List α) : sep ∉ before sep s := by
  intro hmem
  have hne := List.mem_takeWhile_imp hmem
  simp at hne
theorem after_append (h : sep ∉ p) (s : List α) : after sep (p ++ sep :: s) = s := by
  have hkeep : ∀ a ∈ p, decide (a ≠ sep) = true := by
    intro a ha
    exact decide_eq_true fun he => h (he ▸ ha)
  rw [after, List.dropWhile_append_of_pos hkeep]
  simp

/-- The first occurrence of a separator divides a text in one way. -/
theorem eq_of_append_eq {p' s s' : List α} (h : sep ∉ p) (h' : sep ∉ p')
    (he : p ++ sep :: s = p' ++ sep :: s') : p = p' ∧ s = s' := by
  have hbefore := congrArg (before sep) he
  have hafter := congrArg (after sep) he
  rw [before_append h, before_append h'] at hbefore
  rw [after_append h, after_append h'] at hafter
  exact ⟨hbefore, hafter⟩

end

/-- A text without blanks has none at its ends. -/
theorem trim_of_forall {s : List Char} (h : ∀ c ∈ s, isBlank c = false) : trim s = s := by
  have hstart {t : List Char} (ht : ∀ c ∈ t, isBlank c = false) : t.dropWhile isBlank = t := by
    cases t with
    | nil => rfl
    | cons c t => exact List.dropWhile_cons_of_neg (by simp [ht c List.mem_cons_self])
  rw [trim, trimStart, hstart h, trimEnd, hstart fun c hc => h c (List.mem_reverse.1 hc),
    List.reverse_reverse]

/-- A text that neither begins nor ends with a blank is not trimmed. -/
theorem trim_of_ends {c d : Char} (hc : isBlank c = false) (hd : isBlank d = false)
    (s : List Char) : trim (c :: s ++ [d]) = c :: s ++ [d] := by
  have hstart : (c :: s ++ [d]).dropWhile isBlank = c :: s ++ [d] :=
    List.dropWhile_cons_of_neg (by simp [hc])
  have hend : (c :: s ++ [d]).reverse = d :: (c :: s).reverse := by simp
  rw [trim, trimStart, hstart, trimEnd, hend, List.dropWhile_cons_of_neg (by simp [hd]), ← hend,
    List.reverse_reverse]

theorem trim_space (s : List Char) : trim (' ' :: s) = trim s :=
  rfl

/-- Blanks in front of a text do not count. -/
theorem trim_append_left {l : List Char} (hl : ∀ c ∈ l, isBlank c = true) (s : List Char) :
    trim (l ++ s) = trim s := by
  rw [trim, trimStart, List.dropWhile_append_of_pos hl, ← trimStart, ← trim]

/-- Blanks after a text do not count. -/
theorem trim_append_right {r : List Char} (hr : ∀ c ∈ r, isBlank c = true) (s : List Char) :
    trim (s ++ r) = trim s := by
  have hend (t : List Char) : trimEnd (t ++ r) = trimEnd t := by
    rw [trimEnd, List.reverse_append,
      List.dropWhile_append_of_pos fun c hc => hr c (List.mem_reverse.1 hc), ← trimEnd]
  have hnone : (r ++ []).dropWhile isBlank = [] := List.dropWhile_append_of_pos hr
  rw [List.append_nil] at hnone
  rw [trim, trimStart, List.dropWhile_append]
  split
  · next hs => rw [hnone, trim, trimStart, List.isEmpty_iff.1 hs]
  · exact hend _

/-- What is left of a text was in it. -/
theorem mem_of_mem_trim {c : Char} {s : List Char} (h : c ∈ trim s) : c ∈ s :=
  (List.dropWhile_sublist _).mem ((List.rdropWhile_prefix _ _).mem h)

/-- A text is trimmed once and for all. -/
theorem trim_trim (s : List Char) : trim (trim s) = trim s := by
  have heq (s : List Char) : trim s = (s.dropWhile isBlank).rdropWhile isBlank := rfl
  have hstart : (trim s).dropWhile isBlank = trim s := by
    rw [List.dropWhile_eq_self_iff]
    intro hpos
    have hbegin : trim s <+: s.dropWhile isBlank := List.rdropWhile_prefix _ _
    rw [hbegin.getElem hpos]
    exact List.dropWhile_get_zero_not isBlank s (Nat.lt_of_lt_of_le hpos hbegin.length_le)
  rw [heq (trim s), hstart, heq s, List.rdropWhile_idempotent]

end Daybook.Text
