import Daybook.Journal.Entry
import Mathlib.Tactic.SplitIfs

/-!
# The length of a text

A text is as long as it is with a line feed in place of each pair of a carriage return and a line
feed.  So it has one character less for each place where such a pair stands, and when two texts are
joined, one more such place can only be at the seam.

## Main definitions

* `crlfCount` : the number of places where a carriage return has a line feed right after it.
* `joinLineBreaks` : a text with a line feed in place of each such pair.

## Main results

* `crlfCount_append` : the places of two texts that are joined.
* `characterCount_eq_length` : the length of a text is that of the text with its pairs replaced.
* `line_break_counts_once` : the length of a text, and of two texts that are joined.
-/

namespace Daybook

/-! ### Places of line breaks -/

/-- The number of places where a carriage return has a line feed right after it. -/
def crlfCount (cs : List Char) : Nat :=
  (List.range cs.length).countP fun i => cs[i]? = some '\r' ∧ cs[i + 1]? = some '\n'

@[simp]
theorem crlfCount_nil : crlfCount [] = 0 :=
  rfl

/-- The places of a text are one further on behind its first character, which may stand at one. -/
theorem crlfCount_cons (c : Char) (cs : List Char) :
    crlfCount (c :: cs) =
      crlfCount cs + if c = '\r' ∧ cs.head? = some '\n' then 1 else 0 := by
  rw [crlfCount, List.length_cons, List.range_succ_eq_map, List.countP_cons, List.countP_map]
  congr 1
  simp [List.head?_eq_getElem?]

/-- Where two texts are joined, a carriage return may meet a line feed. -/
theorem crlfCount_append (as bs : List Char) :
    crlfCount (as ++ bs) = crlfCount as + crlfCount bs +
      if as.getLast? = some '\r' ∧ bs.head? = some '\n' then 1 else 0 := by
  induction as with
  | nil => simp
  | cons c as ih =>
    rw [List.cons_append, crlfCount_cons, crlfCount_cons, ih]
    cases as with
    | nil => simp
    | cons d as =>
      rw [List.cons_append, List.head?_cons, List.head?_cons, List.getLast?_cons_cons]
      omega

/-! ### Line breaks as one character -/

/-- A text with a line feed in place of each carriage return that has a line feed after it, and that
line feed. -/
def joinLineBreaks : List Char → List Char
  | [] => []
  | '\r' :: '\n' :: rest => '\n' :: joinLineBreaks rest
  | c :: rest => c :: joinLineBreaks rest

/-- Each pair that is replaced leaves one character less. -/
theorem length_joinLineBreaks (cs : List Char) :
    (joinLineBreaks cs).length + crlfCount cs = cs.length := by
  fun_induction joinLineBreaks cs with
  | case1 => rfl
  | case2 rest ih =>
    have hfeed : crlfCount ('\n' :: rest) = crlfCount rest := by simp [crlfCount_cons]
    rw [crlfCount_cons, hfeed, if_pos ⟨rfl, rfl⟩]
    simp only [List.length_cons]
    omega
  | case3 c rest hpair ih =>
    have hapart : ¬(c = '\r' ∧ rest.head? = some '\n') := by
      rintro ⟨hc, hhead⟩
      obtain ⟨rest', rfl⟩ := List.head?_eq_some_iff.1 hhead
      exact hpair rest' hc rfl
    rw [crlfCount_cons, if_neg hapart]
    simp only [List.length_cons]
    omega

theorem countCharacters_eq (n : Nat) (cs : List Char) :
    countCharacters n cs = n + (joinLineBreaks cs).length := by
  fun_induction countCharacters n cs with
  | case1 n => rfl
  | case2 n rest ih =>
    rw [ih, joinLineBreaks, List.length_cons]
    omega
  | case3 n c rest hpair ih =>
    rw [ih, joinLineBreaks, List.length_cons]
    · omega
    · exact hpair

/-- A text is as long as with a line feed in place of each pair. -/
theorem characterCount_eq_length (s : String) :
    characterCount s = (joinLineBreaks s.toList).length :=
  (countCharacters_eq 0 s.toList).trans (Nat.zero_add _)

/-- The length of a text falls short of the number of its characters by the places where it breaks
a line with two of them. -/
theorem characterCount_add_crlfCount (s : String) :
    characterCount s + crlfCount s.toList = s.length := by
  rw [characterCount_eq_length, length_joinLineBreaks, String.length_toList]

/-- A text has one character for each of its code points, except that a line feed does not count
right after a carriage return.  Two texts that are joined are as long as both together, except that
they are one shorter when a carriage return ends the first and a line feed begins the second. -/
theorem line_break_counts_once :
    (∀ s : String, characterCount s + crlfCount s.toList = s.length) ∧
      ∀ a b : String,
        characterCount (a ++ b) +
            (if a.toList.getLast? = some '\r' ∧ b.toList.head? = some '\n' then 1 else 0) =
          characterCount a + characterCount b := by
  refine ⟨characterCount_add_crlfCount, fun a b => ?_⟩
  have ha := characterCount_add_crlfCount a
  have hb := characterCount_add_crlfCount b
  have hab := characterCount_add_crlfCount (a ++ b)
  rw [String.toList_append, crlfCount_append, String.length_append] at hab
  omega

/-- The carriage return before a pair is a character of its own, also at the seam. -/
example : characterCount "é\r\r\n" = 3 ∧
    characterCount "é\r\r" + characterCount "\n" = characterCount "é\r\r\n" + 1 := by
  decide

end Daybook
