/-!
# Splitting at separators

## Main definitions

* `Text.pieces` : what lies between the occurrences of a separator.
* `Text.before`, `Text.after` : what comes before and after its first occurrence.
-/

namespace Daybook.Text

variable {α : Type} [DecidableEq α]

/-- What lies between the occurrences of a separator; one piece more than there are separators. -/
def pieces (sep : α) : List α → List (List α)
  | [] => [[]]
  | a :: as =>
    if a = sep then [] :: pieces sep as
    else
      match pieces sep as with
      | p :: ps => (a :: p) :: ps
      | [] => [[a]]

/-- What comes before the first occurrence of a separator, or everything. -/
def before (sep : α) (s : List α) : List α :=
  s.takeWhile (· ≠ sep)

/-- What comes after the first occurrence of a separator, or nothing. -/
def after (sep : α) (s : List α) : List α :=
  (s.dropWhile (· ≠ sep)).drop 1

end Daybook.Text
