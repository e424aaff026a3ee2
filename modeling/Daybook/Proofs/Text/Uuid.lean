import Daybook.Uuid

/-!
# Reading the text of an identifier

## Main results

* `Uuid.parse?_text` : the canonical text of an identifier is read as that identifier.
-/

namespace Daybook.Uuid

/-- Thirty-two characters are made up of their five groups. -/
private theorem groups_append (cs : List Char) :
    cs.take 8 ++ ((cs.drop 8).take 4 ++ ((cs.drop 12).take 4 ++ ((cs.drop 16).take 4 ++
      cs.drop 20))) = cs := by
  have hgroup (k : Nat) : (cs.drop k).take 4 ++ cs.drop (k + 4) = cs.drop k := by
    rw [← List.drop_drop, List.take_append_drop]
  rw [hgroup 16, hgroup 12, hgroup 8, List.take_append_drop]

theorem ungrouped?_grouped {cs : List Char} (h : cs.length = 32) :
    ungrouped? (grouped cs) = some cs := by
  simp [ungrouped?, grouped, List.drop_append, List.drop_take, h,
    groups_append cs]

theorem mapM_value?_lower (ds : List (Fin 16)) : (ds.map Hex.lower).mapM Hex.value? = some ds := by
  induction ds with
  | nil => rfl
  | cons d ds ih => simp [List.mapM_cons, Hex.value?_lower, ih]

theorem ofPlain?_chars (u : Uuid) : ofPlain? u.chars = some u := by
  rw [ofPlain?, chars, mapM_value?_lower, Option.bind_some, ofDigits?, dif_pos u.length_digits]

/-- The canonical text of an identifier is read as that identifier. -/
theorem parse?_text (u : Uuid) : parse? u.text = some u := by
  have hchars : u.chars.length = 32 := by rw [chars, List.length_map, u.length_digits]
  have hlength : (grouped u.chars).length = 36 := by simp [grouped, hchars]
  simp only [parse?, text, String.toList_ofList, hlength]
  rw [if_neg (by decide), if_pos trivial, ofGrouped?, ungrouped?_grouped hchars, Option.bind_some,
    ofPlain?_chars]

end Daybook.Uuid
