/-!
# Tables

A table holds at most one value under each key.  The values stand in the order in which their keys
were first used.

## Main definitions

* `Table`, `Table.get?`, `Table.insert` : a table, the value under a key, and the table with a value
  put under a key.

## Main results

* `Table.get?_insert_self`, `Table.get?_insert_of_ne` : what is found after a value was put.
-/

namespace Daybook

/-- The rows with a value put under a key: in the place of the former value, or at the end. -/
def insertRow {κ ν : Type} [DecidableEq κ] (k : κ) (v : ν) : List (κ × ν) → List (κ × ν)
  | [] => [(k, v)]
  | (k', v') :: rows => if k' = k then (k, v) :: rows else (k', v') :: insertRow k v rows

variable {κ ν : Type} [DecidableEq κ]

/-- A new key comes last, and the other keys keep their places. -/
theorem map_fst_insertRow (k : κ) (v : ν) (rows : List (κ × ν)) :
    (insertRow k v rows).map Prod.fst =
      if k ∈ rows.map Prod.fst then rows.map Prod.fst else rows.map Prod.fst ++ [k] := by
  induction rows with
  | nil => simp [insertRow]
  | cons row rows ih =>
    obtain ⟨k', v'⟩ := row
    by_cases h : k' = k
    · simp [insertRow, h]
    · have h' : k ≠ k' := fun e => h e.symm
      simp only [insertRow, if_neg h, List.map_cons, ih, List.mem_cons, h', false_or]
      split <;> simp

/-- Putting a value under a key keeps the keys distinct. -/
theorem nodup_insertRow {rows : List (κ × ν)} (h : (rows.map Prod.fst).Nodup) (k : κ) (v : ν) :
    ((insertRow k v rows).map Prod.fst).Nodup := by
  rw [map_fst_insertRow]
  split
  · exact h
  · next hk =>
    refine List.nodup_append.2 ⟨h, by simp, fun a ha b hb => ?_⟩
    rw [List.mem_singleton] at hb
    exact fun e => hk (hb ▸ e ▸ ha)

/-- A list of rows with distinct keys. -/
structure Table (κ ν : Type) where
  rows : List (κ × ν)
  nodup_keys : (rows.map Prod.fst).Nodup

namespace Table

/-- The table without rows. -/
def empty : Table κ ν :=
  ⟨[], by simp⟩

instance : Inhabited (Table κ ν) :=
  ⟨empty⟩

/-- The values of a table, in the order of their first use. -/
def values (t : Table κ ν) : List ν :=
  t.rows.map Prod.snd

/-- The value under a key. -/
def get? (t : Table κ ν) (k : κ) : Option ν :=
  t.rows.lookup k

/-- The table with a value put under a key. -/
def insert (t : Table κ ν) (k : κ) (v : ν) : Table κ ν :=
  ⟨insertRow k v t.rows, nodup_insertRow t.nodup_keys k v⟩

/-- Nothing is found in the empty table. -/
theorem get?_empty (k : κ) : (empty : Table κ ν).get? k = none :=
  rfl

/-- A value is found under the key where it was put. -/
theorem get?_insert_self (t : Table κ ν) (k : κ) (v : ν) : (t.insert k v).get? k = some v := by
  obtain ⟨rows, h⟩ := t
  simp only [get?, insert]
  clear h
  induction rows with
  | nil => simp [insertRow]
  | cons row rows ih =>
    obtain ⟨k', v'⟩ := row
    by_cases h : k' = k
    · simp [insertRow, h]
    · have h' : (k == k') = false := by simp [Ne.symm h]
      simp [insertRow, h, List.lookup_cons, h', ih]

/-- Nothing changes under other keys. -/
theorem get?_insert_of_ne (t : Table κ ν) {k k' : κ} (hne : k' ≠ k) (v : ν) :
    (t.insert k v).get? k' = t.get? k' := by
  obtain ⟨rows, h⟩ := t
  simp only [get?, insert]
  clear h
  induction rows with
  | nil => simp [insertRow, List.lookup_cons, beq_eq_false_iff_ne.2 hne]
  | cons row rows ih =>
    obtain ⟨k'', v''⟩ := row
    by_cases h : k'' = k
    · simp [insertRow, h, List.lookup_cons, beq_eq_false_iff_ne.2 hne]
    · simp only [insertRow, if_neg h, List.lookup_cons, ih]

end Table

end Daybook
