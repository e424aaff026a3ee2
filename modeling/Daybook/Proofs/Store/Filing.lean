import Daybook.Store.Entries
import Daybook.Store.Users
import Mathlib.Tactic.SplitIfs

/-!
# Filing

A table is read by its keys and by its values, and the two readings agree.  An account is *filed*
when it stands under its own identifier, and an entry when it stands under its own user and date;
making an account and putting a text keep everything filed.

## Main definitions

* `Users.Filed`, `Entries.Filed` : every account, every entry stands under its own key.

## Main results

* `Table.mem_values_iff` : the values are what is found under the keys.
* `Users.create_eq_ok_iff` : what a new account is, and when there is one.
* `Users.Filed.create`, `Entries.Filed.upsert` : filing is kept.
-/

namespace Daybook

namespace Table

variable {κ ν : Type} [DecidableEq κ]

/-- What is found after a value was put. -/
theorem get?_insert (t : Table κ ν) (k k' : κ) (v : ν) :
    (t.insert k v).get? k' = if k' = k then some v else t.get? k' := by
  split_ifs with h
  · rw [h, get?_insert_self]
  · exact get?_insert_of_ne t h v

private theorem lookup_eq_some_iff {k : κ} {v : ν} {rows : List (κ × ν)}
    (h : (rows.map Prod.fst).Nodup) : rows.lookup k = some v ↔ (k, v) ∈ rows := by
  induction rows with
  | nil => simp
  | cons row rows ih =>
    obtain ⟨k', v'⟩ := row
    rw [List.map_cons, List.nodup_cons] at h
    rw [List.lookup_cons]
    by_cases hk : k = k'
    · subst hk
      have hnot : (k, v) ∉ rows := fun hm => h.1 (List.mem_map.2 ⟨(k, v), hm, rfl⟩)
      simp [hnot, eq_comm]
    · simp only [beq_eq_false_iff_ne.2 hk, ih h.2, List.mem_cons, Prod.mk.injEq, hk, false_and,
        false_or]

/-- The value under a key is the one in its row. -/
theorem get?_eq_some_iff (t : Table κ ν) (k : κ) (v : ν) :
    t.get? k = some v ↔ (k, v) ∈ t.rows :=
  lookup_eq_some_iff t.nodup_keys

/-- The values of a table are what is found under its keys. -/
theorem mem_values_iff (t : Table κ ν) (v : ν) : v ∈ t.values ↔ ∃ k, t.get? k = some v := by
  simp only [values, List.mem_map, Prod.exists, exists_eq_right, get?_eq_some_iff]

end Table

namespace Users

/-- Every account stands under its own identifier. -/
def Filed (us : Users) : Prop :=
  ∀ id u, us.get? id = some u → u.id = id

/-- A new account has the given identifier and the data of its profile, and there is one unless some
account is for that profile already. -/
theorem create_eq_ok_iff {us us' : Users} {id : Uuid} {now : Instant} {p : Profile} {u : User} :
    us.create id now p = .ok (u, us') ↔
      (∀ v ∈ us.values, v.uid ≠ p.id) ∧ u = ⟨id, p.id, p.name, now⟩ ∧ us' = us.insert id u := by
  have hany : (us.values.any fun v => v.uid == p.id) = true ↔ ¬∀ v ∈ us.values, v.uid ≠ p.id := by
    simp
  unfold create
  by_cases h : ∀ v ∈ us.values, v.uid ≠ p.id
  · rw [if_neg (fun hp => hany.1 hp h)]
    simp only [Except.ok.injEq, Prod.mk.injEq]
    constructor
    · rintro ⟨rfl, rfl⟩
      exact ⟨h, rfl, rfl⟩
    · rintro ⟨-, rfl, rfl⟩
      exact ⟨rfl, rfl⟩
  · rw [if_pos (hany.2 h)]
    simp [h]

theorem filed_empty : Filed Table.empty := by
  intro id u h
  simp [Table.get?_empty] at h

/-- A new account stands under its own identifier too. -/
theorem Filed.create {us us' : Users} {id : Uuid} {now : Instant} {p : Profile} {u : User}
    (h : us.Filed) (hc : us.create id now p = .ok (u, us')) : us'.Filed := by
  obtain ⟨-, rfl, rfl⟩ := create_eq_ok_iff.1 hc
  intro k v hv
  rw [Table.get?_insert] at hv
  split_ifs at hv with hk
  · obtain rfl := Option.some.inj hv
    exact hk.symm
  · exact h k v hv

/-- No identifier is lost when an account is made, even if the identifier was in use. -/
theorem exists_id_create {us us' : Users} {id : Uuid} {now : Instant} {p : Profile} {u v : User}
    (h : us.Filed) (hc : us.create id now p = .ok (u, us')) (hv : v ∈ us.values) :
    ∃ w ∈ us'.values, w.id = v.id := by
  obtain ⟨-, rfl, rfl⟩ := create_eq_ok_iff.1 hc
  obtain ⟨k, hk⟩ := (Table.mem_values_iff us v).1 hv
  by_cases hid : k = id
  · refine ⟨_, (Table.mem_values_iff _ _).2 ⟨id, Table.get?_insert_self us id _⟩, ?_⟩
    exact hid.symm.trans (h k v hk).symm
  · refine ⟨v, (Table.mem_values_iff _ _).2 ⟨k, ?_⟩, rfl⟩
    rw [Table.get?_insert_of_ne us hid, hk]

end Users

namespace Entries

/-- Every entry stands under its own user and date. -/
def Filed (es : Entries) : Prop :=
  ∀ k e, es.get? k = some e → (e.userId, e.date) = k

theorem filed_empty : Filed Table.empty := by
  intro k e h
  simp [Table.get?_empty] at h

variable {es : Entries} (id : Uuid) (now : Instant) (user : Uuid) (date body : String)

/-- A text is put under its user and date, and nowhere else. -/
theorem get?_upsert (k : Uuid × String) :
    (es.upsert id now user date body).2.get? k =
      if k = (user, date) then some (es.upsert id now user date body).1 else es.get? k :=
  Table.get?_insert es (user, date) k _

theorem updatedAt_upsert : (es.upsert id now user date body).1.updatedAt = now :=
  rfl

/-- An entry keeps its identifier when its text is replaced. -/
theorem id_upsert {e : Entry} (h : es.find? user date = some e) :
    (es.upsert id now user date body).1.id = e.id := by
  simp only [upsert, h, Option.getD_some]

/-- Among filed entries, the entry of a text names the user and the date under which the text was
put. -/
theorem Filed.owner_upsert (h : es.Filed) :
    ((es.upsert id now user date body).1.userId, (es.upsert id now user date body).1.date) =
      (user, date) := by
  simp only [upsert]
  cases hf : es.find? user date with
  | none => rfl
  | some e => exact h _ _ hf

/-- Putting a text keeps the entries filed. -/
theorem Filed.upsert (h : es.Filed) : (es.upsert id now user date body).2.Filed := by
  intro k e he
  rw [get?_upsert] at he
  split_ifs at he with hk
  · obtain rfl := Option.some.inj he
    rw [hk, h.owner_upsert]
  · exact h k e he

end Entries

end Daybook
