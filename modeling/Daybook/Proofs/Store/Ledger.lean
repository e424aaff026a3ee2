import Daybook.Proofs.Store.Calls
import Daybook.Proofs.Text.ByteOrder
import Mathlib.Data.List.Basic
import Mathlib.Data.List.Induction

/-!
# The ledger of the entries

The store of entries in memory is a ledger.  What is found under a user and a date is the text of
the last writing there, with the identifier that was given at the first.  The entries of a user
between two dates are those that are found under the dates between, in the order of the dates, in
whatever order the store keeps them.

## Main definitions

* `Ledger.after` : the state after calls.
* `Ledger.Writing`, `Ledger.writings` : the texts that were put, in order.
* `Ledger.keys`, `Ledger.idOf` : the users and dates that were written, and their identifiers.
* `Ledger.latest?`, `Ledger.entryAt?` : the last writing under a user and a date, and the entry.
* `Ledger.Answers` : what a ledger answers to a call.

## Main results

* `Entries.Filed.sorted_rangeOf` : the dates of a range increase.
* `Ledger.Keeps.step`, `Ledger.Keeps.after` : the store keeps the ledger.
* `Ledger.answers_all` : every call is answered as by the ledger.
-/

namespace Daybook

/-! ### Ranges -/

namespace Entries

/-- The entries of a user between two dates, from a list of all entries. -/
def rangeOf (all : List Entry) (user : Uuid) (first last : Option String) : List Entry :=
  (all.filter fun e => e.userId == user && isWithin first last e.date).mergeSort
    fun e₁ e₂ => decide (e₁.date ≤ e₂.date)

theorem inRange_eq (es : Entries) (user : Uuid) (first last : Option String) :
    es.inRange user first last = rangeOf es.values user first last :=
  rfl

theorem mem_rangeOf_iff {all : List Entry} {user : Uuid} {first last : Option String} {e : Entry} :
    e ∈ rangeOf all user first last ↔
      e ∈ all ∧ e.userId = user ∧ isWithin first last e.date = true := by
  simp only [rangeOf, List.mem_mergeSort, List.mem_filter, Bool.and_eq_true, beq_iff_eq]

/-- A date lies between two bounds when its bytes do. -/
theorem isWithin_iff {first last : Option String} {date : String} :
    isWithin first last date = true ↔
      (∀ d ∈ first, Utf8.encode d ≤ Utf8.encode date) ∧
        ∀ d ∈ last, Utf8.encode date ≤ Utf8.encode d := by
  simp only [isWithin, Bool.and_eq_true, Option.all_eq_true, decide_eq_true_eq, Utf8.encode_le_iff,
    Option.mem_def]

variable {es : Entries}

/-- No two filed entries have the same user and date. -/
theorem Filed.nodup_values (h : es.Filed) :
    (es.values.map fun e => (e.userId, e.date)).Nodup := by
  have hkeys : (es.values.map fun e => (e.userId, e.date)) = es.rows.map Prod.fst := by
    rw [Table.values, List.map_map]
    refine List.map_congr_left fun row hrow => ?_
    exact h row.1 row.2 ((Table.get?_eq_some_iff es row.1 row.2).2 hrow)
  rw [hkeys]
  exact es.nodup_keys

variable {all : List Entry} (hall : all.Perm es.values) (user : Uuid) (first last : Option String)

include hall

/-- The dates of a range increase, in whatever order the entries are kept. -/
theorem Filed.sorted_rangeOf (h : es.Filed) :
    (rangeOf all user first last).Pairwise fun e₁ e₂ => e₁.date < e₂.date := by
  have hkeys : (all.map fun e => (e.userId, e.date)).Nodup :=
    (hall.map _).nodup_iff.2 h.nodup_values
  have hdistinct : (rangeOf all user first last).Pairwise fun e₁ e₂ =>
      (e₁.userId, e₁.date) ≠ (e₂.userId, e₂.date) := by
    have hsublist := (List.filter_sublist (p := fun e =>
      e.userId == user && isWithin first last e.date) (l := all)).map
        fun e => (e.userId, e.date)
    have hperm := (List.mergeSort_perm (all.filter fun e =>
      e.userId == user && isWithin first last e.date) fun e₁ e₂ =>
        decide (e₁.date ≤ e₂.date)).map fun e => (e.userId, e.date)
    exact List.pairwise_map.1 (hperm.nodup_iff.2 (hkeys.sublist hsublist))
  have htrans (e₁ e₂ e₃ : Entry) (h₁ : decide (e₁.date ≤ e₂.date) = true)
      (h₂ : decide (e₂.date ≤ e₃.date) = true) : decide (e₁.date ≤ e₃.date) = true :=
    decide_eq_true (String.le_trans (of_decide_eq_true h₁) (of_decide_eq_true h₂))
  have htotal (e₁ e₂ : Entry) :
      (decide (e₁.date ≤ e₂.date) || decide (e₂.date ≤ e₁.date)) = true := by
    rw [Bool.or_eq_true, decide_eq_true_eq, decide_eq_true_eq]
    exact String.le_total e₁.date e₂.date
  have hsorted : (rangeOf all user first last).Pairwise fun e₁ e₂ =>
      decide (e₁.date ≤ e₂.date) = true :=
    List.pairwise_mergeSort htrans htotal _
  refine (hsorted.and hdistinct).imp_of_mem fun {e₁ e₂} h₁ h₂ hboth => ?_
  obtain ⟨hle, hne⟩ := hboth
  rw [(mem_rangeOf_iff.1 h₁).2.1, (mem_rangeOf_iff.1 h₂).2.1] at hne
  rw [← String.not_le]
  exact fun hge => hne (by rw [String.le_antisymm (of_decide_eq_true hle) hge])

/-- A range does not depend on the order in which the entries are kept. -/
theorem Filed.rangeOf_eq (h : es.Filed) :
    rangeOf all user first last = es.inRange user first last := by
  have hperm : (rangeOf all user first last).Perm (es.inRange user first last) :=
    (List.mergeSort_perm _ _).trans ((hall.filter _).trans (List.mergeSort_perm _ _).symm)
  exact hperm.eq_of_pairwise
    (fun _ _ _ _ hlt hgt => absurd hgt (String.lt_asymm hlt))
    (h.sorted_rangeOf hall user first last)
    (h.sorted_rangeOf (List.Perm.refl _) user first last)

end Entries

namespace Ledger

/-! ### Writings -/

/-- A text that was put under a user and a date. -/
structure Writing where
  user : Uuid
  date : String
  body : String
  time : Instant

/-- Where a text was put. -/
def Writing.key (w : Writing) : Uuid × String :=
  (w.user, w.date)

/-- The writing of a call. -/
def writing? : Scene × EntryCall → Option Writing
  | (c, .upsert user date body) => some ⟨user, date, body, c.now⟩
  | _ => none

/-- The writings of calls, in order. -/
def writings (calls : List (Scene × EntryCall)) : List Writing :=
  calls.filterMap writing?

/-- The users and dates that were written, in the order of their first writings. -/
def keys (ws : List Writing) : List (Uuid × String) :=
  ws.foldl (fun ks w => if w.key ∈ ks then ks else ks ++ [w.key]) []

/-- The last writing under a user and a date. -/
def latest? (ws : List Writing) (k : Uuid × String) : Option Writing :=
  ws.reverse.find? fun w => w.key == k

section

variable (ws ws' : List Writing) (w : Writing)

theorem keys_append_singleton :
    keys (ws ++ [w]) = if w.key ∈ keys ws then keys ws else keys ws ++ [w.key] := by
  rw [keys, List.foldl_append]
  rfl

/-- Later writings do not change the order of the first ones. -/
theorem keys_isPrefix_append : keys ws <+: keys (ws ++ ws') := by
  induction ws' generalizing ws with
  | nil => exact (List.append_nil ws).symm ▸ List.prefix_rfl
  | cons w ws' ih =>
    have hone : keys ws <+: keys (ws ++ [w]) := by
      rw [keys_append_singleton]
      split
      · exact List.prefix_rfl
      · exact List.prefix_append _ _
    rw [List.append_cons]
    exact hone.trans (ih _)

theorem mem_keys_iff (k : Uuid × String) : k ∈ keys ws ↔ ∃ w ∈ ws, w.key = k := by
  induction ws using List.reverseRecOn with
  | nil => simp [keys]
  | append_singleton ws w ih =>
    have hlast : k ∈ keys (ws ++ [w]) ↔ k ∈ keys ws ∨ w.key = k := by
      rw [keys_append_singleton]
      split_ifs with hold
      · exact ⟨.inl, fun h => h.elim id fun hk => hk ▸ hold⟩
      · rw [List.mem_append, List.mem_singleton, eq_comm]
    simp only [hlast, ih, List.mem_append, List.mem_singleton, or_and_right, exists_or,
      exists_eq_left]

theorem latest?_append_singleton (k : Uuid × String) :
    latest? (ws ++ [w]) k = if w.key = k then some w else latest? ws k := by
  simp only [latest?, List.reverse_append, List.reverse_singleton, List.singleton_append,
    List.find?_cons]
  split_ifs with hk
  · rw [beq_iff_eq.2 hk]
  · rw [beq_eq_false_iff_ne.2 hk]

theorem latest?_eq_none_iff (k : Uuid × String) : latest? ws k = none ↔ k ∉ keys ws := by
  simp [latest?, mem_keys_iff]

end

/-! ### The abstract ledger -/

/-- The identifier of the entry of a user and a date, when each first writing draws one. -/
def idOf (freshId : Nat → Uuid) (ks : List (Uuid × String)) (k : Uuid × String) : Uuid :=
  freshId (ks.idxOf k)

variable (ids : Uuid × String → Uuid) (ws : List Writing)

/-- The entry of a user and a date: the text and the time of the last writing. -/
def entryAt? (user : Uuid) (date : String) : Option Entry :=
  (latest? ws (user, date)).map fun w => ⟨ids (user, date), user, date, w.body, w.time⟩

/-- The entries of a user whose dates lie between two bounds, in the order of the bytes of the
dates. -/
structure IsRange (user : Uuid) (first last : Option String) (es : List Entry) : Prop where
  sorted : es.Pairwise fun e₁ e₂ => Utf8.encode e₁.date < Utf8.encode e₂.date
  mem_iff : ∀ e, e ∈ es ↔ ∃ date, entryAt? ids ws user date = some e ∧
    (∀ d ∈ first, Utf8.encode d ≤ Utf8.encode date) ∧
      ∀ d ∈ last, Utf8.encode date ≤ Utf8.encode d

/-- What a ledger answers to a call at a time. -/
inductive Answers (now : Instant) : EntryCall → EntryAnswer → Prop
  | put (user : Uuid) (date body : String) :
      Answers now (.upsert user date body) (.put ⟨ids (user, date), user, date, body, now⟩)
  | found (user : Uuid) (date : String) :
      Answers now (.find user date) (.found (entryAt? ids ws user date))
  | listed {user : Uuid} {first last : Option String} {es : List Entry}
      (range : IsRange ids ws user first last es) :
      Answers now (.range user first last) (.listed es)

/-- The state after calls. -/
def after (s : State) (calls : List (Scene × EntryCall)) : State :=
  calls.foldl (fun s x => (x.2.action x.1 s).state) s

/-- The store *keeps* a ledger when it has the entries of the ledger, and an identifier was drawn
for each first writing. -/
structure Keeps (s : State) : Prop where
  find?_eq : ∀ user date, s.entries.find? user date = entryAt? ids ws user date
  drawn : s.drawn = (keys ws).length

variable {ids ws}

theorem owner_of_entryAt? {user : Uuid} {date : String} {e : Entry}
    (h : entryAt? ids ws user date = some e) : e.userId = user ∧ e.date = date := by
  obtain ⟨w, -, rfl⟩ := Option.map_eq_some_iff.1 h
  exact ⟨rfl, rfl⟩

theorem Keeps.initial : Keeps ids [] .initial :=
  ⟨fun _ _ => rfl, rfl⟩

theorem Keeps.called {s : State} (h : Keeps ids ws s) : Keeps ids ws s.called :=
  ⟨h.find?_eq, h.drawn⟩

theorem Keeps.filed {s : State} (h : Keeps ids ws s) : s.entries.Filed := by
  intro k e he
  obtain ⟨huser, hdate⟩ := owner_of_entryAt? ((h.find?_eq k.1 k.2).symm.trans he)
  rw [huser, hdate]

/-- A range that is read from the store is a range of the ledger. -/
theorem Keeps.isRange {s : State} (h : Keeps ids ws s) (user : Uuid) (first last : Option String) :
    IsRange ids ws user first last (s.entries.inRange user first last) where
  sorted := by
    simp only [Utf8.encode_lt_iff]
    exact h.filed.sorted_rangeOf (List.Perm.refl _) user first last
  mem_iff := fun e => by
    rw [Entries.inRange_eq, Entries.mem_rangeOf_iff, Table.mem_values_iff, Entries.isWithin_iff]
    constructor
    · rintro ⟨⟨⟨user', date⟩, he⟩, huser, hwithin⟩
      have hentry := (h.find?_eq user' date).symm.trans he
      obtain ⟨rfl, rfl⟩ := owner_of_entryAt? hentry
      exact ⟨e.date, huser ▸ hentry, hwithin⟩
    · rintro ⟨date, hentry, hwithin⟩
      obtain ⟨huser, rfl⟩ := owner_of_entryAt? hentry
      exact ⟨⟨(user, e.date), (h.find?_eq user e.date).trans hentry⟩, huser, hwithin⟩

/-! ### Calls -/

section

variable {freshId : Nat → Uuid} {ks : List (Uuid × String)} {s : State} {c : Scene}
  (hc : c.Draws freshId)

include hc

/-- A first writing draws the identifier of its user and date, and later ones leave it. -/
theorem Keeps.upsert_eq (h : Keeps (idOf freshId ks) ws s) (user : Uuid) (date body : String)
    (hks : keys (ws ++ [⟨user, date, body, c.now⟩]) <+: ks) :
    (s.entries.upsert (c.freshId s.drawn) c.now user date body).1 =
      ⟨idOf freshId ks (user, date), user, date, body, c.now⟩ := by
  simp only [Entries.upsert, h.find?_eq, entryAt?]
  cases hlatest : latest? ws (user, date) with
  | some w => rfl
  | none =>
    have hfirst : (user, date) ∉ keys ws := (latest?_eq_none_iff ws _).1 hlatest
    have hkeys : keys (ws ++ [⟨user, date, body, c.now⟩]) = keys ws ++ [(user, date)] :=
      (keys_append_singleton ws _).trans (if_neg hfirst)
    obtain ⟨later, hlater⟩ := hks
    have hindex : ks.idxOf (user, date) = s.drawn := by
      rw [← hlater, hkeys, List.append_assoc, List.idxOf_append, if_neg hfirst, h.drawn]
      simp
    rw [idOf, hindex, hc.supply]
    rfl

/-- A text that is put is the last writing, under the identifier of the first. -/
theorem Keeps.upsert (h : Keeps (idOf freshId ks) ws s) (user : Uuid) (date body : String)
    (hks : keys (ws ++ [⟨user, date, body, c.now⟩]) <+: ks) :
    let o := (EntryCall.upsert user date body).action c s
    o.result = .ok (.put ⟨idOf freshId ks (user, date), user, date, body, c.now⟩) ∧
      Keeps (idOf freshId ks) (ws ++ [⟨user, date, body, c.now⟩]) o.state := by
  have hput := h.upsert_eq hc user date body hks
  intro o
  have ho : o = _ := EntryCall.action_upsert hc.inMemory s user date body
  rw [ho]
  refine ⟨congrArg (fun e => Except.ok (EntryAnswer.put e)) hput, fun user' date' => ?_, ?_⟩
  · have hget : (s.entries.upsert (c.freshId s.drawn) c.now user date body).2.find? user' date' =
        if (user', date') = (user, date) then _ else s.entries.find? user' date' :=
      Entries.get?_upsert _ _ user date body (user', date')
    have hlatest : latest? (ws ++ [⟨user, date, body, c.now⟩]) (user', date') =
        if (user, date) = (user', date') then _ else latest? ws (user', date') :=
      latest?_append_singleton ws _ _
    rw [hget, hput, entryAt?, hlatest]
    by_cases hk : (user', date') = (user, date)
    · rw [if_pos hk, if_pos hk.symm]
      cases hk
      rfl
    · rw [if_neg hk, if_neg (Ne.symm hk)]
      exact h.find?_eq user' date'
  · have hnew : s.entries.isNew user date = true ↔ (user, date) ∉ keys ws := by
      rw [Entries.isNew, h.find?_eq, entryAt?, Option.isNone_map, Option.isNone_iff_eq_none,
        latest?_eq_none_iff]
    have hkeys : keys (ws ++ [⟨user, date, body, c.now⟩]) =
        if (user, date) ∈ keys ws then keys ws else keys ws ++ [(user, date)] :=
      keys_append_singleton ws _
    rw [hkeys]
    by_cases hold : (user, date) ∈ keys ws
    · rw [if_neg (fun hfirst => hnew.1 hfirst hold), if_pos hold, h.drawn]
    · rw [if_pos (hnew.2 hold), if_neg hold, h.drawn, List.length_append, List.length_singleton]

/-- Every call is answered as by the ledger, and the store keeps the ledger. -/
theorem Keeps.step (h : Keeps (idOf freshId ks) ws s) (call : EntryCall)
    (hks : keys (ws ++ writings [(c, call)]) <+: ks) :
    ∃ answer, (call.action c s).result = .ok answer ∧
      Answers (idOf freshId ks) ws c.now call answer ∧
        Keeps (idOf freshId ks) (ws ++ writings [(c, call)]) (call.action c s).state := by
  cases call with
  | upsert user date body =>
    obtain ⟨hanswer, hkeeps⟩ := h.upsert hc user date body hks
    exact ⟨_, hanswer, .put user date body, hkeeps⟩
  | find user date =>
    rw [EntryCall.action_find hc.inMemory, h.find?_eq]
    refine ⟨_, rfl, .found user date, ?_⟩
    exact (List.append_nil ws).symm ▸ h.called
  | range user first last =>
    rw [EntryCall.action_range hc.inMemory]
    refine ⟨_, rfl, .listed (h.isRange user first last), ?_⟩
    exact (List.append_nil ws).symm ▸ h.called

end

theorem writings_append (calls calls' : List (Scene × EntryCall)) :
    writings (calls ++ calls') = writings calls ++ writings calls' :=
  List.filterMap_append

/-- The store keeps the ledger of all calls. -/
theorem Keeps.after {freshId : Nat → Uuid} {ks : List (Uuid × String)} {s : State}
    {calls : List (Scene × EntryCall)} (hscenes : ∀ x ∈ calls, x.1.Draws freshId)
    (h : Keeps (idOf freshId ks) ws s) (hks : keys (ws ++ writings calls) <+: ks) :
    Keeps (idOf freshId ks) (ws ++ writings calls) (after s calls) := by
  induction calls generalizing ws s with
  | nil => exact (List.append_nil ws).symm ▸ h
  | cons x calls ih =>
    have hsplit : ws ++ writings (x :: calls) = ws ++ writings [x] ++ writings calls := by
      rw [List.append_assoc, ← writings_append]
      rfl
    rw [hsplit] at hks ⊢
    obtain ⟨-, -, -, hkeeps⟩ := h.step (hscenes x List.mem_cons_self) x.2
      ((keys_isPrefix_append _ _).trans hks)
    exact ih (fun y hy => hscenes y (List.mem_cons_of_mem x hy)) hkeeps hks

/-- Every call in a history that begins with an empty store is answered as by the ledger of the
calls before it, with one identifier for each user and date, and different identifiers for different
ones.  The order in which the store keeps the entries does not matter. -/
theorem answers_all {freshId : Nat → Uuid} (calls : List (Scene × EntryCall))
    (hscenes : ∀ x ∈ calls, x.1.Draws freshId)
    (hfresh : DistinctBelow freshId (after .initial calls).drawn) :
    let ids := idOf freshId (keys (writings calls))
    (∀ w ∈ writings calls, ∀ w' ∈ writings calls, ids w.key = ids w'.key → w.key = w'.key) ∧
      ∀ before c call later, calls = before ++ (c, call) :: later →
        (∃ answer, (call.action c (after .initial before)).result = .ok answer ∧
          Answers ids (writings before) c.now call answer) ∧
        ∀ all : List Entry, all.Perm (after .initial before).entries.values →
          ∀ user first last, Entries.rangeOf all user first last =
            (after .initial before).entries.inRange user first last := by
  intro ids
  have hall : Keeps ids (writings calls) (after .initial calls) :=
    Keeps.initial.after hscenes List.prefix_rfl
  refine ⟨fun w hw w' hw' hsame => ?_, fun before c call later hsplit => ?_⟩
  · have hkey {w : Writing} (hw : w ∈ writings calls) : w.key ∈ keys (writings calls) :=
      (mem_keys_iff _ _).2 ⟨w, hw, rfl⟩
    have hindex {w : Writing} (hw : w ∈ writings calls) :
        (keys (writings calls)).idxOf w.key < (after .initial calls).drawn := by
      rw [hall.drawn, List.idxOf_lt_length_iff]
      exact hkey hw
    exact (List.idxOf_inj (hkey hw)).1 (hfresh _ _ (hindex hw) (hindex hw') hsame)
  · have hprefix : keys (writings before ++ writings [(c, call)]) <+: keys (writings calls) := by
      have hcalls : calls = before ++ [(c, call)] ++ later := by rw [hsplit, List.append_cons]
      rw [hcalls, writings_append, writings_append]
      exact keys_isPrefix_append _ _
    have hmem {x : Scene × EntryCall} (hx : x ∈ before ++ (c, call) :: later) :
        x.1.Draws freshId := hscenes x (hsplit ▸ hx)
    have hbefore : Keeps ids (writings before) (after .initial before) :=
      Keeps.initial.after (fun x hx => hmem (List.mem_append_left _ hx))
        ((keys_isPrefix_append _ _).trans hprefix)
    obtain ⟨answer, hresult, hanswers, -⟩ :=
      hbefore.step (hmem (List.mem_append_right _ List.mem_cons_self)) call hprefix
    exact ⟨⟨answer, hresult, hanswers⟩, fun all hperm => hbefore.filed.rangeOf_eq hperm⟩

end Ledger

/-! ### A text is replaced -/

namespace Sample

/-- A user writes on two days, and on one of them again. -/
def threeWritings : List (Scene × EntryCall) :=
  [(memory, .upsert (supply 15) "2010-11-06" "evening"),
   (memory, .upsert (supply 15) "2010-11-05" "before"),
   (memory, .upsert (supply 15) "2010-11-06" "again")]

/-- The second text of a day is found under the identifier of the first. -/
theorem found_again :
    let calls := threeWritings ++ [(memory, .find (supply 15) "2010-11-06")]
    (∀ x ∈ calls, x.1.Draws supply) ∧
      DistinctBelow supply (Ledger.after .initial calls).drawn ∧
      ((EntryCall.find (supply 15) "2010-11-06").action memory
          (Ledger.after .initial threeWritings)).result =
        .ok (.found (some ⟨supply 0, supply 15, "2010-11-06", "again", memory.now⟩)) := by
  intro calls
  have hscenes : ∀ x ∈ calls, x.1.Draws supply := by
    have hmemory : ∀ x ∈ calls, x.1 = memory := by simp [calls, threeWritings]
    intro x hx
    rw [hmemory x hx]
    exact draws_memory
  have hfresh : DistinctBelow supply (Ledger.after .initial calls).drawn := by
    have htwo : (Ledger.after .initial calls).drawn = 2 := by decide
    have hdistinct : ∀ m < 2, ∀ n < 2, supply m = supply n → m = n := by decide
    rw [htwo]
    exact fun m n hm hn => hdistinct m hm n hn
  obtain ⟨-, hanswers⟩ := Ledger.answers_all calls hscenes hfresh
  obtain ⟨⟨answer, hresult, hfound⟩, -⟩ := hanswers threeWritings memory _ [] rfl
  refine ⟨hscenes, hfresh, ?_⟩
  cases hfound with
  | found =>
    have hentry : Ledger.entryAt? (Ledger.idOf supply (Ledger.keys (Ledger.writings calls)))
        (Ledger.writings threeWritings) (supply 15) "2010-11-06" =
          some ⟨supply 0, supply 15, "2010-11-06", "again", memory.now⟩ := by decide
    rw [hresult, hentry]

end Sample

end Daybook
