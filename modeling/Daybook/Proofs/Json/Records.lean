import Daybook.Json.Record
import Daybook.Proofs.Json.Reads

/-!
# Reading a record that was written

The members of an object are read one after another, and each fills the draft of the member that has
its name.  A record that was written fills exactly the drafts of the members that were not left out,
and what was left out is what a missing member stands for.

## Main definitions

* `Json.Member.LawfulAt`, `Json.Member.Lawful` : a value of a member is read as it was written, or
  all are.
* `Json.LawfulValues` : all values of a record are read as they were written.
* `Json.Fills` : what the written members of an object make of the drafts.

## Main results

* `Json.readValues_of_fills` : an object is read as its members fill the drafts.
* `Json.reads_record` : a record of lawful values is read back.
* `Json.decode_of_reads` : the same for a whole input.
-/

namespace Daybook.Json

open Utf8 Reader

/-! ### Members -/

namespace Member

/-- A value of a member is *lawful* when it is read back from what it is written as, or is left out
and stands for a missing member. -/
structure LawfulAt (m : Member) (v : m.Value) : Prop where
  reads : ∀ t, m.write v = some t → Reads m.read t v
  absent : m.write v = none → m.absent = some v

/-- A member is *lawful* when all its values are. -/
def Lawful (m : Member) : Prop :=
  ∀ v, m.LawfulAt v

variable {α : Type} {c : Codec α}

/-- A value that does not begin like `null` is read as it is. -/
theorem orNull_of_ok {r : Reader α} {b : UInt8} (hspace : isSpace b = false) (hnull : b ≠ 0x6E)
    {s rest : Bytes} {a : α} (h : r (b :: s) = ⟨.ok a, rest⟩) :
    orNull r (b :: s) = ⟨.ok (some a), rest⟩ := by
  unfold orNull
  rw [aheadOfSpace_bind _ hspace]
  generalize hb : some b = o
  split
  · exact absurd (Option.some.inj hb) hnull
  · exact bind_of_ok h

theorem lawfulAt_required {a : α} (h : Reads c.read (c.write a) a) (name : String) :
    (required name c).LawfulAt a where
  reads t ht := by
    obtain rfl := Option.some.inj ht
    exact h
  absent hv := by cases hv

section

variable (hreads : ∀ a, Reads c.read (c.write a) a)

include hreads

theorem lawful_required (name : String) : (required name c).Lawful :=
  fun a => lawfulAt_required (hreads a) name

variable (hstarts : ∀ a, Starts (c.write a))

include hstarts

theorem lawful_optional (name : String) (mayEnd : Bool) : (optional name c mayEnd).Lawful :=
  fun v =>
  { reads := by
      intro t ht
      obtain ⟨a, rfl, rfl⟩ := Option.map_eq_some_iff.1 ht
      intro rest hrest
      obtain ⟨b, s, hs, hspace, -, hnull⟩ := hstarts a
      have hread := hreads a rest hrest
      rw [hs, List.cons_append] at hread ⊢
      exact orNull_of_ok hspace hnull hread
    absent := by
      intro hv
      rw [Option.map_eq_none_iff.1 hv]
      rfl }

theorem lawful_listed (name : String) : (listed name c).Lawful := fun v =>
  { reads := by
      intro t ht
      simp only [listed] at ht
      split at ht
      · cases ht
      · obtain rfl := Option.some.inj ht
        exact reads_list hreads hstarts v
    absent := by
      intro hv
      simp only [listed] at hv
      split at hv
      · next he =>
        rw [List.isEmpty_iff.1 he]
        rfl
      · cases hv }

end

end Member

/-- All values of a record are lawful. -/
def LawfulValues : (ms : List Member) → Values ms → Prop
  | [], _ => True
  | m :: ms, (v, vs) => m.LawfulAt v ∧ LawfulValues ms vs

theorem lawfulValues_of_lawful {ms : List Member} (h : ∀ m ∈ ms, m.Lawful) (vs : Values ms) :
    LawfulValues ms vs := by
  induction ms with
  | nil => trivial
  | cons m ms ih =>
    obtain ⟨v, vs⟩ := vs
    rw [List.forall_mem_cons] at h
    exact ⟨h.1 v, ih h.2 vs⟩

/-! ### Keys -/

theorem nextKey_end (first : Bool) (rest : Bytes) :
    nextKey first (0x7D :: rest) = ⟨.ok false, 0x7D :: rest⟩ := by
  unfold nextKey
  rw [aheadOfSpace_bind _ (by decide)]
  rfl

theorem nextKey_first (s : Bytes) : nextKey true (0x22 :: s) = ⟨.ok true, 0x22 :: s⟩ := by
  unfold nextKey
  rw [aheadOfSpace_bind _ (by decide)]
  rfl

theorem nextKey_comma (s : Bytes) :
    nextKey false (0x2C :: 0x22 :: s) = ⟨.ok true, 0x22 :: s⟩ := by
  unfold nextKey
  rw [aheadOfSpace_bind _ (by decide)]
  dsimp only
  rw [if_neg (by decide), if_neg (by decide), if_pos rfl, skip_bind,
    aheadOfSpace_bind _ (by decide)]
  rfl

/-- The value of a member stands behind a colon. -/
theorem reads_memberValue {α : Type} (name : String) {r : Reader α} {t : List Char} {a : α}
    (h : Reads r t a) : Reads (memberValue name r) (':' :: t) a := by
  intro rest hrest
  rw [bytes_cons_ascii (by decide), List.cons_append]
  unfold memberValue
  rw [aheadOfSpace_bind _ (by decide)]
  exact inside_of_ok (.member name) (h rest hrest)

theorem reads_map {α β : Type} (f : α → β) {r : Reader α} {t : List Char} {a : α}
    (h : Reads r t a) : Reads (do pure (f (← r))) t (f a) :=
  fun rest hrest => bind_of_ok (h rest hrest)

/-! ### Objects -/

/-- A member as it is written, with its name in front. -/
def member (name : String) (t : List Char) : List Char :=
  quoted name ++ ':' :: t

/-- *Filling the drafts of a record*: what the written members of an object, given by their names
and the texts of their values, make of what was found before. -/
inductive Fills (ms : List Member) : Drafts ms → List (String × List Char) → Drafts ms → Prop
  | nil (ds : Drafts ms) : Fills ms ds [] ds
  | known {ds ds₁ ds₂ : Drafts ms} {r : Reader (Drafts ms)} {name : String} {t : List Char}
      {fs : List (String × List Char)} (hr : readInto? ms name ds = some r)
      (h : Reads r (':' :: t) ds₁) (hfs : Fills ms ds₁ fs ds₂) : Fills ms ds ((name, t) :: fs) ds₂
  | unknown {ds ds₁ : Drafts ms} {name : String} {t : List Char} {fs : List (String × List Char)}
      (hr : readInto? ms name ds = none) (h : Reads skipValue t ()) (hfs : Fills ms ds fs ds₁) :
      Fills ms ds ((name, t) :: fs) ds₁

theorem readInto?_of_eq {m : Member} {ms : List Member} (ds : Drafts ms) :
    readInto? (m :: ms) m.name (none, ds) =
      some (do pure (some (← memberValue m.name m.read), ds)) :=
  if_pos rfl

theorem readInto?_of_ne {m : Member} {ms : List Member} {name : String} (h : name ≠ m.name)
    (d : Option m.Value) (ds : Drafts ms) :
    readInto? (m :: ms) name (d, ds) =
      (readInto? ms name ds).map fun r => (do pure (d, ← r)) := by
  cases d <;> exact if_neg h

section

variable {ms : List Member} {ds ds' : Drafts ms} {fs : List (String × List Char)}

/-- One member is read into its draft, or skipped. -/
private theorem readMembers_step {first : Bool} {s rest : Bytes} {name : String} {t : List Char}
    {ds₁ : Drafts ms} {x : UInt8} {steps : Bytes}
    (hkey : nextKey first s = ⟨.ok true, bytes (member name t) ++ rest⟩)
    (h : Reads ((readInto? ms name ds).getD do
      memberValue name skipValue
      pure ds) (':' :: t) ds₁) (hrest : Ends rest) :
    readMembers ms (x :: steps) first ds s = readMembers ms steps false ds₁ rest := by
  have hmember : bytes (member name t) ++ rest =
      0x22 :: (bytes (name.toList.flatMap escaped) ++ 0x22 :: (bytes (':' :: t) ++ rest)) := by
    rw [member, bytes_append, bytes_quoted, List.append_assoc, List.cons_append, List.append_assoc]
    rfl
  rw [readMembers]
  refine (bind_of_ok hkey).trans ?_
  rw [hmember]
  refine (congrFun (if_pos rfl) _).trans ?_
  rw [skip_bind]
  refine (bind_of_ok (string_quoted name _)).trans ?_
  exact bind_of_ok (h rest hrest)

theorem ends_members (fs : List (String × List Char)) (rest : Bytes) :
    Ends (bytes (fs.flatMap fun f => ',' :: member f.1 f.2) ++ 0x7D :: rest) := by
  cases fs with
  | nil => exact ends_brace rest
  | cons f fs => exact ends_comma _

theorem nextKey_member (name : String) (t : List Char) (rest : Bytes) :
    nextKey true (bytes (member name t) ++ rest) = ⟨.ok true, bytes (member name t) ++ rest⟩ ∧
    nextKey false (0x2C :: (bytes (member name t) ++ rest)) =
      ⟨.ok true, bytes (member name t) ++ rest⟩ := by
  rw [member, bytes_append, bytes_quoted]
  exact ⟨nextKey_first _, nextKey_comma _⟩

theorem Fills.reads_step {name : String} {t : List Char} {fs : List (String × List Char)}
    (h : Fills ms ds ((name, t) :: fs) ds') :
    ∃ ds₁, Fills ms ds₁ fs ds' ∧ Reads ((readInto? ms name ds).getD do
      memberValue name skipValue
      pure ds) (':' :: t) ds₁ := by
  cases h with
  | known hr h hfs =>
    rw [hr]
    exact ⟨_, hfs, h⟩
  | unknown hr h hfs =>
    rw [hr]
    exact ⟨_, hfs, fun rest hrest => bind_of_ok (reads_memberValue name h rest hrest)⟩

private theorem readMembers_later (h : Fills ms ds fs ds') {steps : Bytes}
    (hsteps : fs.length < steps.length) (rest : Bytes) :
    readMembers ms steps false ds
        (bytes (fs.flatMap fun f => ',' :: member f.1 f.2) ++ 0x7D :: rest) =
      ⟨.ok ds', 0x7D :: rest⟩ := by
  induction fs generalizing ds steps with
  | nil =>
    cases h
    cases steps with
    | nil => cases hsteps
    | cons x steps =>
      rw [readMembers]
      exact bind_of_ok (nextKey_end false rest)
  | cons f fs ih =>
    obtain ⟨name, t⟩ := f
    obtain ⟨ds₁, hfs, hread⟩ := h.reads_step
    cases steps with
    | nil => cases hsteps
    | cons x steps =>
      rw [List.flatMap_cons, List.cons_append, bytes_comma, bytes_append, List.cons_append,
        List.append_assoc]
      rw [readMembers_step (nextKey_member name t _).2 hread (ends_members fs rest)]
      exact ih hfs (Nat.lt_of_succ_lt_succ hsteps)

private theorem readMembers_separated (h : Fills ms ds fs ds') {steps : Bytes}
    (hsteps : fs.length < steps.length) (rest : Bytes) :
    readMembers ms steps true ds
        (bytes (separated (fs.map fun f => member f.1 f.2)) ++ 0x7D :: rest) =
      ⟨.ok ds', 0x7D :: rest⟩ := by
  cases steps with
  | nil => cases hsteps
  | cons x steps =>
    cases fs with
    | nil =>
      cases h
      rw [readMembers]
      exact bind_of_ok (nextKey_end true rest)
    | cons f fs =>
      obtain ⟨name, t⟩ := f
      obtain ⟨ds₁, hfs, hread⟩ := h.reads_step
      rw [List.map_cons, separated_cons, List.flatMap_map, bytes_append, List.append_assoc]
      rw [readMembers_step (nextKey_member name t _).1 hread (ends_members fs rest)]
      exact readMembers_later hfs (Nat.lt_of_succ_lt_succ hsteps) rest

/-- The text of an object with the given members. -/
def object (fs : List (String × List Char)) : List Char :=
  '\x7b' :: separated (fs.map fun f => member f.1 f.2) ++ ['\x7d']

/-- An object is read as its members fill the drafts. -/
theorem readValues_of_fills (name : String) {vs : Values ms} (h : Fills ms (noDrafts ms) fs ds)
    (hvs : ∀ s, complete ms ds s = ⟨.ok vs, s⟩) : Reads (readValues name ms) (object fs) vs := by
  intro rest _
  have hend : endOfObject (0x7D :: rest) = ⟨.ok (), rest⟩ := by
    unfold endOfObject
    rw [aheadOfSpace_bind _ (by decide)]
    rfl
  have hsteps : fs.length <
      (0 :: (bytes (separated (fs.map fun f => member f.1 f.2)) ++ 0x7D :: rest)).length := by
    have hlength := length_le_separated (fs.map fun f => member f.1 f.2)
    simp only [List.length_map, List.length_cons, List.length_append] at hlength ⊢
    omega
  unfold readValues
  rw [object, List.cons_append, bytes_cons_ascii (by decide), List.cons_append,
    aheadOfSpace_bind _ (by decide), bytes_append, List.append_assoc]
  exact closedBy_of_ok ((bind_of_ok (readMembers_separated h hsteps rest)).trans (hvs _)) hend

end

/-! ### Records -/

/-- The members of a record that are written, in order. -/
def fields : (ms : List Member) → Values ms → List (String × List Char)
  | [], _ => []
  | m :: ms, (v, vs) =>
    match m.write v with
    | some t => (m.name, t) :: fields ms vs
    | none => fields ms vs

theorem writeMembers_eq (ms : List Member) (vs : Values ms) :
    writeMembers ms vs = (fields ms vs).map fun f => member f.1 f.2 := by
  induction ms with
  | nil => rfl
  | cons m ms ih =>
    obtain ⟨v, vs⟩ := vs
    cases ht : m.write v with
    | none => simp only [writeMembers, fields, ht, ih]
    | some t => simp only [writeMembers, fields, ht, ih, List.map_cons, member]

/-- The drafts after the written members of a record were read. -/
def drafted : (ms : List Member) → Values ms → Drafts ms
  | [], _ => ()
  | m :: ms, (v, vs) => ((m.write v).map fun _ => v, drafted ms vs)

theorem mem_names_of_mem_fields {ms : List Member} {vs : Values ms} {f : String × List Char}
    (h : f ∈ fields ms vs) : f.1 ∈ ms.map Member.name := by
  induction ms with
  | nil => cases h
  | cons m ms ih =>
    obtain ⟨v, vs⟩ := vs
    rw [List.map_cons]
    simp only [fields] at h
    split at h
    · rcases List.mem_cons.1 h with rfl | h
      · exact List.mem_cons_self
      · exact List.mem_cons_of_mem _ (ih h)
    · exact List.mem_cons_of_mem _ (ih h)

theorem readInto?_of_notMem {ms : List Member} {name : String} (h : name ∉ ms.map Member.name)
    (ds : Drafts ms) : readInto? ms name ds = none := by
  induction ms with
  | nil => rfl
  | cons m ms ih =>
    obtain ⟨d, ds⟩ := ds
    rw [List.map_cons, List.mem_cons, not_or] at h
    rw [readInto?_of_ne h.1, ih h.2]
    rfl

/-- Members with other names than the first leave its draft as it is. -/
theorem Fills.cons {m : Member} {ms : List Member} {ds ds' : Drafts ms}
    {fs : List (String × List Char)} (h : Fills ms ds fs ds') (d : Option m.Value)
    (hfs : ∀ f ∈ fs, f.1 ≠ m.name) : Fills (m :: ms) (d, ds) fs (d, ds') := by
  induction h with
  | nil ds => exact .nil _
  | known hr h _ ih =>
    rw [List.forall_mem_cons] at hfs
    refine .known ?_ (reads_map (fun ds => (d, ds)) h) (ih hfs.2)
    rw [readInto?_of_ne hfs.1, hr]
    rfl
  | unknown hr h _ ih =>
    rw [List.forall_mem_cons] at hfs
    refine .unknown ?_ h (ih hfs.2)
    rw [readInto?_of_ne hfs.1, hr]
    rfl

/-- What was written fills the drafts of the members that were not left out. -/
theorem fills_fields {ms : List Member} (hnames : (ms.map Member.name).Nodup) {vs : Values ms}
    (h : LawfulValues ms vs) : Fills ms (noDrafts ms) (fields ms vs) (drafted ms vs) := by
  induction ms with
  | nil => exact .nil _
  | cons m ms ih =>
    obtain ⟨v, vs⟩ := vs
    obtain ⟨hv, hvs⟩ := h
    rw [List.map_cons, List.nodup_cons] at hnames
    have hother : ∀ f ∈ fields ms vs, f.1 ≠ m.name := by
      rintro f hf he
      exact hnames.1 (he ▸ mem_names_of_mem_fields hf)
    have hlater (d : Option m.Value) := (ih hnames.2 hvs).cons d hother
    simp only [fields, drafted, noDrafts]
    cases ht : m.write v with
    | none => exact hlater none
    | some t =>
      have hread := reads_memberValue m.name (hv.reads t ht)
      exact .known (readInto?_of_eq _) (reads_map (fun v => (some v, noDrafts ms)) hread)
        (hlater (some v))

theorem complete_drafted {ms : List Member} {vs : Values ms} (h : LawfulValues ms vs) (s : Bytes) :
    complete ms (drafted ms vs) s = ⟨.ok vs, s⟩ := by
  induction ms with
  | nil => rfl
  | cons m ms ih =>
    obtain ⟨v, vs⟩ := vs
    obtain ⟨hv, hvs⟩ := h
    have hlater := bind_of_ok (f := fun vs => pure (v, vs)) (ih hvs)
    simp only [drafted, complete]
    cases ht : m.write v with
    | none =>
      simp only [Option.map_none, hv.absent ht]
      exact hlater
    | some t => exact hlater

theorem write_record {α : Type} (name : String) {ms : List Member} (build : Values ms → α)
    (values : α → Values ms) (a : α) :
    (record name ms build values).write a = object (fields ms (values a)) := by
  rw [object, ← writeMembers_eq]
  rfl

/-- A record begins with a brace. -/
theorem starts_record {α : Type} (name : String) {ms : List Member} (build : Values ms → α)
    (values : α → Values ms) (a : α) : Starts ((record name ms build values).write a) := by
  rw [write_record, object, List.cons_append]
  exact ⟨0x7B, _, bytes_cons_ascii (by decide) _, by decide, by decide, by decide⟩

/-- A record of lawful values, with different names, is read back. -/
theorem reads_record {α : Type} {name : String} {ms : List Member} {build : Values ms → α}
    {values : α → Values ms} (hnames : (ms.map Member.name).Nodup) {a : α}
    (h : LawfulValues ms (values a)) (hbuild : build (values a) = a) :
    Reads (record name ms build values).read ((record name ms build values).write a) a := by
  have hread := reads_map build (readValues_of_fills name (fills_fields hnames h)
    (complete_drafted h))
  rw [hbuild] at hread
  rw [write_record]
  exact hread

/-! ### Whole inputs -/

/-- A reader that reads a text reads it as a whole input. -/
theorem decode_of_reads {α : Type} {c : Codec α} {t : List Char} {a : α} (h : Reads c.read t a) :
    c.decode (bytes t) = .ok a := by
  have hread := h [] (fun b hb => by cases hb)
  rw [List.append_nil] at hread
  exact congrArg Reading.result (bind_of_ok hread)

end Daybook.Json
