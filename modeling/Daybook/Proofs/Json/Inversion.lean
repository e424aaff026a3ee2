import Daybook.Json.Tree
import Daybook.Proofs.Json.Records

/-!
# What a reader has read

A reader that succeeds has read a text of some shape.

## Main definitions

* `Json.readMember` : the reader of a member whose name has been read.
* `Json.Drafted` : what one member of an object makes of the drafts.
* `Json.NextMember` : the key and the value of a member, read one after the other.

## Main results

* `Json.Reader.exists_of_bind_eq_ok` : what two readers have read one after the other.
* `Json.Codec.exists_of_decode` : a decoder reads up to the end of the text.
* `Json.nextKey_eq_true`, `Json.nextKey_eq_false` : what comes next in an object.
* `Json.readMembers_eq_ok` : the members of an object, read one after another.
-/

namespace Daybook.Json

namespace Reader

variable {α β : Type} {s rest : Bytes}

theorem exists_of_bind_eq_ok {r : Reader α} {f : α → Reader β} {v : β}
    (h : (r >>= f) s = ⟨.ok v, rest⟩) : ∃ u t, r s = ⟨.ok u, t⟩ ∧ f u t = ⟨.ok v, rest⟩ := by
  rcases hr : r s with ⟨e | u, t⟩
  · rw [bind_of_error hr] at h
    cases h
  · rw [bind_of_ok hr] at h
    exact ⟨u, t, rfl, h⟩

theorem aheadOfSpace_apply (f : Option UInt8 → Reader α) (s : Bytes) :
    (aheadOfSpace >>= f) s = f (s.dropWhile isSpace).head? (s.dropWhile isSpace) :=
  rfl

/-- A reader may be taken for a variable, so that its cases can be distinguished. -/
theorem exists_eq_apply {r : Reader α} {x : Reading α} (h : r s = x) : ∃ f, r = f ∧ f s = x :=
  ⟨r, rfl, h⟩

theorem inside_eq_ok {x : Step} {r : Reader α} {v : α} (h : inside x r s = ⟨.ok v, rest⟩) :
    r s = ⟨.ok v, rest⟩ := by
  rcases hr : r s with ⟨e | w, t⟩
  · simp only [inside, hr] at h
    cases h
  · rwa [inside_of_ok x hr] at h

theorem closedBy_eq_ok {r : Reader α} {close : Reader Unit} {v : α}
    (h : closedBy r close s = ⟨.ok v, rest⟩) :
    ∃ t, r s = ⟨.ok v, t⟩ ∧ close t = ⟨.ok (), rest⟩ := by
  rcases hr : r s with ⟨e | w, t⟩
  · simp only [closedBy, hr] at h
    cases h
  · rcases hclose : close t with ⟨e | u, t'⟩
    · simp only [closedBy, hr, hclose] at h
      cases h
    · rw [closedBy_of_ok hr hclose] at h
      cases h
      exact ⟨t, rfl, hclose⟩

end Reader

open Reader

variable {ms : List Member} {s t rest : Bytes}

/-! ### Whole texts -/

/-- Nothing but blanks stands behind what a decoder has read. -/
theorem Codec.exists_of_decode {α : Type} {c : Codec α} {a : α} (h : c.decode s = .ok a) :
    ∃ rest, c.read s = ⟨.ok a, rest⟩ ∧ rest.dropWhile isSpace = [] := by
  rcases hread : (do let a ← c.read; atEnd; pure a : Reader α) s with ⟨e | v, rest⟩
  · simp only [Codec.decode, hread] at h
    cases h
  · simp only [Codec.decode, hread] at h
    cases h
    obtain ⟨a, t, hread, hafter⟩ := exists_of_bind_eq_ok hread
    obtain ⟨u, t', hend, hafter⟩ := exists_of_bind_eq_ok hafter
    cases hafter
    refine ⟨t, hread, ?_⟩
    unfold atEnd at hend
    rw [aheadOfSpace_apply] at hend
    generalize t.dropWhile isSpace = w at hend ⊢
    cases w with
    | nil => rfl
    | cons x w => cases hend

/-! ### Scalars -/

/-- A value of an unexpected kind is never read. -/
theorem wrongKind_ne_ok {α : Type} {expected : String} {v : α} :
    wrongKind expected s ≠ ⟨.ok v, rest⟩ := by
  intro h
  have hfail {β : Type} {r : Reader β} {e : β → Cause} {t : Bytes}
      (h : (r >>= fun u => (fail (e u) : Reader α)) t = ⟨.ok v, rest⟩) : False := by
    obtain ⟨u, t', -, h⟩ := exists_of_bind_eq_ok h
    cases h
  unfold wrongKind at h
  rw [aheadOfSpace_apply] at h
  generalize s.dropWhile isSpace = t at h
  cases t with
  | nil => cases h
  | cons x t =>
    rw [List.head?_cons] at h
    dsimp only at h
    split_ifs at h
    · exact hfail (e := fun _ => _) ((skip_bind _ _ _).symm.trans h)
    · exact hfail (e := fun _ => _) ((skip_bind _ _ _).symm.trans h)
    · exact hfail (e := fun _ => _) ((skip_bind _ _ _).symm.trans h)
    · exact hfail h
    · exact hfail ((skip_bind _ _ _).symm.trans h)
    · cases h
    · cases h
    · cases h

/-- A number is read after a minus sign or a digit came next. -/
theorem scalar_eq_number {x : UInt8} {n : Number}
    (h : scalar x (x :: s) = ⟨.ok (.number n), rest⟩) :
    (x = 0x2D ∨ isDigit x = true) ∧ number (x :: s) = ⟨.ok n, rest⟩ := by
  have hother {α : Type} {r : Reader α} {f : α → Tree} {t : Bytes} (hf : ∀ a, f a ≠ .number n)
      (h : (r >>= fun a => (pure (f a) : Reader Tree)) t = ⟨.ok (.number n), rest⟩) : False := by
    obtain ⟨a, t', -, h⟩ := exists_of_bind_eq_ok h
    cases hfa : f a <;> rw [hfa] at h <;> cases h
    exact hf a hfa
  unfold scalar at h
  split_ifs at h with hnull htrue hfalse hnumeral hquote
  · exact (hother (f := fun _ => .null) (by simp) ((skip_bind _ _ _).symm.trans h)).elim
  · exact (hother (f := fun _ => .boolean true) (by simp) ((skip_bind _ _ _).symm.trans h)).elim
  · exact (hother (f := fun _ => .boolean false) (by simp) ((skip_bind _ _ _).symm.trans h)).elim
  · obtain ⟨k, t, hnumber, h⟩ := exists_of_bind_eq_ok h
    cases h
    exact ⟨by simpa using hnumeral, hnumber⟩
  · exact (hother (f := .text) (by simp) ((skip_bind _ _ _).symm.trans h)).elim
  · cases h

/-- What is read as a spelling is what some string stands for. -/
theorem exists_of_spelled_eq_ok {α : Type} {expected reason : String} {parse? : String → Option α}
    {spell : α → String} {a : α}
    (h : (spelled expected reason parse? spell).read s = ⟨.ok a, rest⟩) :
    ∃ text, parse? text = some a := by
  obtain ⟨text, t, -, h⟩ := exists_of_bind_eq_ok h
  cases hparse : parse? text with
  | none =>
    simp only [hparse] at h
    cases h
  | some b =>
    simp only [hparse] at h
    cases h
    exact ⟨text, hparse⟩

/-! ### Keys -/

/-- A key is announced by its quotation mark; all but the first stand behind a comma. -/
theorem nextKey_eq_true {first : Bool} (h : nextKey first s = ⟨.ok true, rest⟩) :
    (∃ t, rest = 0x22 :: t) ∧ (first = false → ∃ t, s.dropWhile isSpace = 0x2C :: t) := by
  unfold nextKey at h
  rw [aheadOfSpace_apply] at h
  generalize s.dropWhile isSpace = t at h ⊢
  cases t with
  | nil => cases h
  | cons x t =>
    rw [List.head?_cons] at h
    dsimp only at h
    split_ifs at h with hend hfirst hquote hcomma
    · cases h
    · cases h
      exact ⟨⟨t, by rw [hquote]⟩, fun hf => absurd hfirst (by simp [hf])⟩
    · cases h
    · subst hcomma
      rw [skip_bind, aheadOfSpace_apply] at h
      refine ⟨?_, fun _ => ⟨t, rfl⟩⟩
      generalize t.dropWhile isSpace = u at h
      obtain ⟨r, hr, h⟩ := exists_eq_apply h
      split at hr <;> subst hr
      · cases h
      · next hquote =>
        obtain ⟨u, rfl⟩ := List.head?_eq_some_iff.1 hquote
        cases h
        exact ⟨u, rfl⟩
      · cases h
      · cases h
    · cases h

/-- An object is over at its closing brace. -/
theorem nextKey_eq_false {first : Bool} (h : nextKey first s = ⟨.ok false, rest⟩) :
    rest = s.dropWhile isSpace ∧ ∃ t, rest = 0x7D :: t := by
  unfold nextKey at h
  rw [aheadOfSpace_apply] at h
  generalize s.dropWhile isSpace = t at h ⊢
  cases t with
  | nil => cases h
  | cons x t =>
    rw [List.head?_cons] at h
    dsimp only at h
    split_ifs at h with hend hfirst hquote hcomma
    · cases h
      exact ⟨rfl, t, by rw [hend]⟩
    · cases h
    · cases h
    · rw [skip_bind, aheadOfSpace_apply] at h
      generalize t.dropWhile isSpace = u at h
      obtain ⟨r, hr, h⟩ := exists_eq_apply h
      split at hr <;> subst hr <;> cases h
    · cases h

/-! ### One member after another -/

/-- Reads a member whose name has been read. -/
def readMember (ms : List Member) (name : String) (ds : Drafts ms) : Reader (Drafts ms) :=
  (readInto? ms name ds).getD do
    memberValue name skipValue
    pure ds

/-- What a member with some name makes of the drafts: its value is drafted for the member of the
record that has the name. -/
def Drafted (name : String) (s rest : Bytes) : (ms : List Member) → Drafts ms → Drafts ms → Prop
  | [], _, _ => False
  | m :: ms, (d, ds), (d', ds') =>
    if name = m.name then
      d = none ∧ ds' = ds ∧ ∃ v, d' = some v ∧ memberValue name m.read s = ⟨.ok v, rest⟩
    else d' = d ∧ Drafted name s rest ms ds ds'

theorem drafted_of_readInto? {name : String} {ds ds' : Drafts ms} {r : Reader (Drafts ms)}
    (hr : readInto? ms name ds = some r) (h : r s = ⟨.ok ds', rest⟩) :
    Drafted name s rest ms ds ds' := by
  induction ms with
  | nil => cases hr
  | cons m ms ih =>
    obtain ⟨d, ds⟩ := ds
    obtain ⟨d', ds'⟩ := ds'
    by_cases hname : name = m.name
    · subst hname
      cases d with
      | some v =>
        rw [readInto?, if_pos rfl] at hr
        cases hr
        cases h
      | none =>
        rw [readInto?_of_eq] at hr
        cases hr
        obtain ⟨v, t, hv, h⟩ := exists_of_bind_eq_ok h
        cases h
        exact (if_pos rfl).mpr ⟨rfl, rfl, v, rfl, hv⟩
    · rw [readInto?_of_ne hname, Option.map_eq_some_iff] at hr
      obtain ⟨r', hr', rfl⟩ := hr
      obtain ⟨ds₁, t, hds, h⟩ := exists_of_bind_eq_ok h
      cases h
      exact (if_neg hname).mpr ⟨rfl, ih hr' hds⟩

theorem Drafted.exists_mem {name : String} {ds ds' : Drafts ms}
    (h : Drafted name s rest ms ds ds') :
    ∃ m ∈ ms, m.name = name ∧ ∃ v, memberValue name m.read s = ⟨.ok v, rest⟩ := by
  induction ms with
  | nil => exact h.elim
  | cons m ms ih =>
    obtain ⟨d, ds⟩ := ds
    obtain ⟨d', ds'⟩ := ds'
    rw [Drafted] at h
    split_ifs at h with hname
    · obtain ⟨-, -, v, -, hv⟩ := h
      exact ⟨m, List.mem_cons_self, hname.symm, v, hv⟩
    · obtain ⟨m', hm', hread⟩ := ih h.2
      exact ⟨m', List.mem_cons_of_mem _ hm', hread⟩

theorem notMem_of_readInto? {name : String} {ds : Drafts ms} (h : readInto? ms name ds = none) :
    name ∉ ms.map Member.name := by
  induction ms with
  | nil => exact List.not_mem_nil
  | cons m ms ih =>
    obtain ⟨d, ds⟩ := ds
    have hname : name ≠ m.name := by
      rintro rfl
      cases d with
      | some v =>
        rw [readInto?, if_pos rfl] at h
        cases h
      | none =>
        rw [readInto?_of_eq] at h
        cases h
    rw [readInto?_of_ne hname, Option.map_eq_none_iff] at h
    rw [List.map_cons, List.mem_cons, not_or]
    exact ⟨hname, ih h⟩

/-- A member is drafted, or skipped if it is not one of the record. -/
theorem readMember_eq_ok {name : String} {ds ds' : Drafts ms}
    (h : readMember ms name ds s = ⟨.ok ds', rest⟩) :
    Drafted name s rest ms ds ds' ∨
      name ∉ ms.map Member.name ∧ ds' = ds ∧ memberValue name skipValue s = ⟨.ok (), rest⟩ := by
  unfold readMember at h
  cases hr : readInto? ms name ds with
  | some r =>
    rw [hr] at h
    exact .inl (drafted_of_readInto? hr h)
  | none =>
    rw [hr] at h
    obtain ⟨u, t, hskip, h⟩ := exists_of_bind_eq_ok h
    cases h
    exact .inr ⟨notMem_of_readInto? hr, rfl, hskip⟩

/-- The value of a member stands behind a colon. -/
theorem memberValue_eq_ok {α : Type} {name : String} {r : Reader α} {v : α}
    (h : memberValue name r s = ⟨.ok v, rest⟩) :
    ∃ t, s.dropWhile isSpace = 0x3A :: t ∧ r t = ⟨.ok v, rest⟩ := by
  unfold memberValue at h
  rw [aheadOfSpace_apply] at h
  generalize s.dropWhile isSpace = t at h ⊢
  obtain ⟨f, hf, h⟩ := exists_eq_apply h
  split at hf <;> subst hf
  · next hcolon =>
    obtain ⟨t, rfl⟩ := List.head?_eq_some_iff.1 hcolon
    exact ⟨t, rfl, inside_eq_ok h⟩
  · cases h
  · cases h

/-- Behind the colon stands the value of a member of the record, or one that is skipped. -/
theorem exists_value_of_readMember {name : String} {ds ds' : Drafts ms}
    (h : readMember ms name ds s = ⟨.ok ds', rest⟩) :
    ∃ t, s.dropWhile isSpace = 0x3A :: t ∧
      ((∃ m ∈ ms, m.name = name ∧ ∃ v, m.read t = ⟨.ok v, rest⟩) ∨
        skipValue t = ⟨.ok (), rest⟩) := by
  rcases readMember_eq_ok h with hdrafted | ⟨-, -, hskip⟩
  · obtain ⟨m, hm, hname, v, hread⟩ := hdrafted.exists_mem
    obtain ⟨t, hcolon, hread⟩ := memberValue_eq_ok hread
    exact ⟨t, hcolon, .inl ⟨m, hm, hname, v, hread⟩⟩
  · obtain ⟨t, hcolon, hskip⟩ := memberValue_eq_ok hskip
    exact ⟨t, hcolon, .inr hskip⟩

/-- The next member of an object has been read, with its key in quotation marks and its value. -/
def NextMember (ms : List Member) (first : Bool) (ds ds' : Drafts ms) (s rest : Bytes) : Prop :=
  ∃ k name t, nextKey first s = ⟨.ok true, 0x22 :: k⟩ ∧ string k = ⟨.ok name, t⟩ ∧
    readMember ms name ds t = ⟨.ok ds', rest⟩

/-- Members are read one after another, up to the end of the object. -/
theorem readMembers_eq_ok {steps : Bytes} {first : Bool} {ds ds' : Drafts ms}
    (h : readMembers ms steps first ds s = ⟨.ok ds', rest⟩) :
    nextKey first s = ⟨.ok false, rest⟩ ∧ ds' = ds ∨
      ∃ x steps' ds₁ t, steps = x :: steps' ∧ NextMember ms first ds ds₁ s t ∧
        readMembers ms steps' false ds₁ t = ⟨.ok ds', rest⟩ := by
  cases steps with
  | nil => cases h
  | cons x steps =>
    rw [readMembers] at h
    obtain ⟨found, t, hkey, h⟩ := exists_of_bind_eq_ok h
    cases found with
    | false =>
      cases h
      exact .inl ⟨hkey, rfl⟩
    | true =>
      obtain ⟨⟨k, rfl⟩, -⟩ := nextKey_eq_true hkey
      obtain ⟨name, t, hname, h⟩ := exists_of_bind_eq_ok ((skip_bind _ _ _).symm.trans h)
      obtain ⟨ds₁, v, hmember, h⟩ := exists_of_bind_eq_ok h
      exact .inr ⟨x, steps, ds₁, v, rfl, ⟨k, name, t, hkey, hname, hmember⟩, h⟩

/-! ### Records -/

/-- Each value of a record was drafted, or stands for a missing member. -/
theorem complete_eq_ok {m : Member} {d : Option m.Value} {ds : Drafts ms} {v : m.Value}
    {vs : Values ms} (h : complete (m :: ms) (d, ds) s = ⟨.ok (v, vs), rest⟩) :
    (d <|> m.absent) = some v ∧ complete ms ds s = ⟨.ok vs, rest⟩ := by
  simp only [complete] at h
  cases ho : d <|> m.absent with
  | none =>
    rw [ho] at h
    cases h
  | some w =>
    rw [ho] at h
    obtain ⟨w', t, hw, h⟩ := exists_of_bind_eq_ok h
    cases hw
    obtain ⟨vs', t', hvs, h⟩ := exists_of_bind_eq_ok h
    cases h
    exact ⟨rfl, hvs⟩

/-- A record is read from an object or from a list. -/
theorem readValues_eq_ok {name : String} {vs : Values ms}
    (h : readValues name ms s = ⟨.ok vs, rest⟩) :
    (∃ t ds u u', s.dropWhile isSpace = 0x7B :: t ∧
      readMembers ms (0 :: t) true (noDrafts ms) t = ⟨.ok ds, u⟩ ∧ complete ms ds u = ⟨.ok vs, u'⟩ ∧
      endOfObject u' = ⟨.ok (), rest⟩) ∨
    ∃ t u, s.dropWhile isSpace = 0x5B :: t ∧
      readElements (elementsWords name ms) ms 0 t = ⟨.ok vs, u⟩ := by
  unfold readValues at h
  rw [aheadOfSpace_apply] at h
  generalize s.dropWhile isSpace = t at h ⊢
  obtain ⟨f, hf, h⟩ := exists_eq_apply h
  split at hf <;> subst hf
  · next hcurly =>
    obtain ⟨t, rfl⟩ := List.head?_eq_some_iff.1 hcurly
    obtain ⟨u', hread, hend⟩ := closedBy_eq_ok ((skip_bind _ _ _).symm.trans h)
    obtain ⟨ds, u, hmembers, hcomplete⟩ := exists_of_bind_eq_ok hread
    exact .inl ⟨t, ds, u, u', rfl, hmembers, hcomplete, hend⟩
  · next hsquare =>
    obtain ⟨t, rfl⟩ := List.head?_eq_some_iff.1 hsquare
    obtain ⟨u, hread, -⟩ := closedBy_eq_ok ((skip_bind _ _ _).symm.trans h)
    exact .inr ⟨t, u, rfl, hread⟩
  · exact (wrongKind_ne_ok h).elim

/-- The completion of a record reads nothing. -/
theorem complete_rest {ds : Drafts ms} {vs : Values ms}
    (h : complete ms ds s = ⟨.ok vs, rest⟩) : rest = s := by
  induction ms with
  | nil =>
    cases h
    rfl
  | cons m ms ih =>
    obtain ⟨d, ds⟩ := ds
    obtain ⟨v, vs⟩ := vs
    exact ih (complete_eq_ok h).2

/-- An element of a list is the value of a member, or the list is over before it; then the other
elements follow. -/
theorem readElements_eq_ok {expected : String} {m : Member} {i : Nat} {v : m.Value}
    {vs : Values ms} (h : readElements expected (m :: ms) i s = ⟨.ok (v, vs), rest⟩) :
    (∃ t, nextElement (i = 0) s = ⟨.ok true, t⟩ ∧ (∃ u, m.read t = ⟨.ok v, u⟩) ∨
      nextElement (i = 0) s = ⟨.ok false, t⟩ ∧ m.absentAtEnd = some v) ∧
    ∃ t, readElements expected ms (i + 1) t = ⟨.ok vs, rest⟩ := by
  simp only [readElements] at h
  obtain ⟨found, t, hfound, h⟩ := exists_of_bind_eq_ok h
  cases found with
  | true =>
    obtain ⟨w, u, hread, h⟩ := exists_of_bind_eq_ok h
    obtain ⟨vs', t', hvs, h⟩ := exists_of_bind_eq_ok h
    cases h
    exact ⟨⟨t, .inl ⟨hfound, u, inside_eq_ok hread⟩⟩, u, hvs⟩
  | false =>
    cases habsent : m.absentAtEnd with
    | none =>
      simp only [habsent] at h
      obtain ⟨w, u, hread, -⟩ := exists_of_bind_eq_ok h
      cases hread
    | some w =>
      simp only [habsent] at h
      obtain ⟨w', u, hread, h⟩ := exists_of_bind_eq_ok h
      cases hread
      obtain ⟨vs', t', hvs, h⟩ := exists_of_bind_eq_ok h
      cases h
      exact ⟨⟨t, .inr ⟨hfound, rfl⟩⟩, _, hvs⟩

end Daybook.Json
