import Daybook.Proofs.Json.Inversion
import Daybook.Proofs.Json.Records
import Daybook.Proofs.Json.Skipping
import Daybook.Proofs.Text.Hex

/-!
# The spellings of an object of strings

A character of a string is written as itself, after a backslash, or by its number, and blanks may
stand between any two parts of an object.  Whatever the choice, a key and a text are read as what
they spell, and a text that is not wanted is skipped to its end.  So a record with one text finds it
in every object that has it once.

## Main definitions

* `Json.SpellsChar`, `Json.SpellsText` : the ways to write a character and a text.
* `Json.SpellsMember`, `Json.SpellsMembers`, `Json.SpellsObject` : the ways to write texts with
  their names as an object.
* `Json.textsOf` : the texts with a name.
* `Json.Member.ReadsTexts` : a member that is read from the spellings of a text.

## Main results

* `Json.string_of_spells`, `Json.skipValue_of_spells` : a text is read or skipped.
* `Json.readMembers_key` : a key is read, and then its member.
* `Json.readValues_of_spells` : a record with one text is read, or has the text twice.
* `Json.decode_of_spells`, `Json.decodeStart_of_spells` : the same for inputs.
* `Json.exists_spellsObject` : all lists of names and texts can be written.
-/

namespace Daybook.Json

open Utf8 Reader

/-! ### Ways to write a text -/

/-- The ways to write a number of sixteen bits: a backslash, the letter `u` and four digits. -/
inductive SpellsUnit (n : Nat) : List Char → Prop
  | digits {a b c d : Char} {p q r s : Fin 16} (ha : Hex.value? a = some p)
      (hb : Hex.value? b = some q) (hc : Hex.value? c = some r) (hd : Hex.value? d = some s)
      (hn : n = 4096 * p.val + 256 * q.val + 16 * r.val + s.val) :
      SpellsUnit n ['\\', 'u', a, b, c, d]

/-- The letters and marks that stand for a character after a backslash. -/
def letters : List (Char × Char) :=
  [('"', '"'), ('\\', '\\'), ('/', '/'), ('b', '\x08'), ('f', '\x0c'), ('n', '\n'), ('r', '\r'),
   ('t', '\t')]

/-- The ways to write a character inside a string. -/
inductive SpellsChar (c : Char) : List Char → Prop
  /-- All but the quotation mark, the backslash and the control characters stand for themselves. -/
  | itself (hcontrol : 0x20 ≤ c.toNat) (hquote : c ≠ '"') (hslash : c ≠ '\\') : SpellsChar c [c]
  | letter {e : Char} (h : (e, c) ∈ letters) : SpellsChar c ['\\', e]
  | number {t : List Char} (h : SpellsUnit c.toNat t) : SpellsChar c t
  /-- The number of a character beyond sixteen bits is divided between two halves. -/
  | halves {t u : List Char} (hc : 0x10000 ≤ c.toNat)
      (ht : SpellsUnit (0xD800 + (c.toNat - 0x10000) / 0x400) t)
      (hu : SpellsUnit (0xDC00 + (c.toNat - 0x10000) % 0x400) u) : SpellsChar c (t ++ u)

/-- The ways to write characters inside a string. -/
inductive SpellsChars : List Char → List Char → Prop
  | nil : SpellsChars [] []
  | cons {c : Char} {cs t u : List Char} (h : SpellsChar c t) (hs : SpellsChars cs u) :
      SpellsChars (c :: cs) (t ++ u)

/-- The ways to write a text. -/
inductive SpellsText (s : String) : List Char → Prop
  | quoted {t : List Char} (h : SpellsChars s.toList t) : SpellsText s ('"' :: t ++ ['"'])

/-! ### Reading a text -/

theorem SpellsUnit.exists_digits {n : Nat} {t : List Char} (h : SpellsUnit n t) :
    ∃ a b c d, bytes t = [0x5C, 0x75, a, b, c, d] ∧ hexNumber? [a, b, c, d] = some n := by
  cases h with
  | @digits a b c d p q r s ha hb hc hd hn =>
    refine ⟨UInt8.ofNat a.toNat, UInt8.ofNat b.toNat, UInt8.ofNat c.toNat, UInt8.ofNat d.toNat,
      ?_, ?_⟩
    · rw [bytes_cons_ascii (by decide), bytes_cons_ascii (by decide),
        bytes_cons_ascii (Hex.lt_of_value? ha), bytes_cons_ascii (Hex.lt_of_value? hb),
        bytes_cons_ascii (Hex.lt_of_value? hc), bytes_cons_ascii (Hex.lt_of_value? hd)]
      rfl
    · simp only [hexNumber?, List.foldlM_cons, List.foldlM_nil, Hex.value?_byte ha,
        Hex.value?_byte hb, Hex.value?_byte hc, Hex.value?_byte hd, Option.map_some,
        Option.bind_eq_bind, Option.bind_some, Option.pure_def, Option.some.injEq]
      omega

/-- No character has the number of half a pair. -/
theorem not_isSurrogate (c : Char) :
    isLeadingSurrogate c.toNat = false ∧ isTrailingSurrogate c.toNat = false := by
  have hvalid : c.toNat < 0xD800 ∨ 0xDFFF < c.toNat ∧ c.toNat < 0x110000 := c.valid
  simp only [isLeadingSurrogate, isTrailingSurrogate, Bool.and_eq_false_iff,
    decide_eq_false_iff_not]
  omega

theorem stringBytes_of_spellsChar {c : Char} {t : List Char} (h : SpellsChar c t)
    (found tail : Bytes) :
    stringBytes .plain found (bytes t ++ tail) =
      stringBytes .plain ((String.utf8EncodeChar c).reverse ++ found) tail := by
  cases h with
  | itself hcontrol hquote hslash =>
    have hne {d : Char} (hd : d.toNat < 0x20) : c ≠ d := by
      rintro rfl
      omega
    have hescaped : escaped c = [c] := by
      rw [escaped, if_neg hquote, if_neg hslash, if_neg (hne (by decide)),
        if_neg (hne (by decide)), if_neg (hne (by decide)), if_neg (hne (by decide)),
        if_neg (hne (by decide)), if_neg (Nat.not_lt.2 hcontrol)]
    rw [← hescaped, stringBytes_escaped]
  | letter h =>
    simp only [letters, List.mem_cons, List.not_mem_nil, or_false, Prod.mk.injEq] at h
    rcases h with ⟨rfl, rfl⟩ | ⟨rfl, rfl⟩ | ⟨rfl, rfl⟩ | ⟨rfl, rfl⟩ | ⟨rfl, rfl⟩ | ⟨rfl, rfl⟩ |
      ⟨rfl, rfl⟩ | ⟨rfl, rfl⟩ <;> rfl
  | number h =>
    obtain ⟨a, b, c', d, hbytes, hhex⟩ := h.exists_digits
    obtain ⟨hlead, htrail⟩ := not_isSurrogate c
    simp [hbytes, stringBytes, hhex, htrail, hlead, reversedBytes]
  | halves hc ht hu =>
    obtain ⟨a, b, c', d, hbytes, hhex⟩ := ht.exists_digits
    obtain ⟨a', b', c'', d', hbytes', hhex'⟩ := hu.exists_digits
    have hvalid : c.toNat < 0xD800 ∨ 0xDFFF < c.toNat ∧ c.toNat < 0x110000 := c.valid
    have hpair : surrogatePair (0xD800 + (c.toNat - 0x10000) / 0x400)
        (0xDC00 + (c.toNat - 0x10000) % 0x400) = c := by
      rw [surrogatePair, ← c.ofNat_toNat]
      congr 1
      rw [Char.ofNat_toNat]
      omega
    have hlead : isLeadingSurrogate (0xD800 + (c.toNat - 0x10000) / 0x400) = true ∧
        isTrailingSurrogate (0xD800 + (c.toNat - 0x10000) / 0x400) = false := by
      simp only [isLeadingSurrogate, isTrailingSurrogate, Bool.and_eq_true, Bool.and_eq_false_iff,
        decide_eq_true_eq, decide_eq_false_iff_not]
      omega
    have htrail : isTrailingSurrogate (0xDC00 + (c.toNat - 0x10000) % 0x400) = true := by
      simp only [isTrailingSurrogate, Bool.and_eq_true, decide_eq_true_eq]
      omega
    simp [hbytes, hbytes', stringBytes, hhex, hhex', hlead, htrail, hpair, reversedBytes]

theorem stringBytes_of_spellsChars {cs t : List Char} (h : SpellsChars cs t)
    (found tail : Bytes) :
    stringBytes .plain found (bytes t ++ tail) =
      stringBytes .plain ((bytes cs).reverse ++ found) tail := by
  induction h generalizing found with
  | nil => rfl
  | cons h _ ih =>
    rw [bytes_append, List.append_assoc, stringBytes_of_spellsChar h, ih, bytes_cons,
      List.reverse_append, List.append_assoc]

theorem stringBytes_of_spells {s : String} {t : List Char} (h : SpellsChars s.toList t)
    (rest : Bytes) :
    stringBytes .plain [] (bytes t ++ 0x22 :: rest) = ⟨.ok (Utf8.encode s), rest⟩ := by
  rw [stringBytes_of_spellsChars h, stringBytes, if_pos rfl, List.append_nil, List.reverse_reverse,
    bytes_toList]

/-- A text is read as what it spells. -/
theorem string_of_spells {s : String} {t : List Char} (h : SpellsChars s.toList t)
    (rest : Bytes) : string (bytes t ++ 0x22 :: rest) = ⟨.ok s, rest⟩ := by
  simp only [string, stringBytes_of_spells h, Utf8.decode?_encode]

/-! ### Blanks -/

/-- The blanks that may stand between the parts of an object. -/
def Spaces (cs : List Char) : Prop :=
  ∀ c ∈ cs, c ∈ [' ', '\n', '\t', '\r']

theorem spaces_nil : Spaces [] :=
  fun _ hc => absurd hc List.not_mem_nil

theorem spaces_singleton {c : Char} (h : c ∈ [' ', '\n', '\t', '\r']) : Spaces [c] := by
  rintro d hd
  rwa [List.mem_singleton.1 hd]

theorem dropWhile_spaces {cs : List Char} (h : Spaces cs) (s : Bytes) :
    (bytes cs ++ s).dropWhile isSpace = s.dropWhile isSpace := by
  refine List.dropWhile_append_of_pos fun b hb => ?_
  obtain ⟨c, hc, hb⟩ := List.mem_flatMap.1 hb
  have hspace := h c hc
  simp only [List.mem_cons, List.not_mem_nil, or_false] at hspace
  rcases hspace with rfl | rfl | rfl | rfl <;> rw [List.mem_singleton.1 hb] <;> rfl

/-- What comes next is looked for behind blanks. -/
theorem aheadOfSpace_spaces {α : Type} (f : Option UInt8 → Reader α) {cs : List Char}
    (h : Spaces cs) (s : Bytes) :
    (aheadOfSpace >>= f) (bytes cs ++ s) = (aheadOfSpace >>= f) s := by
  rw [aheadOfSpace_apply, aheadOfSpace_apply, dropWhile_spaces h]

/-! ### Ways to write an object -/

/-- The ways to write a text with its name. -/
inductive SpellsMember : String × String → List Char → Prop
  | member {name value : String} {a n b c v : List Char} (ha : Spaces a) (hn : SpellsText name n)
      (hb : Spaces b) (hc : Spaces c) (hv : SpellsText value v) :
      SpellsMember (name, value) (a ++ n ++ b ++ ':' :: c ++ v)

/-- What comes before a member. -/
def comma (first : Bool) : List Char :=
  if first then [] else [',']

/-- The ways to write the members of an object, up to its closing brace. -/
inductive SpellsMembers : Bool → List (String × String) → List Char → Prop
  | nil {first : Bool} {t : List Char} (h : Spaces t) : SpellsMembers first [] t
  | cons {first : Bool} {field : String × String} {fields : List (String × String)}
      {e t u : List Char} (he : Spaces e) (h : SpellsMember field t)
      (hs : SpellsMembers false fields u) :
      SpellsMembers first (field :: fields) (e ++ comma first ++ t ++ u)

/-- The ways to write texts with their names as an object. -/
inductive SpellsObject (fields : List (String × String)) : List Char → Prop
  | braces {t : List Char} (h : SpellsMembers true fields t) :
      SpellsObject fields ('\x7b' :: t ++ ['\x7d'])

/-! ### Reading the parts of an object -/

theorem nextKey_of_spaces (first : Bool) {e a : List Char} (he : Spaces e) (ha : Spaces a)
    (s : Bytes) :
    nextKey first (bytes e ++ (bytes (comma first) ++ (bytes a ++ 0x22 :: s))) =
      ⟨.ok true, 0x22 :: s⟩ := by
  unfold nextKey
  rw [aheadOfSpace_spaces _ he]
  cases first with
  | true =>
    refine (aheadOfSpace_spaces _ ha _).trans ?_
    rw [aheadOfSpace_bind _ (by decide)]
    rfl
  | false =>
    rw [show bytes (comma false) ++ (bytes a ++ 0x22 :: s) = 0x2C :: (bytes a ++ 0x22 :: s) from
      rfl, aheadOfSpace_bind _ (by decide)]
    dsimp only
    rw [if_neg (by decide), if_neg (by decide), if_pos rfl, skip_bind, aheadOfSpace_spaces _ ha,
      aheadOfSpace_bind _ (by decide)]
    rfl

theorem nextKey_of_spaces_end (first : Bool) {e : List Char} (he : Spaces e) (s : Bytes) :
    nextKey first (bytes e ++ 0x7D :: s) = ⟨.ok false, 0x7D :: s⟩ := by
  unfold nextKey
  rw [aheadOfSpace_spaces _ he, aheadOfSpace_bind _ (by decide)]
  rfl

theorem bytes_spellsText {s : String} {t : List Char} (h : SpellsText s t) :
    ∃ u, SpellsChars s.toList u ∧ bytes t = 0x22 :: (bytes u ++ [0x22]) := by
  obtain ⟨hu⟩ := h
  exact ⟨_, hu, by rw [List.cons_append, bytes_cons_ascii (by decide), bytes_append]; rfl⟩

/-- A value behind a colon is read. -/
theorem memberValue_of_spaces {α : Type} {name : String} {r : Reader α} {v : α} {cs : List Char}
    (h : Spaces cs) {s rest : Bytes} (hr : r s = ⟨.ok v, rest⟩) :
    memberValue name r (bytes cs ++ 0x3A :: s) = ⟨.ok v, rest⟩ := by
  unfold memberValue
  rw [aheadOfSpace_spaces _ h, aheadOfSpace_bind _ (by decide)]
  exact inside_of_ok (.member name) hr

section

variable {value : String} {c v : List Char} (hc : Spaces c) (hv : SpellsText value v)

include hc hv

/-- A text is read behind blanks. -/
theorem read_of_spells (rest : Bytes) :
    text.read (bytes c ++ (bytes v ++ rest)) = ⟨.ok value, rest⟩ := by
  obtain ⟨u, hu, hbytes⟩ := bytes_spellsText hv
  have hread : text.read (bytes c ++ 0x22 :: (bytes u ++ 0x22 :: rest)) = ⟨.ok value, rest⟩ := by
    refine (aheadOfSpace_spaces _ hc _).trans ((aheadOfSpace_bind _ (by decide) _).trans ?_)
    exact string_of_spells hu rest
  rwa [hbytes, List.cons_append, List.append_assoc, List.singleton_append]

/-- A text that may be missing is read. -/
theorem orNull_of_spells (rest : Bytes) :
    Member.orNull text.read (bytes c ++ (bytes v ++ rest)) = ⟨.ok (some value), rest⟩ := by
  obtain ⟨u, hu, hbytes⟩ := bytes_spellsText hv
  have hread := read_of_spells spaces_nil hv rest
  have hspaces : Member.orNull text.read (bytes c ++ (bytes v ++ rest)) =
      Member.orNull text.read (bytes v ++ rest) :=
    aheadOfSpace_spaces _ hc _
  rw [hspaces]
  rw [hbytes, List.cons_append] at hread ⊢
  exact Member.orNull_of_ok (by decide) (by decide) hread

/-- A text that is not wanted is skipped to its end. -/
theorem skipValue_of_spells (rest : Bytes) :
    skipValue (bytes c ++ (bytes v ++ rest)) = ⟨.ok (), rest⟩ := by
  obtain ⟨u, hu, hbytes⟩ := bytes_spellsText hv
  have hstart : skipStart (bytes c ++ (bytes v ++ rest)) = ⟨.ok none, rest⟩ := by
    unfold skipStart
    rw [hbytes, List.cons_append, List.append_assoc, List.singleton_append,
      aheadOfSpace_spaces _ hc, aheadOfSpace_bind _ (by decide)]
    exact bind_of_ok (skipStringFrom_of_stringBytes (stringBytes_of_spells hu rest))
  exact (bind_of_ok hstart).trans (bind_of_ok (closeBrackets_nil true rest))

end

/-- A key is read, and then its member. -/
theorem readMembers_key {ms : List Member} {name : String} {e a n : List Char} (he : Spaces e)
    (ha : Spaces a) (hn : SpellsText name n) (first : Bool) (x : UInt8) (steps : Bytes)
    (ds : Drafts ms) (s : Bytes) :
    readMembers ms (x :: steps) first ds
        (bytes e ++ (bytes (comma first) ++ (bytes a ++ (bytes n ++ s)))) =
      (readMember ms name ds >>= readMembers ms steps false) s := by
  obtain ⟨u, hu, hbytes⟩ := bytes_spellsText hn
  rw [hbytes, List.cons_append, List.append_assoc, List.singleton_append, readMembers]
  refine (bind_of_ok (nextKey_of_spaces first he ha _)).trans ?_
  refine (congrFun (if_pos rfl) _).trans ?_
  rw [skip_bind]
  exact bind_of_ok (string_of_spells hu s)

/-! ### Reading a record with one text -/

theorem Reader.closedBy_of_error {α : Type} {r : Reader α} {close : Reader Unit} {s rest : Bytes}
    {e : Fault} (h : r s = ⟨.error e, rest⟩) : ∃ e s', closedBy r close s = ⟨.error e, s'⟩ := by
  simp only [closedBy, h]
  exact ⟨_, _, rfl⟩

/-- A member *reads texts* when every spelling of a text, behind any blanks, is read as the value
that the text stands for. -/
def Member.ReadsTexts (m : Member) (ofText : String → m.Value) : Prop :=
  ∀ {value : String} {c v : List Char}, Spaces c → SpellsText value v → ∀ rest,
    m.read (bytes c ++ (bytes v ++ rest)) = ⟨.ok (ofText value), rest⟩

theorem Member.readsTexts_required (name : String) :
    (required name text).ReadsTexts fun value => value :=
  read_of_spells

theorem Member.readsTexts_optional (name : String) (mayEnd : Bool) :
    (optional name text mayEnd).ReadsTexts some :=
  orNull_of_spells

/-- The texts with a name. -/
def textsOf (name : String) (fields : List (String × String)) : List String :=
  (fields.filter (·.1 = name)).map (·.2)

@[simp]
theorem textsOf_cons_of_eq (name value : String) (fields : List (String × String)) :
    textsOf name ((name, value) :: fields) = value :: textsOf name fields := by
  simp [textsOf]

theorem textsOf_cons_of_ne {name key : String} (h : key ≠ name) (value : String)
    (fields : List (String × String)) :
    textsOf name ((key, value) :: fields) = textsOf name fields := by
  simp [textsOf, h]

section

variable {m : Member} {ofText : String → m.Value}

/-- What has been found of the text. -/
def found (ofText : String → m.Value) (d : Option String) : Drafts [m] :=
  (d.map ofText, ())

section

variable {key value : String} {b c v : List Char} (hb : Spaces b) (hc : Spaces c)
  (hv : SpellsText value v)

include hb hc hv

/-- A member with another name is skipped. -/
theorem readMember_of_ne (hkey : key ≠ m.name) (ds : Drafts [m]) (rest : Bytes) :
    readMember [m] key ds (bytes b ++ 0x3A :: (bytes c ++ (bytes v ++ rest))) =
      ⟨.ok ds, rest⟩ := by
  have hmember : readInto? [m] key ds = none := readInto?_of_notMem (by simpa using hkey) ds
  rw [readMember, hmember]
  exact bind_of_ok (memberValue_of_spaces hb (skipValue_of_spells hc hv rest))

/-- The first member with the name is found. -/
theorem readMember_of_none (hm : m.ReadsTexts ofText) (rest : Bytes) :
    readMember [m] m.name (found ofText none)
        (bytes b ++ 0x3A :: (bytes c ++ (bytes v ++ rest))) =
      ⟨.ok (found ofText (some value)), rest⟩ := by
  have hmember : readInto? [m] m.name (found ofText none) =
      some (do pure (some (← memberValue m.name m.read), ())) :=
    if_pos rfl
  rw [readMember, hmember]
  exact bind_of_ok (memberValue_of_spaces hb (hm hc hv rest))

end

/-- Another member with the name is a fault. -/
theorem readMember_of_some (ofText : String → m.Value) (o : String) (s : Bytes) :
    ∃ e, readMember [m] m.name (found ofText (some o)) s = ⟨.error e, s⟩ := by
  have hmember : readInto? [m] m.name (found ofText (some o)) =
      some (failSomewhere (.mismatched (.duplicate m.name))) :=
    if_pos rfl
  rw [readMember, hmember]
  exact ⟨_, rfl⟩

theorem bytes_member (e a n b c v u : List Char) (first : Bool) (s : Bytes) :
    bytes (e ++ comma first ++ (a ++ n ++ b ++ ':' :: c ++ v) ++ u) ++ s =
      bytes e ++ (bytes (comma first) ++ (bytes a ++ (bytes n ++
        (bytes b ++ 0x3A :: (bytes c ++ (bytes v ++ (bytes u ++ s))))))) := by
  simp only [bytes_append, bytes_cons_ascii (c := ':') (by decide), List.append_assoc,
    List.cons_append]
  rfl

/-- The texts with the name are counted: one of them at most may be found. -/
theorem readMembers_of_spells (hm : m.ReadsTexts ofText) {first : Bool}
    {fields : List (String × String)} {t : List Char} (h : SpellsMembers first fields t)
    (d : Option String) {steps : Bytes} (hsteps : fields.length < steps.length) (rest : Bytes) :
    (∀ o : Option String, d.toList ++ textsOf m.name fields = o.toList →
      readMembers [m] steps first (found ofText d) (bytes t ++ 0x7D :: rest) =
        ⟨.ok (found ofText o), 0x7D :: rest⟩) ∧
    (2 ≤ (d.toList ++ textsOf m.name fields).length → ∃ e s,
      readMembers [m] steps first (found ofText d) (bytes t ++ 0x7D :: rest) = ⟨.error e, s⟩) := by
  induction h generalizing d steps with
  | @nil first t he =>
    cases steps with
    | nil => cases hsteps
    | cons x steps =>
      have hread : readMembers [m] (x :: steps) first (found ofText d) (bytes t ++ 0x7D :: rest) =
          ⟨.ok (found ofText d), 0x7D :: rest⟩ := by
        rw [readMembers]
        exact bind_of_ok (nextKey_of_spaces_end first he rest)
      refine ⟨fun o ho => ?_, fun htwo => ?_⟩
      · obtain rfl : d = o := by cases d <;> cases o <;> simp_all [textsOf]
        exact hread
      · cases d <;> simp [textsOf] at htwo
  | @cons first field fields e t u he h hs ih =>
    cases steps with
    | nil => cases hsteps
    | cons x steps =>
      obtain @⟨key, value, a, n, b, c, v, ha, hn, hb, hc, hv⟩ := h
      have hsteps' : fields.length < steps.length := Nat.lt_of_succ_lt_succ hsteps
      rw [bytes_member, readMembers_key he ha hn]
      by_cases hkey : key = m.name
      · subst hkey
        cases d with
        | none =>
          rw [bind_of_ok (readMember_of_none hb hc hv hm _)]
          simpa using ih (some value) hsteps'
        | some o =>
          obtain ⟨fault, hfault⟩ := readMember_of_some ofText o
            (bytes b ++ 0x3A :: (bytes c ++ (bytes v ++ (bytes u ++ 0x7D :: rest))))
          rw [bind_of_error hfault]
          refine ⟨fun o' ho => ?_, fun _ => ⟨fault, _, rfl⟩⟩
          cases o' <;> simp at ho
      · rw [bind_of_ok (readMember_of_ne hb hc hv hkey _ _)]
        rw [textsOf_cons_of_ne hkey]
        exact ih d hsteps'

theorem SpellsMembers.length_le {first : Bool} {fields : List (String × String)} {t : List Char}
    (h : SpellsMembers first fields t) : fields.length ≤ (bytes t).length := by
  induction h with
  | nil => exact Nat.zero_le _
  | cons _ h _ ih =>
    obtain ⟨-, -, -, -, -⟩ := h
    simp only [bytes_append, bytes_cons_ascii (c := ':') (by decide), List.length_append,
      List.length_cons]
    omega

/-- An object is read as the value of the one text with the name, or of none; two are a fault. -/
theorem readValues_of_spells (hm : m.ReadsTexts ofText) (record : String)
    {fields : List (String × String)} {t : List Char} (h : SpellsObject fields t) (rest : Bytes) :
    (∀ o : Option String, textsOf m.name fields = o.toList →
      ∀ v, (o.map ofText <|> m.absent) = some v →
        readValues record [m] (bytes t ++ rest) = ⟨.ok (v, ()), rest⟩) ∧
    (2 ≤ (textsOf m.name fields).length →
      ∃ e s, readValues record [m] (bytes t ++ rest) = ⟨.error e, s⟩) := by
  obtain @⟨t, h⟩ := h
  have hsteps : fields.length < (0 :: (bytes t ++ 0x7D :: rest)).length := by
    have hlength := h.length_le
    simp only [List.length_cons, List.length_append]
    omega
  obtain ⟨hone, htwo⟩ := readMembers_of_spells hm h none hsteps rest
  have hopen : readValues record [m] (bytes ('\x7b' :: t ++ ['\x7d']) ++ rest) =
      closedBy (fun s => (readMembers [m] (0 :: s) true (found ofText none)).bind
        (complete [m]) s) endOfObject (bytes t ++ 0x7D :: rest) := by
    unfold readValues
    rw [List.cons_append, bytes_cons_ascii (by decide), List.cons_append,
      aheadOfSpace_bind _ (by decide), bytes_append, List.append_assoc]
    rfl
  rw [hopen]
  refine ⟨fun o ho v hv => ?_, fun hlength => ?_⟩
  · have hcomplete : complete [m] (found ofText o) (0x7D :: rest) =
        ⟨.ok (v, ()), 0x7D :: rest⟩ := by
      simp only [complete, found, hv]
      rfl
    have hend : endOfObject (0x7D :: rest) = ⟨.ok (), rest⟩ := by
      unfold endOfObject
      rw [aheadOfSpace_bind _ (by decide)]
      rfl
    exact closedBy_of_ok ((bind_of_ok (hone o ho)).trans hcomplete) hend
  · obtain ⟨e, s, herror⟩ := htwo hlength
    exact closedBy_of_error (bind_of_error herror)

variable {α : Type} {record : String} {build : Values [m] → α} {values : α → Values [m]}
  {fields : List (String × String)} {t : List Char}

/-- The same for a whole input. -/
theorem decode_of_spells (hm : m.ReadsTexts ofText) (h : SpellsObject fields t) :
    (∀ o : Option String, textsOf m.name fields = o.toList →
      ∀ v, (o.map ofText <|> m.absent) = some v →
        (Json.record record [m] build values).decode (bytes t) = .ok (build (v, ()))) ∧
    (2 ≤ (textsOf m.name fields).length → ∃ fault,
      (Json.record record [m] build values).decode (bytes t) = .error fault) := by
  obtain ⟨hone, htwo⟩ := readValues_of_spells hm record h []
  rw [List.append_nil] at hone htwo
  refine ⟨fun o ho v hv => ?_, fun hlength => ?_⟩
  · have hread : (Json.record record [m] build values).read (bytes t) =
        ⟨.ok (build (v, ())), []⟩ :=
      bind_of_ok (hone o ho v hv)
    exact congrArg Reading.result (bind_of_ok hread)
  · obtain ⟨e, s, herror⟩ := htwo hlength
    have hread : (Json.record record [m] build values).read (bytes t) = ⟨.error e, s⟩ :=
      bind_of_error herror
    exact ⟨e, congrArg Reading.result (bind_of_error hread)⟩

/-- At the start of an input, behind blanks, an object with one text is decoded. -/
theorem decodeStart_of_spells (hm : m.ReadsTexts ofText) (h : SpellsObject fields t)
    {value : String} (hvalue : textsOf m.name fields = [value]) {a : List Char} (ha : Spaces a)
    (rest : Bytes) :
    (Json.record record [m] build values).decodeStart (bytes a ++ (bytes t ++ rest)) =
      .ok (build (ofText value, ())) := by
  have hspaces : readValues record [m] (bytes a ++ (bytes t ++ rest)) =
      readValues record [m] (bytes t ++ rest) :=
    aheadOfSpace_spaces _ ha _
  have hread := (readValues_of_spells hm record h rest).1 (some value) hvalue _ rfl
  exact congrArg Reading.result (bind_of_ok (hspaces.trans hread))

end

/-! ### All lists can be written -/

theorem spellsChar_escaped (c : Char) : SpellsChar c (escaped c) := by
  unfold escaped
  split_ifs with h1 h2 h3 h4 h5 h6 h7 h8
  · exact .letter (by rw [h1]; decide)
  · exact .letter (by rw [h2]; decide)
  · exact .letter (by rw [h3]; decide)
  · exact .letter (by rw [h4]; decide)
  · exact .letter (by rw [h5]; decide)
  · exact .letter (by rw [h6]; decide)
  · exact .letter (by rw [h7]; decide)
  · refine .number (.digits (p := 0) (q := 0) (by decide) (by decide) (Hex.value?_lower _)
      (Hex.value?_lower _) ?_)
    rw [Hex.digit, Hex.digit, Fin.val_ofNat, Fin.val_ofNat]
    simp only [Fin.val_zero]
    omega
  · exact .itself (Nat.not_lt.1 h8) h1 h2

theorem spellsText_quoted (s : String) : SpellsText s (quoted s) := by
  refine .quoted ?_
  induction s.toList with
  | nil => exact .nil
  | cons c cs ih => exact .cons (spellsChar_escaped c) ih

theorem exists_spellsMembers (first : Bool) (fields : List (String × String)) :
    ∃ t, SpellsMembers first fields t := by
  induction fields generalizing first with
  | nil => exact ⟨[], .nil spaces_nil⟩
  | cons field fields ih =>
    obtain ⟨t, ht⟩ := ih false
    exact ⟨_, .cons spaces_nil (.member spaces_nil (spellsText_quoted field.1) spaces_nil spaces_nil
      (spellsText_quoted field.2)) ht⟩

theorem exists_spellsObject (fields : List (String × String)) : ∃ t, SpellsObject fields t :=
  let ⟨_, ht⟩ := exists_spellsMembers true fields
  ⟨_, .braces ht⟩

end Daybook.Json
