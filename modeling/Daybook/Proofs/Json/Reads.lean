import Daybook.Json.Codec
import Daybook.Proofs.Text.Decimal
import Daybook.Proofs.Text.Utf8

/-!
# Reading what was written in JSON

A reader *reads* a text as a value when it takes exactly the text and answers the value, wherever
the text stands inside a record or a list.

## Main definitions

* `Json.Reads` : a reader that takes a text for a value.
* `Json.Ends`, `Json.Starts` : what may stand behind a number, and how a value begins.

## Main results

* `Json.reads_text`, `Json.reads_spelled`, `Json.reads_integer`, `Json.reads_count`,
  `Json.reads_flag` : values in one piece.
* `Json.reads_list` : a list, when its elements are read.
-/

namespace Daybook.Json

open Utf8

namespace Reader

variable {α β : Type}

theorem bind_of_ok {x : Reader α} {f : α → Reader β} {s rest : Bytes} {a : α}
    (h : x s = ⟨.ok a, rest⟩) : (x >>= f) s = f a rest := by
  change Reader.bind x f s = _
  simp only [Reader.bind, h]

theorem bind_of_error {x : Reader α} {f : α → Reader β} {s rest : Bytes} {e : Fault}
    (h : x s = ⟨.error e, rest⟩) : (x >>= f) s = ⟨.error e, rest⟩ := by
  change Reader.bind x f s = _
  simp only [Reader.bind, h]

theorem aheadOfSpace_bind (f : Option UInt8 → Reader α) {b : UInt8} (hb : isSpace b = false)
    (s : Bytes) : (aheadOfSpace >>= f) (b :: s) = f (some b) (b :: s) := by
  refine bind_of_ok ?_
  simp [aheadOfSpace, hb]

theorem ahead_bind (f : Option UInt8 → Reader α) (s : Bytes) : (ahead >>= f) s = f s.head? s :=
  rfl

theorem skip_bind (f : Unit → Reader α) (b : UInt8) (s : Bytes) : (skip >>= f) (b :: s) = f () s :=
  rfl

end Reader

open Reader

/-! ### Strings -/

/-- The last two digits of an escape with four digits make up a control character. -/
theorem hexNumber?_numbered : ∀ n < 0x20,
    hexNumber? [0x30, 0x30, UInt8.ofNat (Hex.lower (Hex.digit (n / 16))).toNat,
      UInt8.ofNat (Hex.lower (Hex.digit n)).toNat] = some n := by
  decide

private theorem stringBytes_numbered {n : Nat} (h : n < 0x20) (found tail : Bytes) :
    stringBytes .plain found (bytes (numbered n) ++ tail) =
      stringBytes .plain (reversedBytes (Char.ofNat n) ++ found) tail := by
  have hascii (d : Fin 16) : (Hex.lower d).toNat < 0x80 := by revert d; decide
  have hbytes : bytes (numbered n) = [0x5C, 0x75, 0x30, 0x30,
      UInt8.ofNat (Hex.lower (Hex.digit (n / 16))).toNat,
      UInt8.ofNat (Hex.lower (Hex.digit n)).toNat] := by
    rw [numbered, bytes_cons_ascii (by decide), bytes_cons_ascii (by decide),
      bytes_cons_ascii (by decide), bytes_cons_ascii (by decide), bytes_cons_ascii (hascii _),
      bytes_cons_ascii (hascii _)]
    rfl
  have htrail : isTrailingSurrogate n = false := by simp [isTrailingSurrogate]; omega
  have hlead : isLeadingSurrogate n = false := by simp [isLeadingSurrogate]; omega
  simp [hbytes, stringBytes, hexNumber?_numbered n h, htrail, hlead]

private theorem stringBytes_plain {cs : Bytes} (h : ∀ b ∈ cs, 0x20 ≤ b ∧ b ≠ 0x22 ∧ b ≠ 0x5C)
    (found tail : Bytes) :
    stringBytes .plain found (cs ++ tail) = stringBytes .plain (cs.reverse ++ found) tail := by
  induction cs generalizing found with
  | nil => rfl
  | cons b cs ih =>
    rw [List.forall_mem_cons] at h
    obtain ⟨⟨hlow, hquote, hslash⟩, hcs⟩ := h
    rw [List.cons_append, stringBytes, if_neg hquote, if_neg hslash, if_neg (UInt8.not_lt.2 hlow),
      ih hcs, List.reverse_cons, List.append_assoc]
    rfl

theorem stringBytes_escaped (c : Char) (found tail : Bytes) :
    stringBytes .plain found (bytes (escaped c) ++ tail) =
      stringBytes .plain ((String.utf8EncodeChar c).reverse ++ found) tail := by
  unfold escaped
  split_ifs with h1 h2 h3 h4 h5 h6 h7 h8
  · subst h1; rfl
  · subst h2; rfl
  · subst h3; rfl
  · subst h4; rfl
  · subst h5; rfl
  · subst h6; rfl
  · subst h7; rfl
  · rw [stringBytes_numbered h8, Char.ofNat_toNat]
    rfl
  · have hplain : ∀ b ∈ String.utf8EncodeChar c, 0x20 ≤ b ∧ b ≠ 0x22 ∧ b ≠ 0x5C := by
      intro b hb
      by_cases hascii : c.toNat < 0x80
      · rw [utf8EncodeChar_of_lt hascii, List.mem_singleton] at hb
        have hn : b.toNat = c.toNat := by rw [hb, UInt8.toNat_ofNat']; omega
        have hne (d : Char) (hd : c ≠ d) : c.toNat ≠ d.toNat := fun he => hd (Char.toNat_inj.1 he)
        simp only [UInt8.le_iff_toNat_le, ne_eq, ← UInt8.toNat_inj, hn]
        exact ⟨Nat.not_lt.1 h8, hne '"' h1, hne '\\' h2⟩
      · have hhigh := UInt8.le_iff_toNat_le.1 (le_of_mem_utf8EncodeChar (Nat.not_lt.1 hascii) hb)
        simp only [UInt8.le_iff_toNat_le, ne_eq, ← UInt8.toNat_inj]
        simp only [UInt8.reduceToNat] at hhigh ⊢
        omega
    rw [show bytes [c] = String.utf8EncodeChar c from List.append_nil _, stringBytes_plain hplain]

theorem stringBytes_quoted (cs : List Char) (found tail : Bytes) :
    stringBytes .plain found (bytes (cs.flatMap escaped) ++ tail) =
      stringBytes .plain ((bytes cs).reverse ++ found) tail := by
  induction cs generalizing found with
  | nil => rfl
  | cons c cs ih =>
    rw [List.flatMap_cons, bytes_append, List.append_assoc, stringBytes_escaped, ih, bytes_cons,
      List.reverse_append, List.append_assoc]

/-- A quoted text is read back. -/
theorem string_quoted (s : String) (rest : Bytes) :
    string (bytes (s.toList.flatMap escaped) ++ 0x22 :: rest) = ⟨.ok s, rest⟩ := by
  have hread : stringBytes .plain [] (bytes (s.toList.flatMap escaped) ++ 0x22 :: rest) =
      ⟨.ok (Utf8.encode s), rest⟩ := by
    rw [stringBytes_quoted, stringBytes, if_pos rfl, List.append_nil, List.reverse_reverse,
      bytes_toList]
  simp only [string, hread, Utf8.decode?_encode]

/-! ### Values inside a record or a list -/

/-- A value is over: the input ends, or a comma or a closing bracket follows. -/
def Ends (rest : Bytes) : Prop :=
  ∀ b ∈ rest.head?, b = 0x2C ∨ b = 0x5D ∨ b = 0x7D

/-- A reader *reads* a text as a value when it takes just the text, wherever the value is over after
it. -/
def Reads {α : Type} (r : Reader α) (t : List Char) (a : α) : Prop :=
  ∀ rest, Ends rest → r (bytes t ++ rest) = ⟨.ok a, rest⟩

theorem bytes_quoted (s : String) :
    bytes (quoted s) = 0x22 :: (bytes (s.toList.flatMap escaped) ++ [0x22]) := by
  rw [quoted, List.cons_append, bytes_cons_ascii (by decide), bytes_append]
  rfl

theorem reads_text (expected : String) (s : String) : Reads (readText expected) (quoted s) s := by
  intro rest _
  rw [bytes_quoted, List.cons_append, List.append_assoc, readText,
    aheadOfSpace_bind _ (by decide)]
  exact string_quoted s rest

theorem reads_spelled {α : Type} {expected reason : String} {parse? : String → Option α}
    {spell : α → String} {a : α} (h : parse? (spell a) = some a) :
    Reads (spelled expected reason parse? spell).read
      ((spelled expected reason parse? spell).write a) a := by
  intro rest hrest
  simp only [spelled]
  rw [bind_of_ok (reads_text expected (spell a) rest hrest), h]
  rfl

/-! ### Integers -/

theorem ends_cases {rest : Bytes} (h : Ends rest) :
    rest = [] ∨ ∃ b s, rest = b :: s ∧ (b = 0x2C ∨ b = 0x5D ∨ b = 0x7D) := by
  cases rest with
  | nil => exact .inl rfl
  | cons b s => exact .inr ⟨b, s, rfl, h b rfl⟩

theorem afterDigits_of_ends {rest : Bytes} (h : Ends rest) (negative : Bool) (significand : Nat) :
    afterDigits negative false significand 0 rest =
      afterDigits.whole negative false significand 0 rest := by
  unfold afterDigits
  rw [ahead_bind]
  rcases ends_cases h with rfl | ⟨b, s, rfl, rfl | rfl | rfl⟩ <;> rfl

theorem ofDigitChars_ge (cs : List Char) (acc : Nat) : acc ≤ Nat.ofDigitChars 10 cs acc := by
  induction cs generalizing acc with
  | nil => exact Nat.le_refl _
  | cons c cs ih =>
    rw [Nat.ofDigitChars_cons]
    have := ih (10 * acc + (c.toNat - '0'.toNat))
    omega

/-- The byte of a digit. -/
theorem bytes_cons_digit {c : Char} (h : c.isDigit = true) (cs : List Char) :
    ∃ b, bytes (c :: cs) = b :: bytes cs ∧ isDigit b = true ∧
      digitValue b = c.toNat - '0'.toNat := by
  obtain ⟨hlow, hhigh⟩ := Decimal.toNat_of_isDigit h
  have hn : (UInt8.ofNat c.toNat).toNat = c.toNat := by rw [UInt8.toNat_ofNat']; omega
  refine ⟨UInt8.ofNat c.toNat, bytes_cons_ascii (by omega) cs, ?_, ?_⟩
  · simp only [isDigit, Bool.and_eq_true, decide_eq_true_eq, UInt8.le_iff_toNat_le, hn]
    exact ⟨hlow, hhigh⟩
  · rw [digitValue, hn]
    rfl

theorem wholeDigits_digits {cs : List Char} (hcs : ∀ c ∈ cs, c.isDigit = true) (negative : Bool)
    {acc : Nat} (hlimit : Nat.ofDigitChars 10 cs acc ≤ significandLimit) {rest : Bytes}
    (h : Ends rest) :
    wholeDigits negative false acc 0 (bytes cs ++ rest) =
      afterDigits.whole negative false (Nat.ofDigitChars 10 cs acc) 0 rest := by
  induction cs generalizing acc with
  | nil =>
    rw [bytes_nil, List.nil_append, Nat.ofDigitChars_nil, ← afterDigits_of_ends h]
    rcases ends_cases h with rfl | ⟨b, s, rfl, rfl | rfl | rfl⟩ <;> rfl
  | cons c cs ih =>
    rw [List.forall_mem_cons] at hcs
    obtain ⟨b, hb, hdigit, hvalue⟩ := bytes_cons_digit hcs.1 cs
    rw [Nat.ofDigitChars_cons, Nat.mul_comm, ← hvalue] at hlimit ⊢
    have hle := Nat.le_trans (ofDigitChars_ge cs (acc * 10 + digitValue b)) hlimit
    rw [hb, List.cons_append, wholeDigits, if_pos hdigit]
    simp only [Bool.false_or, decide_eq_true_eq, if_neg (Nat.not_lt.2 hle)]
    exact ih hcs.2 hlimit

/-- The bytes of a positive number: a first digit, which is not zero, and further digits. -/
theorem bytes_digits_of_pos {n : Nat} (h : 0 < n) :
    ∃ b cs, bytes (Decimal.digits n) = b :: bytes cs ∧ isDigit b = true ∧ b ≠ 0x30 ∧
      (∀ c ∈ cs, c.isDigit = true) ∧ Nat.ofDigitChars 10 cs (digitValue b) = n := by
  obtain ⟨c, cs, hcs, hc⟩ := Decimal.digits_eq_cons h
  have hall : ∀ d ∈ c :: cs, d.isDigit = true := by
    rw [← hcs]
    exact fun d hd => Nat.isDigit_of_mem_toDigits (by decide) (by decide) hd
  rw [List.forall_mem_cons] at hall
  obtain ⟨b, hb, hdigit, hvalue⟩ := bytes_cons_digit hall.1 cs
  have hn : Nat.ofDigitChars 10 cs (digitValue b) = n := by
    have hread := Nat.ofDigitChars_ten_toDigits (n := n)
    rwa [← Decimal.digits, hcs, Nat.ofDigitChars_cons, Nat.mul_zero, Nat.zero_add, ← hvalue]
      at hread
  have hzero : b ≠ 0x30 := by
    rintro rfl
    have hlow : 48 ≤ c.toNat := (Decimal.toNat_of_isDigit hall.1).1
    refine hc (Char.toNat_inj.1 (Nat.le_antisymm ?_ hlow))
    exact Nat.sub_eq_zero_iff_le.1 hvalue.symm
  exact ⟨b, cs, by rw [hcs, hb], hdigit, hzero, hall.2, hn⟩

theorem unsignedNumber_digits (negative : Bool) {n : Nat} (hlimit : n ≤ significandLimit)
    {rest : Bytes} (h : Ends rest) :
    unsignedNumber negative (bytes (Decimal.digits n) ++ rest) =
      afterDigits.whole negative false n 0 rest := by
  unfold unsignedNumber
  rw [ahead_bind]
  rcases Nat.eq_zero_or_pos n with rfl | hpos
  · rw [← afterDigits_of_ends h]
    rcases ends_cases h with rfl | ⟨b, s, rfl, rfl | rfl | rfl⟩ <;> rfl
  · obtain ⟨b, cs, hb, hdigit, hzero, hcs, hn⟩ := bytes_digits_of_pos hpos
    rw [hb, List.cons_append, List.head?_cons]
    dsimp only
    rw [skip_bind, if_neg hzero]
    refine (congrFun (if_pos hdigit) (bytes cs ++ rest)).trans ?_
    rw [wholeDigits_digits hcs negative (hn ▸ hlimit) h, hn]

theorem bytes_digits (n : Nat) :
    ∃ b s, bytes (Decimal.digits n) = b :: s ∧ isDigit b = true := by
  cases hn : Decimal.digits n with
  | nil => exact absurd hn Nat.toDigits_ne_nil
  | cons c cs =>
    have hc : c.isDigit = true := by
      have hmem : c ∈ Decimal.digits n := hn ▸ List.mem_cons_self
      exact Nat.isDigit_of_mem_toDigits (by decide) (by decide) hmem
    obtain ⟨b, hb, hdigit, -⟩ := bytes_cons_digit hc cs
    exact ⟨b, bytes cs, hb, hdigit⟩

theorem ne_minus_of_isDigit {b : UInt8} (h : isDigit b = true) : b ≠ 0x2D := by
  rintro rfl
  exact absurd h (by decide)

/-- The digits of a number within the limit are read as that number. -/
theorem number_digits {n : Nat} (hlimit : n ≤ significandLimit) {rest : Bytes} (h : Ends rest) :
    number (bytes (Decimal.digits n) ++ rest) = ⟨.ok (.natural n), rest⟩ := by
  obtain ⟨b, s, hs, hdigit⟩ := bytes_digits n
  have hahead : (bytes (Decimal.digits n) ++ rest).head? ≠ some 0x2D := by
    rw [hs, List.cons_append, List.head?_cons]
    exact fun he => ne_minus_of_isDigit hdigit (Option.some.inj he)
  unfold number
  rw [ahead_bind, if_neg hahead, unsignedNumber_digits false hlimit h, afterDigits.whole,
    if_neg (by decide), if_pos (by decide)]
  rfl

theorem number_integer (m : Int64) {rest : Bytes} (h : Ends rest) :
    number (bytes (Decimal.integer m.toInt) ++ rest) =
      ⟨.ok (if m.toInt < 0 then .negative m.toInt else .natural m.toInt.natAbs), rest⟩ := by
  have hlow := m.le_toInt
  have hhigh := m.toInt_lt
  generalize m.toInt = n at hlow hhigh ⊢
  have hlimit : n.natAbs ≤ significandLimit := by
    simp only [significandLimit, UInt64.size]
    omega
  rw [Decimal.integer_eq]
  by_cases hneg : n < 0
  · have hbound : ¬(n.natAbs = 0 ∨ Nat.pow 2 63 < n.natAbs) := by
      simp only [Nat.pow_eq]
      omega
    unfold number
    rw [ahead_bind, if_pos hneg, if_pos hneg, bytes_cons_ascii (by decide), List.cons_append]
    refine (unsignedNumber_digits true hlimit h).trans ?_
    rw [afterDigits.whole, if_neg (by decide), if_neg (by decide), if_neg hbound,
      show -(n.natAbs : Int) = n by omega]
    rfl
  · rw [if_neg hneg, if_neg hneg, number_digits hlimit h]

/-- An integer begins with a digit or a minus sign. -/
theorem bytes_integer (n : Int) :
    ∃ b s, bytes (Decimal.integer n) = b :: s ∧ (b = 0x2D ∨ isDigit b = true) := by
  rw [Decimal.integer_eq]
  split_ifs
  · exact ⟨0x2D, _, bytes_cons_ascii (by decide) _, .inl rfl⟩
  · obtain ⟨b, s, hs, hdigit⟩ := bytes_digits n.natAbs
    exact ⟨b, s, hs, .inr hdigit⟩

theorem isSpace_of_isDigit {b : UInt8} (h : b = 0x2D ∨ isDigit b = true) : isSpace b = false := by
  rw [Bool.eq_false_iff]
  intro hb
  simp only [isSpace, Bool.or_eq_true, beq_iff_eq] at hb
  rcases hb with ((rfl | rfl) | rfl) | rfl <;> exact absurd h (by decide)

/-- A number is taken for a value of the type that is expected. -/
theorem readNumber_of_number {α : Type} {expected : String} {accept? : Int → Option α} {b : UInt8}
    (hb : b = 0x2D ∨ isDigit b = true) {n : Number} {s rest : Bytes}
    (h : number (b :: s) = ⟨.ok n, rest⟩) :
    readNumber expected accept? (b :: s) =
      readNumber.accepted expected n
        (match n with
          | .natural k => accept? k
          | .negative k => accept? k
          | .real .. => none) rest := by
  unfold readNumber
  rw [aheadOfSpace_bind _ (isSpace_of_isDigit hb)]
  refine (congrFun (if_pos (by simpa using hb)) _).trans ?_
  rw [bind_of_ok h]
  cases n <;> rfl

/-- An integer of 64 bits is read back. -/
theorem reads_integer (n : Int64) : Reads integer.read (integer.write n) n := by
  intro rest h
  have hlow := n.le_toInt
  have hhigh := n.toInt_lt
  have hmin : Int64.minValue.toInt = -2 ^ 63 := by decide
  have hmax : Int64.maxValue.toInt = 2 ^ 63 - 1 := by decide
  have haccept : (if Int64.minValue.toInt ≤ n.toInt ∧ n.toInt ≤ Int64.maxValue.toInt then
      some (Int64.ofInt n.toInt) else none) = some n := by
    rw [if_pos ⟨by omega, by omega⟩, Int64.ofInt_toInt]
  obtain ⟨b, s, hs, hb⟩ := bytes_integer n.toInt
  have hnumber := number_integer n h
  simp only [integer]
  rw [hs, List.cons_append] at hnumber ⊢
  rw [readNumber_of_number hb hnumber]
  split_ifs with hneg
  · simp only [haccept]
    rfl
  · simp only [show (n.toInt.natAbs : Int) = n.toInt by omega, haccept]
    rfl

/-- An unsigned integer of 64 bits is read back. -/
theorem reads_count (n : UInt64) : Reads count.read (count.write n) n := by
  intro rest h
  have hlt := n.toNat_lt
  have haccept : (if (0 : Int) ≤ n.toNat ∧ (n.toNat : Int) < UInt64.size then
      some (UInt64.ofNat (n.toNat : Int).toNat) else none) = some n := by
    rw [if_pos ⟨by omega, by simp only [UInt64.size]; omega⟩, Int.toNat_natCast,
      UInt64.ofNat_toNat]
  have hlimit : n.toNat ≤ significandLimit := by
    simp only [significandLimit, UInt64.size]
    omega
  obtain ⟨b, s, hs, hdigit⟩ := bytes_digits n.toNat
  have hnumber := number_digits hlimit h
  simp only [count]
  rw [hs, List.cons_append] at hnumber ⊢
  rw [readNumber_of_number (.inr hdigit) hnumber]
  simp only [haccept]
  rfl

/-! ### Truth values -/

/-- A truth value is read back. -/
theorem reads_flag (b : Bool) : Reads flag.read (flag.write b) b := by
  intro rest _
  simp only [flag]
  cases b with
  | true =>
    change (aheadOfSpace >>= _) (0x74 :: 0x72 :: 0x75 :: 0x65 :: rest) = _
    rw [aheadOfSpace_bind _ (by decide)]
    rfl
  | false =>
    change (aheadOfSpace >>= _) (0x66 :: 0x61 :: 0x6C :: 0x73 :: 0x65 :: rest) = _
    rw [aheadOfSpace_bind _ (by decide)]
    rfl

/-! ### Lists -/

theorem separated_cons (t : List Char) (ts : List (List Char)) :
    separated (t :: ts) = t ++ ts.flatMap fun u => ',' :: u := by
  induction ts generalizing t with
  | nil => simp [separated]
  | cons u us ih =>
    rw [List.flatMap_cons, List.cons_append, ← ih]
    rfl

theorem bytes_comma (cs : List Char) : bytes (',' :: cs) = 0x2C :: bytes cs :=
  rfl

/-- A text begins with a byte that is neither a blank nor a closing bracket, nor the first letter of
`null`. -/
def Starts (t : List Char) : Prop :=
  ∃ b s, bytes t = b :: s ∧ isSpace b = false ∧ b ≠ 0x5D ∧ b ≠ 0x6E

theorem starts_quoted (s : String) : Starts (quoted s) :=
  ⟨0x22, _, bytes_quoted s, by decide, by decide, by decide⟩

theorem nextElement_end (first : Bool) (rest : Bytes) :
    nextElement first (0x5D :: rest) = ⟨.ok false, 0x5D :: rest⟩ := by
  unfold nextElement
  rw [aheadOfSpace_bind _ (by decide)]
  rfl

theorem nextElement_first {t : List Char} (h : Starts t) (rest : Bytes) :
    nextElement true (bytes t ++ rest) = ⟨.ok true, bytes t ++ rest⟩ := by
  obtain ⟨b, s, hs, hspace, hend, -⟩ := h
  unfold nextElement
  rw [hs, List.cons_append, aheadOfSpace_bind _ hspace]
  dsimp only
  rw [if_neg hend, if_pos rfl]
  rfl

theorem nextElement_comma {t : List Char} (h : Starts t) (rest : Bytes) :
    nextElement false (0x2C :: (bytes t ++ rest)) = ⟨.ok true, bytes t ++ rest⟩ := by
  obtain ⟨b, s, hs, hspace, hend, -⟩ := h
  unfold nextElement
  rw [hs, List.cons_append, aheadOfSpace_bind _ (by decide)]
  dsimp only
  rw [if_neg (by decide), if_neg (by decide), if_pos rfl, skip_bind, aheadOfSpace_bind _ hspace]
  simp only []
  rfl

theorem inside_of_ok {α : Type} (step : Step) {r : Reader α} {s rest : Bytes} {a : α}
    (h : r s = ⟨.ok a, rest⟩) : inside step r s = ⟨.ok a, rest⟩ := by
  simp only [inside, h]

theorem closedBy_of_ok {α : Type} {r : Reader α} {close : Reader Unit} {s rest rest' : Bytes}
    {a : α} (h : r s = ⟨.ok a, rest⟩) (hclose : close rest = ⟨.ok (), rest'⟩) :
    closedBy r close s = ⟨.ok a, rest'⟩ := by
  simp only [closedBy, h, hclose]

theorem attempt_of_ok {α : Type} {r : Reader α} {s rest : Bytes} {a : α}
    (h : r s = ⟨.ok a, rest⟩) : attempt r s = ⟨.ok (some a), rest⟩ := by
  simp only [attempt, h]

theorem ends_comma (s : Bytes) : Ends (0x2C :: s) := by
  rintro b ⟨⟩
  exact .inl rfl

theorem ends_bracket (s : Bytes) : Ends (0x5D :: s) := by
  rintro b ⟨⟩
  exact .inr (.inl rfl)

theorem ends_brace (s : Bytes) : Ends (0x7D :: s) := by
  rintro b ⟨⟩
  exact .inr (.inr rfl)

/-- The commas count all elements but one. -/
theorem length_le_separated (ts : List (List Char)) :
    ts.length ≤ (bytes (separated ts)).length + 1 := by
  cases ts with
  | nil => exact Nat.zero_le _
  | cons t ts =>
    have hlater : ts.length ≤ (bytes (ts.flatMap fun u => ',' :: u)).length := by
      clear t
      induction ts with
      | nil => exact Nat.zero_le _
      | cons u us ih =>
        rw [List.flatMap_cons, List.cons_append, bytes_comma, bytes_append]
        simp only [List.length_cons, List.length_append]
        omega
    rw [separated_cons, bytes_append, List.length_append, List.length_cons]
    omega

theorem bytes_bracket (cs : List Char) : bytes ('[' :: cs) = 0x5B :: bytes cs :=
  rfl

theorem ends_later {α : Type} {c : Codec α} (as : List α) (rest : Bytes) :
    Ends (bytes (as.flatMap fun a => ',' :: c.write a) ++ 0x5D :: rest) := by
  cases as with
  | nil => exact ends_bracket rest
  | cons b as => exact ends_comma _

section

variable {α : Type} {c : Codec α} (hreads : ∀ a, Reads c.read (c.write a) a)
  (hstarts : ∀ a, Starts (c.write a))

include hreads hstarts

private theorem elements_later (as : List α) {steps : Bytes} (hsteps : as.length < steps.length)
    (i : Nat) (rest : Bytes) :
    elements c.read steps (i + 1)
        (bytes (as.flatMap fun a => ',' :: c.write a) ++ 0x5D :: rest) =
      ⟨.ok as, 0x5D :: rest⟩ := by
  induction as generalizing steps i with
  | nil =>
    cases steps with
    | nil => cases hsteps
    | cons x steps => exact bind_of_ok (nextElement_end false rest)
  | cons a as ih =>
    cases steps with
    | nil => cases hsteps
    | cons x steps =>
      rw [List.flatMap_cons, List.cons_append, bytes_comma, bytes_append, List.cons_append,
        List.append_assoc]
      have hends := ends_later (c := c) as rest
      have hread := inside_of_ok (.element (i + 1)) (hreads a _ hends)
      have hlater := ih (Nat.lt_of_succ_lt_succ hsteps) (i + 1)
      exact (bind_of_ok (nextElement_comma (hstarts a) _)).trans
        ((bind_of_ok hread).trans (bind_of_ok hlater))

private theorem elements_separated (as : List α) {steps : Bytes}
    (hsteps : as.length < steps.length) (rest : Bytes) :
    elements c.read steps 0 (bytes (separated (as.map c.write)) ++ 0x5D :: rest) =
      ⟨.ok as, 0x5D :: rest⟩ := by
  cases steps with
  | nil => cases hsteps
  | cons x steps =>
    cases as with
    | nil => exact bind_of_ok (nextElement_end true rest)
    | cons a as =>
      rw [List.map_cons, separated_cons, List.flatMap_map, bytes_append, List.append_assoc]
      have hends := ends_later (c := c) as rest
      have hread := inside_of_ok (.element 0) (hreads a _ hends)
      have hlater := elements_later hreads hstarts as (Nat.lt_of_succ_lt_succ hsteps) 0 rest
      exact (bind_of_ok (nextElement_first (hstarts a) _)).trans
        ((bind_of_ok hread).trans (bind_of_ok hlater))

/-- A list is read back when its elements are. -/
theorem reads_list (as : List α) : Reads (list c).read ((list c).write as) as := by
  intro rest _
  have hend : endOfList (0x5D :: rest) = ⟨.ok (), rest⟩ := by
    unfold endOfList
    rw [aheadOfSpace_bind _ (by decide)]
    rfl
  have hsteps : as.length <
      (0 :: (bytes (separated (as.map c.write)) ++ 0x5D :: rest)).length := by
    have hlength := length_le_separated (as.map c.write)
    simp only [List.length_map, List.length_cons, List.length_append] at hlength ⊢
    omega
  simp only [list]
  rw [List.cons_append, bytes_bracket, List.cons_append, aheadOfSpace_bind _ (by decide),
    bytes_append, List.append_assoc]
  exact closedBy_of_ok (elements_separated hreads hstarts as hsteps rest) hend

end

end Daybook.Json
