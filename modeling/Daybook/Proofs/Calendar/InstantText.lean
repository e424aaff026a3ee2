import Daybook.Calendar.Instant
import Daybook.Proofs.Calendar.Months

/-!
# Reading the text of a moment

The text of a moment is read back as that moment, whatever its year and fraction: the numerals have
the places that the reader looks for, or end where no digit follows.  What is read has a leap second
at the end of a minute only, since an offset is a number of whole minutes.  So a moment with a leap
second at another place is not read back.

## Main definitions

* `Instant.IsProper` : a moment has a leap second at the end of a minute only.

## Main results

* `Instant.year?_yearText`, `Instant.field?_padded`, `Instant.fraction?_fractionText` : the parts of
  the text.
* `Instant.isProper_of_parse?` : what is read is proper.
* `Instant.parse?_text_iff` : the text of a moment is read as that moment if it is proper, and only
  then.
-/

namespace Daybook

namespace Text

theorem trimStart_cons {c : Char} (h : isBlank c = false) (s : List Char) :
    trimStart (c :: s) = c :: s :=
  List.dropWhile_cons_of_neg (by simp [h])

theorem isBlank_of_isDigit {c : Char} (h : c.isDigit = true) : isBlank c = false := by
  obtain ⟨hlow, hhigh⟩ := Decimal.toNat_of_isDigit h
  simp only [isBlank, Bool.or_eq_false_iff, Bool.and_eq_false_iff, decide_eq_false_iff_not,
    beq_eq_false_iff_ne]
  omega

/-- No blanks come before a numeral. -/
theorem trimStart_padded (width n : Nat) (rest : List Char) :
    trimStart (Decimal.padded width n ++ rest) = Decimal.padded width n ++ rest := by
  cases hn : Decimal.padded width n with
  | nil => exact absurd hn (Decimal.padded_ne_nil width n)
  | cons c cs =>
    have hc : c.isDigit = true := Decimal.isDigit_of_mem_padded c (hn ▸ List.mem_cons_self)
    exact trimStart_cons (isBlank_of_isDigit hc) _

end Text

namespace Instant

/-! ### The parts of the text -/

/-- A run of digits is taken whole, when it has as many places as may be taken or ends before. -/
theorem number?_padded {limit width n : Nat} {rest : List Char}
    (hle : (Decimal.padded width n).length ≤ limit)
    (h : (Decimal.padded width n).length = limit ∨ ∀ c ∈ rest.head?, c.isDigit = false) :
    number? limit (Decimal.padded width n ++ rest) = some (n, rest) := by
  have hnone : (rest.take (limit - (Decimal.padded width n).length)).takeWhile Char.isDigit =
      [] := by
    rcases h with hlength | hrest
    · rw [hlength, Nat.sub_self, List.take_zero, List.takeWhile_nil]
    · cases rest with
      | nil => simp
      | cons c rest =>
        have hc := hrest c rfl
        cases limit - (Decimal.padded width n).length <;> simp [hc]
  have hrun : ((Decimal.padded width n ++ rest).take limit).takeWhile Char.isDigit =
      Decimal.padded width n := by
    rw [List.take_append, List.take_of_length_le hle,
      List.takeWhile_append_of_pos Decimal.isDigit_of_mem_padded, hnone, List.append_nil]
  simp only [number?, hrun, Decimal.read?_padded, Option.map_some, List.drop_left]

/-- A field of two places is read. -/
theorem field?_padded {n : Nat} (h : n < 10 ^ 2) (rest : List Char) :
    field? (Decimal.padded 2 n ++ rest) = some (n, rest) := by
  have hlength := Decimal.length_padded (by decide) h
  rw [field?, Text.trimStart_padded]
  exact number?_padded (Nat.le_of_eq hlength) (.inl hlength)

theorem separator?_cons {c : Char} (h : Text.isBlank c = false) (rest : List Char) :
    separator? c (c :: rest) = some rest := by
  simp only [separator?, Text.trimStart_cons h, if_pos]

/-- A year of four places is read without a sign. -/
theorem year?_padded {n : Nat} (h : n < 10 ^ 4) (rest : List Char) :
    year? (Decimal.padded 4 n ++ rest) = some ((n : Int), rest) := by
  have hlength : (Decimal.padded 4 n).length = 4 := Decimal.length_padded (by decide) h
  have hread : number? 4 (Decimal.padded 4 n ++ rest) = some (n, rest) :=
    number?_padded (Nat.le_of_eq hlength) (.inl hlength)
  have hsign : ∀ c ∈ Decimal.padded 4 n, c ≠ '-' ∧ c ≠ '+' := by
    intro c hc
    have hdigit := Decimal.isDigit_of_mem_padded c hc
    constructor <;> rintro rfl <;> revert hdigit <;> decide
  rw [year?, Text.trimStart_padded]
  cases hn : Decimal.padded 4 n with
  | nil => exact absurd hn (Decimal.padded_ne_nil 4 n)
  | cons c cs =>
    obtain ⟨hminus, hplus⟩ := hsign c (hn ▸ List.mem_cons_self)
    rw [hn] at hread
    simp only [List.cons_append] at hread ⊢
    split
    · next he => exact absurd (List.cons.inj he).1 hminus
    · next he => exact absurd (List.cons.inj he).1 hplus
    · rw [hread, Option.map_some]

/-- A year is read, with its sign if it has one. -/
theorem year?_yearText (year : Int) (rest : List Char) :
    year? (yearText year ++ '-' :: rest) = some (year, '-' :: rest) := by
  have hsigned : number? (Decimal.padded 4 year.natAbs ++ '-' :: rest).length
      (Decimal.padded 4 year.natAbs ++ '-' :: rest) = some (year.natAbs, '-' :: rest) :=
    number?_padded (by simp) (.inr (by simp))
  unfold yearText
  split_ifs with hfour hneg
  · rw [year?_padded (by omega), Int.natAbs_of_nonneg hfour.1]
  · rw [List.cons_append, year?, Text.trimStart_cons (by decide)]
    simp only [hsigned, Option.map_some]
    rw [show -(year.natAbs : Int) = year by omega]
  · rw [List.cons_append, year?, Text.trimStart_cons (by decide)]
    simp only [hsigned, Option.map_some]
    rw [show (year.natAbs : Int) = year by omega]

/-- Places after the point are counted in nanoseconds. -/
theorem fraction?_padded {width n : Nat} (hpos : 0 < width) (hle : width ≤ 9)
    (hn : n < 10 ^ width) :
    fraction? ('.' :: Decimal.padded width n ++ ['Z']) = some (n * 10 ^ (9 - width), ['Z']) := by
  have hlength := Decimal.length_padded hpos hn
  have hrun : (Decimal.padded width n ++ ['Z']).takeWhile Char.isDigit =
      Decimal.padded width n := by
    rw [List.takeWhile_append_of_pos Decimal.isDigit_of_mem_padded]
    simp
  have hcounted : (Decimal.padded width n).take 9 = Decimal.padded width n :=
    List.take_of_length_le (by omega)
  simp only [List.cons_append, fraction?, hrun, hcounted, Decimal.read?_padded, Option.map_some,
    hlength, List.drop_left' hlength, Nat.pow_eq]

/-- A fraction is read to the nanosecond. -/
theorem fraction?_fractionText {nanos : Nat} (h : nanos < 10 ^ 9) :
    fraction? (fractionText nanos ++ ['Z']) = some (nanos, ['Z']) := by
  unfold fractionText
  split_ifs with hzero hmillis hmicros
  · rw [hzero]
    rfl
  · rw [fraction?_padded (by decide) (by decide) (by omega),
      show nanos / 1000000 * 10 ^ (9 - 3) = nanos by omega]
  · rw [fraction?_padded (by decide) (by decide) (by omega),
      show nanos / 1000 * 10 ^ (9 - 6) = nanos by omega]
  · rw [fraction?_padded (by decide) (by decide) h, Nat.sub_self, Nat.pow_zero, Nat.mul_one]

/-! ### The moment -/

/-- The day of a moment is representable. -/
theorem inRange_date (t : Instant) : t.date.InRange := by
  let last : Date := ⟨lastYear, 12, 31⟩
  have hfirst : Date.first.Valid ∧ firstSecond / 86400 = Date.first.dayNumber := by decide
  have hlast : last.Valid ∧ lastSecond / 86400 = last.dayNumber := by decide
  have hnumber : t.date.dayNumber = t.seconds / 86400 := Date.dayNumber_ofDayNumber _
  obtain ⟨hlow, hhigh⟩ := t.seconds_inRange
  exact Date.inRange_of_dayNumber_le (Date.valid_ofDayNumber _) hfirst.1 hlast.1 (by omega)
    (by omega) (by decide) (by decide)

/-- A moment is *proper* when its nanoseconds go beyond a second only at the end of a minute, where
a leap second may stand. -/
def IsProper (t : Instant) : Prop :=
  t.nanos < 1000000000 ∨ t.seconds % 60 = 59

instance (t : Instant) : Decidable t.IsProper :=
  inferInstanceAs (Decidable (_ ∨ _))

/-- The fields of a proper moment make up the moment. -/
theorem ofFields?_eq {t : Instant} (h : t.IsProper) :
    ofFields? t.date.year t.date.month t.date.day ((t.seconds % 86400).toNat / 3600)
      ((t.seconds % 86400).toNat / 60 % 60)
      ((t.seconds % 86400).toNat % 60 + t.nanos / 1000000000) (t.nanos % 1000000000) 0 =
        some t := by
  have hdate : Date.ofYmd? t.date.year t.date.month t.date.day = some t.date :=
    Date.ofYmd?_eq_some_iff.2 ⟨rfl, Date.valid_ofDayNumber _, t.inRange_date⟩
  have hnumber : t.date.dayNumber = t.seconds / 86400 := Date.dayNumber_ofDayNumber _
  have hnanos := t.nanos_inRange
  rw [IsProper] at h
  -- the second is the sixtieth just when it is a leap second
  have hleap : ((t.seconds % 86400).toNat % 60 + t.nanos / 1000000000) / 60 =
      t.nanos / 1000000000 := by omega
  have hof : of? t.seconds t.nanos = some t := by
    rw [of?, dif_pos t.seconds_inRange, dif_pos hnanos]
  have hfields : (t.seconds % 86400).toNat / 3600 < 24 ∧ (t.seconds % 86400).toNat / 60 % 60 < 60 ∧
      (t.seconds % 86400).toNat % 60 + t.nanos / 1000000000 ≤ 60 ∧ (-86400 : Int) < 0 ∧
        (0 : Int) < 86400 := by omega
  simp only [ofFields?, hdate, Option.bind_eq_bind, Option.bind_some, hleap, if_pos hfields,
    hnumber, Nat.add_sub_cancel]
  rw [← hof]
  congr 1
  · omega
  · omega

/-- The text of a proper moment is read as that moment. -/
theorem parse?_text {t : Instant} (h : t.IsProper) : parse? t.text = some t := by
  obtain ⟨hmonth, hday⟩ : t.date.month < 10 ^ 2 ∧ t.date.day < 10 ^ 2 :=
    (Date.valid_ofDayNumber _).lt_hundred
  have hhour : (t.seconds % 86400).toNat / 3600 < 10 ^ 2 := by omega
  have hminute : (t.seconds % 86400).toNat / 60 % 60 < 10 ^ 2 := by omega
  have hsecond : (t.seconds % 86400).toNat % 60 + t.nanos / 1000000000 < 10 ^ 2 := by
    have hnanos := t.nanos_inRange
    omega
  have hfraction : t.nanos % 1000000000 < 10 ^ 9 := by omega
  have hhyphen (rest : List Char) : separator? '-' ('-' :: rest) = some rest :=
    separator?_cons (by decide) rest
  have hcolon (rest : List Char) : separator? ':' (':' :: rest) = some rest :=
    separator?_cons (by decide) rest
  have hoffset : offset? (Text.trimStart ['Z']) = some (0, []) := by decide
  have hend : Text.trimStart [] = [] := rfl
  simp only [parse?, text, String.toList_ofList, chars, List.append_assoc, List.cons_append,
    Option.bind_eq_bind, Option.bind_some, year?_yearText, hhyphen, field?_padded hmonth,
    field?_padded hday, field?_padded hhour, hcolon, field?_padded hminute, field?_padded hsecond,
    fraction?_fractionText hfraction, hoffset, hend, if_pos]
  exact ofFields?_eq h

/-! ### What is read -/

section

variable {s rest : List Char}

/-- A fraction that is read is less than a second. -/
theorem lt_of_fraction? {n : Nat} (h : fraction? s = some (n, rest)) : n < 1000000000 := by
  unfold fraction? at h
  split at h
  · next r =>
    obtain ⟨k, hk, he⟩ := Option.map_eq_some_iff.1 h
    obtain ⟨rfl, -⟩ := Prod.mk.inj he
    have hlt := Decimal.lt_of_read? hk
    have hle : ((r.takeWhile Char.isDigit).take 9).length ≤ 9 := List.length_take_le 9 _
    calc k * 10 ^ (9 - ((r.takeWhile Char.isDigit).take 9).length)
        < 10 ^ ((r.takeWhile Char.isDigit).take 9).length *
            10 ^ (9 - ((r.takeWhile Char.isDigit).take 9).length) :=
          Nat.mul_lt_mul_of_pos_right hlt (Nat.pow_pos (by decide))
      _ = 10 ^ 9 := by rw [← Nat.pow_add, Nat.add_sub_cancel' hle]
  · cases h
    decide

/-- Hours and minutes are a number of whole minutes. -/
theorem mod_sixty_of_hoursAndMinutes? {n : Int} (h : hoursAndMinutes? s = some (n, rest)) :
    n % 60 = 0 := by
  unfold hoursAndMinutes? at h
  split at h
  · obtain ⟨hours, -, h⟩ := Option.bind_eq_some_iff.1 h
    split at h
    · obtain ⟨minutes, -, h⟩ := Option.bind_eq_some_iff.1 h
      split at h
      · cases h
        omega
      · cases h
    · cases h
  · cases h

/-- So is an offset. -/
theorem mod_sixty_of_offset? {n : Int} (h : offset? s = some (n, rest)) : n % 60 = 0 := by
  have hneg {r : List Char}
      (h : ((hoursAndMinutes? r).map fun x => (-x.1, x.2)) = some (n, rest)) : n % 60 = 0 := by
    obtain ⟨⟨k, r'⟩, hk, he⟩ := Option.map_eq_some_iff.1 h
    obtain ⟨rfl, -⟩ := Prod.mk.inj he
    have hminutes := mod_sixty_of_hoursAndMinutes? hk
    omega
  unfold offset? at h
  split at h
  · cases h
    rfl
  · split at h
    · cases h
      rfl
    · cases h
      rfl
    · exact mod_sixty_of_hoursAndMinutes? h
    · exact hneg h
    · exact hneg h
    · cases h

end

/-- A sixtieth second ends a minute of universal time too, if the offset is a number of whole
minutes. -/
theorem isProper_of_ofFields? {year : Int} {month day hour minute second nanos : Nat} {offset : Int}
    {t : Instant} (hnanos : nanos < 1000000000) (hoffset : offset % 60 = 0)
    (h : ofFields? year month day hour minute second nanos offset = some t) : t.IsProper := by
  obtain ⟨d, -, h⟩ := Option.bind_eq_some_iff.1 h
  split at h
  · next hfields =>
    dsimp only [of?] at h
    split_ifs at h
    cases h
    rw [IsProper]
    dsimp only
    omega
  · cases h

/-- What is read is proper. -/
theorem isProper_of_parse? {s : String} {t : Instant} (h : parse? s = some t) : t.IsProper := by
  obtain ⟨⟨year, _⟩, -, h⟩ := Option.bind_eq_some_iff.1 h
  obtain ⟨_, -, h⟩ := Option.bind_eq_some_iff.1 h
  obtain ⟨⟨month, _⟩, -, h⟩ := Option.bind_eq_some_iff.1 h
  obtain ⟨_, -, h⟩ := Option.bind_eq_some_iff.1 h
  obtain ⟨⟨day, _⟩, -, h⟩ := Option.bind_eq_some_iff.1 h
  dsimp -zeta only at h
  extract_lets timeOfDay at h
  have htime {r : List Char} (h : timeOfDay r = some t) : t.IsProper := by
    obtain ⟨⟨hour, _⟩, -, h⟩ := Option.bind_eq_some_iff.1 h
    obtain ⟨_, -, h⟩ := Option.bind_eq_some_iff.1 h
    obtain ⟨⟨minute, _⟩, -, h⟩ := Option.bind_eq_some_iff.1 h
    obtain ⟨_, -, h⟩ := Option.bind_eq_some_iff.1 h
    obtain ⟨⟨second, _⟩, -, h⟩ := Option.bind_eq_some_iff.1 h
    obtain ⟨⟨nanos, _⟩, hnanos, h⟩ := Option.bind_eq_some_iff.1 h
    obtain ⟨⟨offset, _⟩, hoffset, h⟩ := Option.bind_eq_some_iff.1 h
    split at h
    · exact isProper_of_ofFields? (lt_of_fraction? hnanos) (mod_sixty_of_offset? hoffset) h
    · cases h
  -- one of three characters stands between the day and the time of day
  split at h
  · exact htime h
  · exact htime h
  · exact htime h
  · cases h

/-- The text of a moment is read as that moment if it is proper, and only then. -/
theorem parse?_text_iff {t : Instant} : parse? t.text = some t ↔ t.IsProper :=
  ⟨isProper_of_parse?, parse?_text⟩

/-- Other spellings are read as well, and written in the one way. -/
example : (parse? "2014-1-5 12:00:00.5+09:00").map text = some "2014-01-05T03:00:00.500Z" := by
  decide

end Instant

end Daybook
