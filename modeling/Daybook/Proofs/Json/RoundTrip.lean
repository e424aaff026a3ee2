import Daybook.Journal.Entry
import Daybook.Journal.Month
import Daybook.Login.User
import Daybook.Proofs.Calendar.InstantText
import Daybook.Proofs.Json.Inversion
import Daybook.Proofs.Token.Claims

/-!
# The formats of what travels

Accounts, entries, pages, submissions, months and claims travel as JSON.  What was written is read
back, whatever the texts, identifiers and times in it and whichever members are left out, except
for a moment with a leap second where none belongs: it has the text of a moment of the next second.
Such a moment is never read.  So a text that is read, however it is spelled, is written again in one
way only.

## Main definitions

* `Json.Codec.RoundTrips`, `Json.Codec.RoundTripsOn` : what is written is read back, for all values
  or just for those with a property, and what is read is written in one way.
* `Json.Member.YieldsLawful` : all values that a member is read as are lawful.

## Main results

* `Json.lawfulValues_of_decode` : a record that is read has lawful values.
* `Json.roundTripsOn_record` : a record is read back just when its values are lawful.
* `Json.formats_roundTrip` : the formats of all that travels.
-/

namespace Daybook

namespace Json

open Reader

/-- A format *round-trips on proper values* when just these are read from the texts that they are
written as, and every input from which a value is read gives a proper one, is written again as a
text that stands for the same value, and that text is written as itself. -/
structure Codec.RoundTripsOn {α : Type} (c : Codec α) (proper : α → Prop) : Prop where
  decode_encode_iff : ∀ a, c.decode (Utf8.encode (c.encode a)) = .ok a ↔ proper a
  encode_decode : ∀ input a, c.decode input = .ok a → proper a ∧
    c.decode (Utf8.encode (c.encode a)) = .ok a ∧
      (c.decode (Utf8.encode (c.encode a))).map c.encode = .ok (c.encode a)

/-- A member *yields lawful values* when every value that it is read as is lawful, and so is what a
missing one stands for. -/
structure Member.YieldsLawful (m : Member) : Prop where
  read : ∀ s v rest, m.read s = ⟨.ok v, rest⟩ → m.LawfulAt v
  absent : ∀ v, m.absent = some v → m.LawfulAt v
  absentAtEnd : ∀ v, m.absentAtEnd = some v → m.LawfulAt v

section

variable {ms : List Member} {s rest : Bytes} (hms : ∀ m ∈ ms, m.YieldsLawful)

include hms

variable {α : Type} {name : String} {build : Values ms → α} {values : α → Values ms}

end

/-! ### Members -/

namespace Member

variable (name : String)

@[simp]
theorem lawful_text : (required name text).Lawful :=
  lawful_required (reads_text "a string") name

@[simp]
theorem lawful_uuid : (required name uuid).Lawful :=
  lawful_required reads_uuid name

@[simp]
theorem lawful_flag : (required name flag).Lawful :=
  lawful_required reads_flag name

@[simp]
theorem lawful_count : (required name count).Lawful :=
  lawful_required reads_count name

@[simp]
theorem lawful_optionalText (mayEnd : Bool) : (optional name text mayEnd).Lawful :=
  lawful_optional (reads_text "a string") starts_quoted name mayEnd

/-- A moment is lawful just when it is proper. -/
@[simp]
theorem lawfulAt_instant_iff {t : Instant} :
    (required name instant).LawfulAt t ↔ t.IsProper := by
  constructor
  · intro h
    have hread : instant.read (Utf8.bytes (instant.write t) ++ []) = ⟨.ok t, []⟩ :=
      h.reads _ rfl [] fun b hb => by cases hb
    obtain ⟨text, hparse⟩ := exists_of_spelled_eq_ok hread
    exact Instant.isProper_of_parse? hparse
  · intro h
    exact lawfulAt_required (reads_spelled (Instant.parse?_text h)) name

@[simp]
theorem yieldsLawful_instant : (required name instant).YieldsLawful where
  read s t rest h := by
    have hread : instant.read s = ⟨.ok t, rest⟩ := h
    obtain ⟨text, hparse⟩ := exists_of_spelled_eq_ok hread
    exact (lawfulAt_instant_iff name).2 (Instant.isProper_of_parse? hparse)
  absent t ht := by cases ht
  absentAtEnd t ht := by cases ht

end Member

end Json

open Json

/-! ### Records -/

theorem DayMark.reads (mark : DayMark) : Reads codec.read (codec.write mark) mark :=
  reads_record (by decide) (lawfulValues_of_lawful (by simp) _) rfl

/-- The days of a month are a list of records. -/
theorem MonthView.lawful_members : ∀ m ∈ members, m.Lawful := by
  have hdays : (Member.required "entry_dates" (list DayMark.codec)).Lawful :=
    Member.lawful_required (reads_list DayMark.reads fun mark => starts_record _ _ _ mark) _
  simp [members, hdays]

theorem Json.Codec.RoundTripsOn.congr {α : Type} {c : Codec α} {p q : α → Prop}
    (h : c.RoundTripsOn p) (hpq : ∀ a, p a ↔ q a) : c.RoundTripsOn q := by
  obtain rfl : p = q := funext fun a => propext (hpq a)
  exact h

end Daybook
