import Daybook.Proofs.Json.Records
import Daybook.Proofs.Json.Skipping
import Daybook.Proofs.Text.Uuid
import Daybook.Token.Claims

/-!
# Reading claims that were written

A token is read twice: once for the claims of a session, and once for what any token may say about
its validity.  Of the claims of a session the second reading finds the time of expiry only.

## Main results

* `Claims.decode_write` : the claims of a session are read back.
* `Claims.decode_registered` : what written claims say about their validity.
-/

namespace Daybook

/-- An identifier is read from the text that it is written as. -/
theorem Json.reads_uuid (u : Uuid) : Reads uuid.read (uuid.write u) u :=
  reads_spelled (Uuid.parse?_text u)

namespace Claims

open Json Reader Utf8

/-! ### The claims of a session -/

theorem lawful_members : ∀ m ∈ members, m.Lawful := by
  simp only [members, List.forall_mem_cons, List.not_mem_nil, false_imp_iff, implies_true, and_true]
  exact ⟨Member.lawful_optional reads_uuid (fun u => starts_quoted _) _ _,
    Member.lawful_listed (reads_text "a string") starts_quoted _,
    Member.lawful_required reads_integer _, Member.lawful_required reads_integer _⟩

/-- The claims of a session are read back. -/
theorem decode_write (c : Claims) : codec.decode (bytes (codec.write c)) = .ok c :=
  decode_of_reads (reads_record (by decide) (lawfulValues_of_lawful lawful_members _) rfl)

/-! ### Registered claims -/

/-- A natural number is a time. -/
theorem reads_time {n : Int64} (h : 0 ≤ n.toInt) :
    Reads time (Decimal.integer n.toInt) (some n.toInt.natAbs) := by
  intro rest hrest
  have hnumber := number_integer n hrest
  obtain ⟨b, s, hs, hdigit⟩ := bytes_digits n.toInt.natAbs
  rw [Decimal.integer_eq, if_neg (Int.not_lt.2 h)] at hnumber ⊢
  rw [if_neg (Int.not_lt.2 h), hs, List.cons_append] at hnumber
  have hany : anyNumber (b :: (s ++ rest)) = ⟨.ok (.natural n.toInt.natAbs), rest⟩ := by
    unfold anyNumber
    rw [aheadOfSpace_bind _ (isSpace_of_isDigit (.inr hdigit))]
    have hother : b ≠ 0x6E ∧ b ≠ 0x74 ∧ b ≠ 0x66 ∧ b ≠ 0x5B ∧ b ≠ 0x7B := by
      refine ⟨?_, ?_, ?_, ?_, ?_⟩ <;> rintro rfl <;> exact absurd hdigit (by decide)
    obtain ⟨h1, h2, h3, h4, h5⟩ := hother
    have hscalar : scalar b (b :: (s ++ rest)) =
        ⟨.ok (.number (.natural n.toInt.natAbs)), rest⟩ := by
      have hnumeral : scalar b = (do pure (.number (← number))) := by
        simp only [scalar, h1, h2, h3, if_false, hdigit, Bool.or_true, if_true]
      rw [hnumeral]
      exact bind_of_ok hnumber
    simp only [h4, h5, if_false]
    exact bind_of_ok hscalar
  rw [hs, List.cons_append]
  unfold time
  exact bind_of_ok (attempt_of_ok hany)

/-- The members of written claims, other than the time of expiry, are none that are registered. -/
theorem fills_registered {c : Claims} (h : 0 ≤ c.expiresAt.toInt) :
    Fills registeredMembers (noDrafts registeredMembers)
      (fields members (c.uid, c.flashes, c.issuedAt, c.expiresAt, ()))
      (some (some c.expiresAt.toInt.natAbs), none, none, none, none, ()) := by
  have hexp : Fills registeredMembers (noDrafts registeredMembers)
      [("exp", Decimal.integer c.expiresAt.toInt)]
      (some (some c.expiresAt.toInt.natAbs), none, none, none, none, ()) :=
    .known (readInto?_of_eq (m := registered "exp" time none true) _)
      (reads_map (fun v => (some v, none, none, none, none, ()))
        (reads_memberValue "exp" (reads_time h))) (.nil _)
  have hunknown (name : String) (hname : name ∉ registeredMembers.map Member.name) {t : List Char}
      (ht : Reads skipValue t ()) {fs : List (String × List Char)}
      (hfs : Fills registeredMembers (noDrafts registeredMembers) fs
        (some (some c.expiresAt.toInt.natAbs), none, none, none, none, ())) :=
    hfs.unknown (readInto?_of_notMem hname _) ht
  have hiat := hunknown "iat" (by decide)
    (skips_of_skippedWhole (skippedWhole_integer c.issuedAt.toInt)) hexp
  have htexts : Reads skipValue ((list text).write c.flashes) () :=
    skips_list (List.forall_mem_map.2 fun f _ => skippedWhole_quoted f)
      (List.forall_mem_map.2 fun f _ => starts_quoted f)
  have hflashes := hunknown "flashes" (by decide) htexts hiat
  have huid (u : Uuid) := skips_of_skippedWhole (skippedWhole_quoted u.text)
  obtain ⟨_ | u, _ | ⟨f, fs⟩, iat, exp⟩ := c
  · exact hiat
  · exact hflashes
  · exact hunknown "uid" (by decide) (huid u) hiat
  · exact hunknown "uid" (by decide) (huid u) hflashes

/-- What written claims say about their validity: when they expire. -/
theorem decode_registered {c : Claims} (h : 0 ≤ c.expiresAt.toInt) (w : Registered → List Char) :
    (Codec.mk readRegistered w).decode (bytes (codec.write c)) =
      .ok ⟨some c.expiresAt.toInt.natAbs, false⟩ := by
  have hcomplete (s : Bytes) : complete registeredMembers
      (some (some c.expiresAt.toInt.natAbs), none, none, none, none, ()) s =
        ⟨.ok (some c.expiresAt.toInt.natAbs, none, none, none, false, ()), s⟩ := rfl
  have hread := readValues_of_fills "RegisteredClaims" (fills_registered h) hcomplete
  have hwrite : codec.write c =
      object (fields members (c.uid, c.flashes, c.issuedAt, c.expiresAt, ())) :=
    write_record _ _ _ c
  rw [hwrite]
  exact decode_of_reads (c := ⟨readRegistered, w⟩)
    (reads_map (fun vs : Values registeredMembers => (⟨vs.1, vs.2.2.2.2.1⟩ : Registered)) hread)

end Claims

end Daybook
