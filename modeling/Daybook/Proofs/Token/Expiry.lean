import Daybook.Proofs.Json.Astray
import Daybook.Proofs.Token.Signing

/-!
# Two readings of one payload

The payload of a token is read for the claims of a session, and once more for the registered claims.
The second reading takes a registered claim that it cannot read for none, and goes on from where it
stopped.  When both readings come to the end of the payload they have met the same members, so they
found the same time of expiry.

## Main definitions

* `Claims.SameExpiry` : what the two readings have found so far agrees.

## Main results

* `Claims.toInt_of_time` : what both readings make of one value.
* `Claims.sameExpiry_readMembers` : what they make of the members of an object.
* `Claims.toInt_expiresAt` : both readings of a payload find the same time of expiry.
-/

namespace Daybook.Claims

open Json Reader

variable {s t rest : Bytes}

/-! ### Times -/

theorem anyNumber_eq_ok {k : Number} (h : anyNumber s = ⟨.ok k, rest⟩) :
    ∃ x t, s.dropWhile isSpace = x :: t ∧ (x = 0x2D ∨ isDigit x = true) ∧
      number (x :: t) = ⟨.ok k, rest⟩ := by
  unfold anyNumber at h
  rw [aheadOfSpace_apply] at h
  generalize s.dropWhile isSpace = u at h ⊢
  cases u with
  | nil => cases h
  | cons x u =>
    rw [List.head?_cons] at h
    dsimp only at h
    split_ifs at h with hsquare hcurly
    · cases h
    · cases h
    · obtain ⟨tree, t, hscalar, h⟩ := exists_of_bind_eq_ok h
      obtain ⟨f, hf, h⟩ := exists_eq_apply h
      split at hf <;> subst hf <;> cases h
      obtain ⟨hx, hnumber⟩ := scalar_eq_number hscalar
      exact ⟨x, u, rfl, hx, hnumber⟩

/-- A time is written as a natural number. -/
theorem time_eq_some {n : Nat} (h : time s = ⟨.ok (some n), rest⟩) :
    ∃ x t, s.dropWhile isSpace = x :: t ∧ (x = 0x2D ∨ isDigit x = true) ∧
      number (x :: t) = ⟨.ok (.natural n), rest⟩ := by
  unfold time at h
  obtain ⟨o, t, hany, h⟩ := exists_of_bind_eq_ok h
  obtain ⟨f, hf, h⟩ := exists_eq_apply h
  split at hf <;> subst hf <;> cases h
  rcases hread : anyNumber s with ⟨e | k, t⟩
  · simp only [attempt, hread] at hany
    cases hany
  · rw [attempt_of_ok hread] at hany
    cases hany
    exact anyNumber_eq_ok hread

/-- What is read as an integer and as a time is the same number. -/
theorem toInt_of_time {e : Int64} {n : Nat} (h₁ : integer.read s = ⟨.ok e, t⟩)
    (h₂ : time s = ⟨.ok (some n), rest⟩) : e.toInt = n := by
  obtain ⟨x, u, hu, hx, hnumber⟩ := time_eq_some h₂
  have hsame {α : Type} (expected : String) (accept? : Int → Option α) :
      readNumber expected accept? s = readNumber expected accept? (x :: u) := by
    unfold readNumber
    rw [aheadOfSpace_apply, hu, aheadOfSpace_bind _ (isSpace_of_isDigit hx)]
    rfl
  simp only [integer, hsame, readNumber_of_number hx hnumber] at h₁
  split_ifs at h₁ with hrange
  · cases h₁
    obtain ⟨hlow, hhigh⟩ := hrange
    have hmin : Int64.minValue.toInt = -2 ^ 63 := by decide
    have hmax : Int64.maxValue.toInt = 2 ^ 63 - 1 := by decide
    exact Int64.toInt_ofInt_of_le (by omega) (by omega)
  · cases h₁

/-- Where an identifier or `null` is read, there is no time. -/
theorem time_ne_some {u : Option Uuid} {n : Nat}
    (h : Member.orNull uuid.read s = ⟨.ok u, t⟩) : time s ≠ ⟨.ok (some n), rest⟩ := by
  intro htime
  obtain ⟨x, v, hv, hx, -⟩ := time_eq_some htime
  unfold Member.orNull at h
  rw [aheadOfSpace_apply, hv] at h
  obtain ⟨f, hf, h⟩ := exists_eq_apply h
  split at hf <;> subst hf
  · next hnull =>
    cases hnull
    exact absurd hx (by decide)
  · obtain ⟨w, t', hread, -⟩ := exists_of_bind_eq_ok h
    obtain ⟨text, t'', htext, -⟩ := exists_of_bind_eq_ok hread
    unfold readText at htext
    rw [aheadOfSpace_apply] at htext
    obtain ⟨f, hf, htext⟩ := exists_eq_apply htext
    split at hf <;> subst hf
    · next hquote =>
      rw [List.dropWhile_cons_of_neg (by simp [isSpace_of_isDigit hx])] at hquote
      cases hquote
      exact absurd hx (by decide)
    · exact wrongKind_ne_ok htext

/-! ### The readers of both kinds of claims -/

theorem scans_members : ∀ m ∈ members, m.read.Scans := by
  have hinteger : integer.read.Scans := by
    simp only [integer]
    exact scans_readNumber _ _
  simp only [members, List.forall_mem_cons, List.not_mem_nil, false_imp_iff, implies_true, and_true]
  exact ⟨scans_orNull (scans_spelled _ _ _ _), scans_list (scans_readText _), hinteger, hinteger⟩

theorem scans_anyNumber : anyNumber.Scans := by
  intro d s
  refine .aheadOfSpace fun t => ?_
  cases t with
  | nil => exact runs_between d _ []
  | cons x t =>
    refine .ite (fun hx => ?_) fun _ => .ite (fun hx => ?_) fun _ => ?_
    · subst hx
      exact .skip (b := ⟨.between, d + 1⟩) rfl
        (.closedBy closes_endOfList (runs_between (d + 1) _ t))
    · subst hx
      exact .skip (b := ⟨.between, d + 1⟩) rfl
        (.closedBy closes_endOfObject (runs_between (d + 1) _ t))
    · refine .bind (runs_scalar d x t) fun tree rest _ => .of_forall_eq fun f hf => ?_
      split at hf <;> subst hf
      · exact .of_ok _ (.refl _ rest)
      · exact runs_between d _ rest

theorem givesUp_time : time.GivesUp := by
  intro d s v rest h
  obtain ⟨o, t, hany, h⟩ := exists_of_bind_eq_ok h
  obtain ⟨f, hf, h⟩ := exists_eq_apply h
  split at hf <;> subst hf <;> cases h <;> exact scans_anyNumber.givesUp_attempt d s _ _ hany

theorem givesUp_audience : audience.GivesUp := by
  intro d s v rest h
  obtain ⟨o, t, htree, h⟩ := exists_of_bind_eq_ok h
  obtain ⟨f, hf, h⟩ := exists_eq_apply h
  split at hf <;> subst hf <;> cases h <;>
    exact (scans_orNull (scans_tree _)).givesUp_attempt d s _ _ htree

theorem givesUp_registered : ∀ m ∈ registeredMembers, m.read.GivesUp := by
  simp only [registeredMembers, List.forall_mem_cons, List.not_mem_nil, false_imp_iff, implies_true,
    and_true]
  exact ⟨givesUp_time, givesUp_time, (scans_orNull (scans_readText _)).givesUp_attempt,
    (scans_orNull (scans_tree _)).givesUp_attempt, givesUp_audience⟩

theorem foreign_registered : ∀ m ∈ registeredMembers, Foreign m.name := by
  simp only [registeredMembers, List.forall_mem_cons, List.not_mem_nil, false_imp_iff, implies_true,
    and_true]
  exact ⟨fun _ => rfl, fun _ => rfl, fun _ => rfl, fun _ => rfl, fun _ => rfl⟩

/-! ### Both readings of an object -/

/-- The time of expiry among the claims of a session found so far. -/
def draftedExpiry : Drafts members → Option Int64
  | (_, _, _, e, _) => e

/-- The time of expiry among the registered claims found so far. -/
def draftedTime : Drafts registeredMembers → Option (Option Nat)
  | (t, _) => t

/-- If a time of expiry is among the registered claims, it is among the claims of a session. -/
def SameExpiry (ds₁ : Drafts members) (ds₂ : Drafts registeredMembers) : Prop :=
  ∀ n, draftedTime ds₂ = some (some n) → ∃ e, draftedExpiry ds₁ = some e ∧ e.toInt = n

section

variable {name : String} {ds₁ ds₁' : Drafts members} {ds₂ ds₂' : Drafts registeredMembers}

/-- Only the member `exp` changes the time of expiry of a session. -/
theorem draftedExpiry_readMember (h : readMember members name ds₁ s = ⟨.ok ds₁', rest⟩) :
    name ≠ "exp" ∧ draftedExpiry ds₁' = draftedExpiry ds₁ ∨
      name = "exp" ∧ ∃ e, draftedExpiry ds₁' = some e ∧
        memberValue name integer.read s = ⟨.ok e, rest⟩ := by
  rcases readMember_eq_ok h with hdrafted | ⟨hname, rfl, -⟩
  · obtain ⟨a, b, c, e, u⟩ := ds₁
    obtain ⟨a', b', c', e', u'⟩ := ds₁'
    simp only [members, Drafted] at hdrafted
    split_ifs at hdrafted with huid hflashes hiat hexp
    · obtain ⟨-, hlater, -⟩ := hdrafted
      cases hlater
      exact .inl ⟨by rw [huid]; decide, rfl⟩
    · obtain ⟨-, -, hlater, -⟩ := hdrafted
      cases hlater
      exact .inl ⟨by rw [hflashes]; decide, rfl⟩
    · obtain ⟨-, -, -, hlater, -⟩ := hdrafted
      cases hlater
      exact .inl ⟨by rw [hiat]; decide, rfl⟩
    · obtain ⟨-, -, -, -, -, v, hv, hread⟩ := hdrafted
      exact .inr ⟨hexp, v, hv, hread⟩
    · exact hdrafted.2.2.2.2.elim
  · refine .inl ⟨?_, rfl⟩
    rintro rfl
    exact hname (by decide)

/-- Only the member `exp` changes the registered time of expiry. -/
theorem draftedTime_readMember
    (h : readMember registeredMembers name ds₂ s = ⟨.ok ds₂', rest⟩) :
    name ≠ "exp" ∧ draftedTime ds₂' = draftedTime ds₂ ∨
      name = "exp" ∧ ∃ o, draftedTime ds₂' = some o ∧
        memberValue name time s = ⟨.ok o, rest⟩ := by
  rcases readMember_eq_ok h with hdrafted | ⟨hname, rfl, -⟩
  · obtain ⟨o, ds⟩ := ds₂
    obtain ⟨o', ds'⟩ := ds₂'
    replace hdrafted : if name = "exp" then o = none ∧ ds' = ds ∧ ∃ v, o' = some v ∧
        memberValue name time s = ⟨.ok v, rest⟩ else o' = o ∧ _ := hdrafted
    split_ifs at hdrafted with hexp
    · obtain ⟨-, -, v, hv, hread⟩ := hdrafted
      exact .inr ⟨hexp, v, hv, hread⟩
    · exact .inl ⟨hexp, hdrafted.1⟩
  · refine .inl ⟨?_, rfl⟩
    rintro rfl
    exact hname (by decide)

/-- Both readings of one member. -/
theorem sameExpiry_readMember (h₁ : readMember members name ds₁ s = ⟨.ok ds₁', t⟩)
    (h₂ : readMember registeredMembers name ds₂ s = ⟨.ok ds₂', rest⟩) (h : SameExpiry ds₁ ds₂) :
    SameExpiry ds₁' ds₂' := by
  intro n hn
  rcases draftedExpiry_readMember h₁ with ⟨hname, hsame₁⟩ | ⟨hname, e, he, hread₁⟩
  · rcases draftedTime_readMember h₂ with ⟨-, hsame₂⟩ | ⟨hexp, -⟩
    · rw [hsame₁]
      rw [hsame₂] at hn
      exact h n hn
    · exact absurd hexp hname
  · rcases draftedTime_readMember h₂ with ⟨hother, -⟩ | ⟨-, o, ho, hread₂⟩
    · exact absurd hname hother
    · obtain ⟨u, hu, hread₁⟩ := memberValue_eq_ok hread₁
      obtain ⟨v, hv, hread₂⟩ := memberValue_eq_ok hread₂
      rw [hu] at hv
      cases hv
      rw [ho] at hn
      cases hn
      exact ⟨e, he, toInt_of_time hread₁ hread₂⟩

end

/-- Both readings of one member of an object of which all is read twice stop at the same place,
apart from blanks. -/
theorem same_end_readMember {name : String} {ds₁ ds₁' ds₁'' : Drafts members}
    {ds₂ ds₂' ds₂'' : Drafts registeredMembers} {steps₁ steps₂ u s₁ s₂ t₁ t₂ : Bytes}
    (hmember₁ : readMember members name ds₁ u = ⟨.ok ds₁', s₁⟩)
    (hmember₂ : readMember registeredMembers name ds₂ u = ⟨.ok ds₂', s₂⟩)
    (h₁ : readMembers members steps₁ false ds₁' s₁ = ⟨.ok ds₁'', t₁⟩)
    (h₂ : readMembers registeredMembers steps₂ false ds₂' s₂ = ⟨.ok ds₂'', t₂⟩)
    (hend₁ : ObjectEnds t₁) (hend₂ : ObjectEnds t₂) :
    s₁.dropWhile isSpace = s₂.dropWhile isSpace := by
  obtain ⟨v, hv, hcrosses⟩ := crosses_value scans_members hmember₁
  obtain ⟨v', hv', hstops⟩ := stops_value givesUp_registered hmember₂
  rw [hv] at hv'
  cases hv'
  have hwhole := (hcrosses 1).trans ((crosses_readMembers scans_members h₁ 0).trans
    (hend₁.crosses 0))
  refine (same_end_or_isAstray (hcrosses 0) (hstops 0) hwhole.scan_eq
    (memberEnds_of_readMembers h₁) (memberEnds_of_readMembers h₂)).resolve_right ?_
  rintro ⟨a, ha, hscan⟩
  exact not_isAstray givesUp_registered foreign_registered h₂ hend₂ hscan ha

/-- Both readings of the members of an object of which all is read twice. -/
theorem sameExpiry_readMembers {steps₁ steps₂ s₁ s₂ t₁ t₂ : Bytes} {first : Bool}
    {ds₁ ds₁' : Drafts members} {ds₂ ds₂' : Drafts registeredMembers}
    (h₁ : readMembers members steps₁ first ds₁ s₁ = ⟨.ok ds₁', t₁⟩)
    (h₂ : readMembers registeredMembers steps₂ first ds₂ s₂ = ⟨.ok ds₂', t₂⟩)
    (hend₁ : ObjectEnds t₁) (hend₂ : ObjectEnds t₂)
    (hs : s₁.dropWhile isSpace = s₂.dropWhile isSpace) (h : SameExpiry ds₁ ds₂) :
    SameExpiry ds₁' ds₂' := by
  induction steps₁ generalizing steps₂ s₁ s₂ first ds₁ ds₂ with
  | nil => cases h₁
  | cons x steps₁ ih =>
    have hnext : nextKey first s₁ = nextKey first s₂ := by
      unfold nextKey
      rw [aheadOfSpace_apply, aheadOfSpace_apply, hs]
    rcases readMembers_eq_ok h₁ with ⟨hkey₁, rfl⟩ | ⟨x₁, steps₁', ds₁₁, v₁, he₁,
      ⟨k₁, name₁, u₁, hkey₁, hname₁, hmember₁⟩, h₁⟩
    all_goals
      rcases readMembers_eq_ok h₂ with ⟨hkey₂, rfl⟩ | ⟨x₂, steps₂', ds₂₁, v₂, he₂,
        ⟨k₂, name₂, u₂, hkey₂, hname₂, hmember₂⟩, h₂⟩
      all_goals
        rw [hnext, hkey₂] at hkey₁
        cases hkey₁
    · exact h
    · cases he₁
      rw [hname₁] at hname₂
      cases hname₂
      have hv := same_end_readMember hmember₁ hmember₂ h₁ h₂ hend₁ hend₂
      exact ih h₁ h₂ hv (sameExpiry_readMember hmember₁ hmember₂ h)

/-! ### Both readings of a payload -/

/-- The time of expiry among the claims of a session. -/
theorem draftedExpiry_of_complete {ds : Drafts members} {vs : Values members}
    (h : complete members ds s = ⟨.ok vs, rest⟩) : draftedExpiry ds = some vs.2.2.2.1 := by
  obtain ⟨a, b, c, e, u⟩ := ds
  obtain ⟨a', b', c', e', u'⟩ := vs
  obtain ⟨-, h⟩ := complete_eq_ok h
  obtain ⟨-, h⟩ := complete_eq_ok h
  obtain ⟨-, h⟩ := complete_eq_ok h
  obtain ⟨he, -⟩ := complete_eq_ok h
  cases e with
  | none => cases he
  | some e => exact he

/-- A registered time of expiry was drafted. -/
theorem draftedTime_of_complete {ds : Drafts registeredMembers} {vs : Values registeredMembers}
    {n : Nat} (h : complete registeredMembers ds s = ⟨.ok vs, rest⟩) (hn : vs.1 = some n) :
    draftedTime ds = some (some n) := by
  obtain ⟨o, ds⟩ := ds
  obtain ⟨o', vs⟩ := vs
  obtain ⟨ho, -⟩ := complete_eq_ok h
  cases o with
  | none =>
    cases ho
    cases hn
  | some o =>
    cases ho
    exact congrArg some hn

/-- Both readings of an object that is the whole payload. -/
theorem toInt_of_readMembers {ds₁ : Drafts members} {ds₂ : Drafts registeredMembers}
    {vs₁ : Values members} {vs₂ : Values registeredMembers} {steps u₁ u₁' u₂ u₂' t₁ t₂ : Bytes}
    {n : Nat} (h₁ : readMembers members steps true (noDrafts members) s = ⟨.ok ds₁, u₁⟩)
    (hcomplete₁ : complete members ds₁ u₁ = ⟨.ok vs₁, u₁'⟩)
    (hend₁ : endOfObject u₁' = ⟨.ok (), t₁⟩) (hblank₁ : t₁.dropWhile isSpace = [])
    (h₂ : readMembers registeredMembers steps true (noDrafts registeredMembers) s = ⟨.ok ds₂, u₂⟩)
    (hcomplete₂ : complete registeredMembers ds₂ u₂ = ⟨.ok vs₂, u₂'⟩)
    (hend₂ : endOfObject u₂' = ⟨.ok (), t₂⟩) (hblank₂ : t₂.dropWhile isSpace = [])
    (hn : vs₂.1 = some n) : vs₁.2.2.2.1.toInt = n := by
  obtain rfl := complete_rest hcomplete₁
  obtain rfl := complete_rest hcomplete₂
  have hstart : SameExpiry (noDrafts members) (noDrafts registeredMembers) := by
    intro n hn
    cases hn
  have hsame := sameExpiry_readMembers h₁ h₂ ⟨_, hend₁, hblank₁⟩ ⟨_, hend₂, hblank₂⟩ rfl hstart
  obtain ⟨e, he, hen⟩ := hsame n (draftedTime_of_complete hcomplete₂ hn)
  rw [draftedExpiry_of_complete hcomplete₁] at he
  cases he
  exact hen

/-- Both readings of a list find no time of expiry: its first element would be an identifier and a
time. -/
theorem eq_none_of_readElements {vs₁ : Values members} {vs₂ : Values registeredMembers}
    {u₁ u₂ : Bytes} {expected₁ expected₂ : String}
    (h₁ : readElements expected₁ members 0 s = ⟨.ok vs₁, u₁⟩)
    (h₂ : readElements expected₂ registeredMembers 0 s = ⟨.ok vs₂, u₂⟩) : vs₂.1 = none := by
  obtain ⟨user, vs₁⟩ := vs₁
  obtain ⟨o, vs₂⟩ := vs₂
  obtain ⟨v₁, ⟨hfound₁, w₁, huser⟩ | ⟨hfound₁, -⟩⟩ := (readElements_eq_ok h₁).1
  all_goals
    obtain ⟨v₂, ⟨hfound₂, w₂, htime⟩ | ⟨hfound₂, habsent⟩⟩ := (readElements_eq_ok h₂).1
    all_goals
      rw [hfound₁] at hfound₂
      cases hfound₂
  · cases o with
    | none => rfl
    | some n => exact absurd htime (time_ne_some huser)
  · cases habsent
    rfl

/-- Both readings of a payload find the same time of expiry. -/
theorem toInt_expiresAt {c : Claims} {r : Registered} {n : Nat}
    (h₁ : Token.contents codec.read s = .ok c) (h₂ : Token.contents readRegistered s = .ok r)
    (hn : r.expiresAt = some n) : c.expiresAt.toInt = n := by
  obtain ⟨rest₁, h₁, hblank₁⟩ := Codec.exists_of_decode (Token.contents_eq_ok_iff.1 h₁)
  obtain ⟨rest₂, h₂, hblank₂⟩ := Codec.exists_of_decode (Token.contents_eq_ok_iff.1 h₂)
  obtain ⟨vs₁, t₁, h₁, hc⟩ := exists_of_bind_eq_ok h₁
  obtain ⟨vs₂, t₂, h₂, hr⟩ := exists_of_bind_eq_ok h₂
  cases hc
  cases hr
  rcases readValues_eq_ok h₁ with ⟨t, ds₁, u₁, u₁', ht, hmembers₁, hcomplete₁, hend₁⟩ |
    ⟨t, u₁, ht, helements₁⟩
  all_goals
    rcases readValues_eq_ok h₂ with ⟨t', ds₂, u₂, u₂', ht', hmembers₂, hcomplete₂, hend₂⟩ |
      ⟨t', u₂, ht', helements₂⟩
    all_goals
      rw [ht] at ht'
      cases ht'
  · exact toInt_of_readMembers hmembers₁ hcomplete₁ hend₁ hblank₁ hmembers₂ hcomplete₂ hend₂
      hblank₂ hn
  · cases (eq_none_of_readElements helements₁ helements₂).symm.trans hn

end Daybook.Claims
