import Daybook.Proofs.Json.Nesting

/-!
# Readers of members that are astray

A member may be read so that a value that cannot be read counts as none.  The reader then goes on
from where it stopped, perhaps inside a list, an object or a string.  It is astray there: it takes
what it finds for members of its own object, but it will never come to the end of the whole text as
the end of that object.

## Main definitions

* `Json.ObjectEnds` : an object is over, and the text with it.
* `Json.Spot.IsAstray` : the spots at which no member can begin.
* `Json.Reader.GivesUp`, `Json.Foreign` : how values are given up, and which names are not met
  outside strings.

## Main results

* `Json.crosses_readMembers` : members whose values are scanned.
* `Json.exists_isAstray` : a reader of members that is astray remains so.
* `Json.not_isAstray` : a reader of members that comes to the end of the text was not astray.
* `Json.same_end_or_isAstray` : two readers of one value stop at the same place, or one is astray.
-/

namespace Daybook.Json

open Reader

variable {ms : List Member} {s t rest : Bytes}

/-- After a member a comma follows, or the end of the object. -/
theorem memberEnds_of_readMembers {steps : Bytes} {ds ds' : Drafts ms}
    (h : readMembers ms steps false ds s = ⟨.ok ds', rest⟩) : MemberEnds s := by
  rcases readMembers_eq_ok h with ⟨hkey, -⟩ | ⟨x, steps', ds₁, v, -, ⟨k, name, u, hkey, -⟩, -⟩
  · obtain ⟨hrest, t, ht⟩ := nextKey_eq_false hkey
    exact ⟨0x7D, t, by rw [← hrest, ht], .inr rfl⟩
  · obtain ⟨t, ht⟩ := (nextKey_eq_true hkey).2 rfl
    exact ⟨0x2C, t, ht, .inl rfl⟩

/-! ### Where the scanner is between members -/

/-- From a place between members past the name of the next one. -/
theorem crosses_name {first : Bool} {k : Bytes} {name : String}
    (hkey : nextKey first s = ⟨.ok true, 0x22 :: k⟩) (hname : string k = ⟨.ok name, t⟩) (d : Nat) :
    Crosses ⟨.between, d + 1⟩ ⟨.between, d + 1⟩ s t :=
  ((runs_nextKey d first s).ok _ _ hkey).trans
    (.step (b := ⟨.quoted .plain, d + 1⟩) rfl ((runs_string (d + 1) k).ok name t hname))

theorem crosses_colon (h : s.dropWhile isSpace = 0x3A :: t) (d : Nat) :
    Crosses ⟨.between, d + 1⟩ ⟨.between, d + 1⟩ s t :=
  (Crosses.spaces _ s).trans (h ▸ .step rfl (.refl _ t))

/-- An object is over, and nothing but blanks follows it. -/
def ObjectEnds (s : Bytes) : Prop :=
  ∃ t, endOfObject s = ⟨.ok (), t⟩ ∧ t.dropWhile isSpace = []

theorem ObjectEnds.crosses (h : ObjectEnds s) (d : Nat) :
    Crosses ⟨.between, d + 1⟩ ⟨.between, d⟩ s [] := by
  obtain ⟨t, hend, hspaces⟩ := h
  have hclosed := (closes_endOfObject.between d s).ok _ t hend
  have hblank := Crosses.spaces d t
  rw [hspaces] at hblank
  exact hclosed.trans hblank

section

variable (hms : ∀ m ∈ ms, m.read.Scans)

include hms

/-- The value of a member is scanned, whether it is wanted or not. -/
theorem crosses_value {name : String} {ds ds' : Drafts ms}
    (h : readMember ms name ds s = ⟨.ok ds', rest⟩) :
    ∃ t, s.dropWhile isSpace = 0x3A :: t ∧ ∀ d, Crosses ⟨.between, d⟩ ⟨.between, d⟩ t rest := by
  obtain ⟨t, hcolon, hvalue⟩ := exists_value_of_readMember h
  refine ⟨t, hcolon, fun d => ?_⟩
  rcases hvalue with ⟨m, hm, -, v, hread⟩ | hskip
  · exact (hms m hm d t).ok v rest hread
  · exact crosses_skipValue hskip d

/-- Members whose values are scanned leave the scanner between members. -/
theorem crosses_readMembers {steps : Bytes} {first : Bool} {ds ds' : Drafts ms}
    (h : readMembers ms steps first ds s = ⟨.ok ds', rest⟩) (d : Nat) :
    Crosses ⟨.between, d + 1⟩ ⟨.between, d + 1⟩ s rest := by
  induction steps generalizing first ds s with
  | nil => cases h
  | cons x steps ih =>
    rcases readMembers_eq_ok h with ⟨hkey, -⟩ | ⟨x, steps', ds₁, v, he, ⟨k, name, u, hkey, hname,
      hmember⟩, h⟩
    · exact (runs_nextKey d first s).ok _ _ hkey
    · cases he
      obtain ⟨t, hcolon, hvalue⟩ := crosses_value hms hmember
      exact (crosses_name hkey hname d).trans
        ((crosses_colon hcolon d).trans ((hvalue (d + 1)).trans (ih h)))

end

/-! ### Astray -/

/-- A spot is *astray* when it is deeper than the members of an object at the outset, or inside a
string. -/
def Spot.IsAstray (a : Spot) : Prop :=
  a.place = .between ∧ 2 ≤ a.depth ∨ a.place = .quoted .plain

/-- A reader of values *gives up* where it stops, without failing. -/
def Reader.GivesUp {α : Type} (r : Reader α) : Prop :=
  ∀ d s v rest, r s = ⟨.ok v, rest⟩ → Stops d ⟨.between, d⟩ s rest

/-- A reader of values that is tried gives up instead of failing. -/
theorem Reader.Scans.givesUp_attempt {α : Type} {r : Reader α} (hr : r.Scans) :
    (attempt r).GivesUp := by
  intro d s v rest h
  have hstops := (hr d s).stops (Nat.le_refl d) (.inl rfl)
  rcases hx : r s with ⟨e | a, t⟩
  all_goals
    simp only [attempt, hx] at h
    cases h
    rwa [hx] at hstops

/-- A name is *foreign* outside strings when no JSON text has its bytes there. -/
def Foreign (name : String) : Prop :=
  ∀ d, scan ⟨.between, d⟩ (Utf8.encode name) = none

/-- What is read as a string, but stands outside strings, has no escapes. -/
theorem stringBytes_outside {p : Place} (hp : p.IsOutside) {d : Nat} {c : Spot}
    {found bs : Bytes} (hscan : scan ⟨p, d⟩ s = some c)
    (h : stringBytes .plain found s = ⟨.ok bs, rest⟩) :
    ∃ w, s = w ++ 0x22 :: rest ∧ bs = found.reverse ++ w := by
  induction s generalizing p d found with
  | nil => cases h
  | cons x s ih =>
    obtain ⟨⟨q, e⟩, hstep, hscan⟩ := Option.bind_eq_some_iff.1 hscan
    obtain ⟨m, hnext, -⟩ := Spot.step_eq_some.1 hstep
    simp only [stringBytes] at h
    split_ifs at h with hquote hslash hcontrol
    · cases h
      exact ⟨[], by rw [hquote]; rfl, (List.append_nil _).symm⟩
    · rw [hslash, Place.next_backslash hp] at hnext
      cases hnext
    · cases h
    · obtain ⟨w, rfl, rfl⟩ := ih (Place.next_outside hp hquote hnext) hscan h
      refine ⟨x :: w, rfl, ?_⟩
      rw [List.reverse_cons, List.append_assoc]
      rfl

/-- What is read as a key, but stands outside strings, is not a foreign name. -/
theorem not_foreign_of_string {d : Nat} {c : Spot} {name : String}
    (hscan : scan ⟨.between, d⟩ s = some c) (h : string s = ⟨.ok name, rest⟩) : ¬Foreign name := by
  intro hforeign
  unfold string at h
  rcases hbytes : stringBytes .plain [] s with ⟨e | bs, t⟩
  · rw [hbytes] at h
    cases h
  · rw [hbytes] at h
    dsimp only at h
    split at h
    · next text htext =>
      cases h
      have hp : Place.between.IsOutside := trivial
      obtain ⟨w, rfl, hw⟩ := stringBytes_outside hp hscan hbytes
      have hname : Utf8.encode name = w := (Utf8.encode_of_decode? htext).trans hw
      rw [scan_append, ← hname, hforeign d] at hscan
      cases hscan
    · cases h

section

variable (hreads : ∀ m ∈ ms, m.read.GivesUp) (hnames : ∀ m ∈ ms, Foreign m.name)

include hreads in
/-- The value of a member is given up at its depth or deeper. -/
theorem stops_value {name : String} {ds ds' : Drafts ms}
    (h : readMember ms name ds s = ⟨.ok ds', rest⟩) :
    ∃ t, s.dropWhile isSpace = 0x3A :: t ∧ ∀ d, Stops d ⟨.between, d⟩ t rest := by
  obtain ⟨t, hcolon, hvalue⟩ := exists_value_of_readMember h
  refine ⟨t, hcolon, fun d => ?_⟩
  rcases hvalue with ⟨m, hm, -, v, hread⟩ | hskip
  · exact hreads m hm d t v rest hread
  · exact (crosses_skipValue hskip d).stops (Nat.le_refl d) (.inl rfl)

variable {first : Bool} {ds ds' : Drafts ms} {d : Nat}

include hreads in
/-- No brackets around the members are closed where a value is given up. -/
theorem exists_isAstray_of_between (h : NextMember ms first ds ds' s rest) (hends : MemberEnds rest)
    (hscan : scan ⟨.between, d + 2⟩ s = some .start) :
    ∃ a : Spot, a.IsAstray ∧ scan a rest = some .start := by
  obtain ⟨k, name, u, hkey, hname, hmember⟩ := h
  obtain ⟨t, hcolon, hvalue⟩ := stops_value hreads hmember
  have hcrosses := (crosses_name hkey hname (d + 1)).trans (crosses_colon hcolon (d + 1))
  rw [hcrosses.scan_eq] at hscan
  rcases hvalue (d + 2) with rfl | hdead | ⟨c, hc, hn, hsettled⟩
  · obtain ⟨y, t, ht, -⟩ := hends
    cases ht
  · cases (hdead 0).symm.trans hscan
  · rw [hc.scan_eq] at hscan
    refine ⟨c, hsettled.imp (fun hbetween => ⟨hbetween, ?_⟩) id, hscan⟩
    exact Nat.le_trans (Nat.le_add_left 2 d) hn

include hnames in
/-- Inside a string, all that the reader takes for strings is outside, and all that it takes for the
rest is inside.  It meets no name of a member there. -/
theorem exists_isAstray_of_quoted (h : NextMember ms first ds ds' s rest)
    (hscan : scan ⟨.quoted .plain, d⟩ s = some .start) :
    ∃ a : Spot, a.IsAstray ∧ scan a rest = some .start := by
  obtain ⟨k, name, u, hkey, hname, hmember⟩ := h
  obtain ⟨⟨p, e⟩, hr, hplace⟩ := ((runs_nextKey 0 first s).ok _ _ hkey).exists_of_scan hscan
  obtain rfl : p = .quoted .plain := (hplace (.inr ⟨trivial, rfl⟩)).eq_quoted
  rw [hr.scan_eq] at hscan
  replace hscan : scan ⟨.between, e⟩ k = some .start := hscan
  obtain ⟨t, hcolon, ⟨m, hm, rfl, -⟩ | hskip⟩ := exists_value_of_readMember hmember
  · exact absurd (hnames m hm) (not_foreign_of_string hscan hname)
  · have hrest := ((runs_string 1 k).ok name u hname).trans
      ((crosses_colon hcolon 0).trans (crosses_skipValue hskip 1))
    obtain ⟨r, hr, hplace⟩ := hrest.exists_of_scan hscan
    rw [hr.scan_eq] at hscan
    exact ⟨r, .inr (hplace (.inl ⟨rfl, trivial⟩)).eq_quoted, hscan⟩

variable {a : Spot}

include hreads hnames in
/-- A reader of members that is astray remains so. -/
theorem exists_isAstray (ha : a.IsAstray) (h : NextMember ms first ds ds' s rest)
    (hends : MemberEnds rest) (hscan : scan a s = some .start) :
    ∃ b : Spot, b.IsAstray ∧ scan b rest = some .start := by
  obtain ⟨p, d⟩ := a
  rcases ha with ⟨rfl, hdepth⟩ | rfl
  · obtain ⟨d, rfl⟩ := Nat.exists_eq_add_of_le' hdepth
    exact exists_isAstray_of_between hreads h hends hscan
  · exact exists_isAstray_of_quoted hnames h hscan

/-- The end of the text is not the end of an object in which the reader is astray: from outside
strings more brackets would have to be closed. -/
theorem not_isAstray_of_end (hkey : nextKey first s = ⟨.ok false, rest⟩) (hend : ObjectEnds rest)
    (hscan : scan a s = some .start) : ¬a.IsAstray := by
  have hover (d : Nat) : Crosses ⟨.between, d + 1⟩ ⟨.between, d⟩ s [] :=
    ((runs_nextKey d first s).ok _ _ hkey).trans (hend.crosses d)
  obtain ⟨p, d⟩ := a
  rintro (⟨rfl, hdepth⟩ | rfl)
  · obtain ⟨d, rfl⟩ := Nat.exists_eq_add_of_le' hdepth
    rw [(hover (d + 1)).scan_eq] at hscan
    cases hscan
  · obtain ⟨r, hr, hplace⟩ := (hover 0).exists_of_scan hscan
    rw [hr.scan_eq] at hscan
    cases hscan
    cases (hplace (.inr ⟨trivial, rfl⟩)).eq_quoted

include hreads hnames in
/-- A reader of members that comes to the end of the text was not astray. -/
theorem not_isAstray {steps : Bytes} (h : readMembers ms steps first ds s = ⟨.ok ds', rest⟩)
    (hend : ObjectEnds rest) (hscan : scan a s = some .start) : ¬a.IsAstray := by
  induction steps generalizing first ds s a with
  | nil => cases h
  | cons x steps ih =>
    rcases readMembers_eq_ok h with ⟨hkey, -⟩ | ⟨x, steps', ds₁, t, he, hmember, h⟩
    · exact not_isAstray_of_end hkey hend hscan
    · cases he
      intro ha
      obtain ⟨b, hb, hscan⟩ :=
        exists_isAstray hreads hnames ha hmember (memberEnds_of_readMembers h) hscan
      exact ih h hscan hb

end

/-- Of two readers of one value in an object that goes on after it, one scans the value and the
other gives up.  They stop at the same place, apart from blanks, or the second is astray. -/
theorem same_end_or_isAstray {s₁ s₂ : Bytes} (h₁ : Crosses .start .start s s₁)
    (h₂ : Stops 0 .start s s₂) (hscan : scan ⟨.between, 1⟩ s = some .start)
    (hends₁ : MemberEnds s₁) (hends₂ : MemberEnds s₂) :
    s₁.dropWhile isSpace = s₂.dropWhile isSpace ∨
      ∃ a : Spot, a.IsAstray ∧ scan a s₂ = some .start := by
  rcases h₂ with rfl | hdead | ⟨c, hc, -, hsettled⟩
  · obtain ⟨x, t, ht, -⟩ := hends₂
    cases ht
  · cases (hdead 1).symm.trans hscan
  · have hdeeper : scan (c.up 1) s₂ = some .start := (hc.up 1).scan_eq.symm.trans hscan
    obtain ⟨p, d⟩ := c
    rcases hsettled with rfl | rfl
    · cases d with
      | zero => exact .inl (same_end h₁ hc hends₁ hends₂)
      | succ d => exact .inr ⟨_, .inl ⟨rfl, Nat.le_add_left 2 d⟩, hdeeper⟩
    · exact .inr ⟨_, .inr rfl, hdeeper⟩

end Daybook.Json
