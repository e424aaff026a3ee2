import Daybook.Http.Cors
import Daybook.Proofs.Http.HeaderText

/-!
# Origins that are let in

A setting lists origins with commas between them.  What is written between two commas, without the
blanks around it, is an item.  The items that can stand in a header are the origins of the list, and
a request comes from one of them when its first `Origin` header is that item, byte for byte.

## Main definitions

* `Cors.items` : the items of a setting.
* `Cors.allowOrigin`, `Cors.allowCredentials` : the headers that let an origin in.

## Main results

* `Cors.Policy.ofSetting?_cases` : the policies of settings.
* `Cors.Policy.guarded_of_allowCredentials`, `Cors.Policy.allowOrigin_mem_of_item`,
  `Cors.Policy.allowCredentials_notMem` : what the policy of a setting tells a browser.
-/

namespace Daybook

theorem Utf8.encode_injective {s t : String} (h : encode s = encode t) : s = t := by
  have hdecode := congrArg decode? h
  rw [decode?_encode, decode?_encode] at hdecode
  exact Option.some.inj hdecode

namespace Cors

/-- The items of a setting: what is between its commas, without the blanks around it. -/
def items (setting : String) : List String :=
  (Text.pieces ',' setting.toList).map fun p => String.ofList (Text.trim p)

/-- The header that lets an origin in. -/
def allowOrigin (origin : String) : String × String :=
  ("access-control-allow-origin", origin)

/-- The header that says whether credentials may be sent along. -/
def allowCredentials (answer : String) : String × String :=
  ("access-control-allow-credentials", answer)

namespace Policy

/-- The origins of a setting are its items that can stand in a header. -/
theorem mem_origins_iff {setting item : String} :
    item ∈ origins setting ↔ item ∈ items setting ∧ isHeaderText item = true :=
  List.mem_filter

/-- The policy of a setting is for everybody when no item can stand in a header, and otherwise for
those that can.  The wildcard is not among them. -/
theorem ofSetting?_cases {setting : Option String} {p : Policy} (h : ofSetting? setting = some p) :
    (p = .everybody ∧ ∀ list ∈ setting, origins list = []) ∨
      ∃ list ∈ setting, p = .listed (origins list) ∧ origins list ≠ [] ∧ "*" ∉ origins list := by
  cases setting with
  | none => exact .inl ⟨(Option.some.inj h).symm, by simp⟩
  | some list =>
    simp only [ofSetting?, Option.map_some] at h
    split at h
    · next hnone => cases hnone
    · next hempty =>
      refine .inl ⟨(Option.some.inj h).symm, fun list' hlist => ?_⟩
      rw [← Option.some.inj hlist]
      exact Option.some.inj hempty
    · next os hne hsome =>
      split_ifs at h with hwild
      rw [← Option.some.inj hsome] at h hne hwild
      exact .inr ⟨list, rfl, (Option.some.inj h).symm, hne, hwild⟩

/-- An empty setting has an empty item, which can stand in a header. -/
example : ofSetting? (some "") = some (.listed [""]) := by
  decide +kernel

/-- A request comes from a listed origin when that is its first `Origin` header. -/
theorem admitted?_eq_some_iff {origins : List String} {r : Request} {o : String} :
    admitted? origins r = some o ↔ o ∈ origins ∧ r.header? "origin" = some (Utf8.encode o) := by
  rw [admitted?, Option.bind_eq_some_iff]
  constructor
  · rintro ⟨bs, hheader, hfind⟩
    have hbytes := List.find?_some hfind
    rw [beq_iff_eq] at hbytes
    exact ⟨List.mem_of_find?_eq_some hfind, hbytes ▸ hheader⟩
  · rintro ⟨hmem, hheader⟩
    refine ⟨_, hheader, ?_⟩
    cases hfind : origins.find? fun o' => Utf8.encode o' == Utf8.encode o with
    | none => exact absurd (beq_self_eq_true _) (List.find?_eq_none.1 hfind o hmem)
    | some o' =>
      have hbytes := List.find?_some hfind
      rw [beq_iff_eq] at hbytes
      rw [Utf8.encode_injective hbytes]

/-- A listed origin is let in by its own name. -/
theorem allowOrigin_mem_listed_iff {origins : List String} {r : Request} {o : String} :
    allowOrigin o ∈ (listed origins).headers r ↔
      o ∈ origins ∧ r.header? "origin" = some (Utf8.encode o) := by
  rw [← admitted?_eq_some_iff]
  simp only [headers, allowOrigin, vary]
  split_ifs <;> simp [Option.mem_toList]

/-- Nobody sends credentials where everybody is let in. -/
theorem allowCredentials_notMem_everybody {r : Request} {answer : String} :
    allowCredentials answer ∉ everybody.headers r := by
  simp only [headers, allowCredentials, vary]
  split_ifs <;> simp

/-- Credentials may be sent where origins are listed. -/
theorem allowCredentials_mem_listed {origins : List String} {r : Request} :
    allowCredentials "true" ∈ (listed origins).headers r :=
  List.mem_append_left _ (List.mem_append_right _ List.mem_cons_self)

/-! ### The policy of a setting -/

section

variable {setting : Option String} {p : Policy} (h : ofSetting? setting = some p) {r : Request}

include h

/-- Where credentials may be sent along, the wildcard does not let everybody in, and an origin that
is let in is an item of the list and the one that the request names. -/
theorem guarded_of_allowCredentials (hcredentials : allowCredentials "true" ∈ p.headers r) :
    allowOrigin "*" ∉ p.headers r ∧
      ∀ origin, allowOrigin origin ∈ p.headers r →
        r.header? "origin" = some (Utf8.encode origin) ∧ ∃ list ∈ setting, origin ∈ items list := by
  rcases ofSetting?_cases h with ⟨rfl, -⟩ | ⟨list, hlist, rfl, -, hwild⟩
  · exact absurd hcredentials allowCredentials_notMem_everybody
  · refine ⟨fun hadmitted => hwild (allowOrigin_mem_listed_iff.1 hadmitted).1, ?_⟩
    intro origin hadmitted
    obtain ⟨hmem, hnamed⟩ := allowOrigin_mem_listed_iff.1 hadmitted
    exact ⟨hnamed, list, hlist, (mem_origins_iff.1 hmem).1⟩

/-- An item that can stand in a header is let in when a request names it. -/
theorem allowOrigin_mem_of_item {list item : String} (hlist : list ∈ setting)
    (hitem : item ∈ items list) (htext : isHeaderText item = true)
    (hnamed : r.header? "origin" = some (Utf8.encode item)) :
    allowOrigin item ∈ p.headers r ∧ allowCredentials "true" ∈ p.headers r := by
  have hmem : item ∈ origins list := mem_origins_iff.2 ⟨hitem, htext⟩
  rcases ofSetting?_cases h with ⟨-, hempty⟩ | ⟨list', hlist', rfl, -, -⟩
  · rw [hempty list hlist] at hmem
    exact absurd hmem List.not_mem_nil
  · obtain rfl := Option.some.inj (hlist.symm.trans hlist')
    exact ⟨allowOrigin_mem_listed_iff.2 ⟨hmem, hnamed⟩, allowCredentials_mem_listed⟩

/-- No credentials are sent along where no item can stand in a header. -/
theorem allowCredentials_notMem (hnone : ∀ list ∈ setting, ∀ item ∈ items list,
    isHeaderText item = false) (answer : String) : allowCredentials answer ∉ p.headers r := by
  rcases ofSetting?_cases h with ⟨rfl, -⟩ | ⟨list, hlist, -, hne, -⟩
  · exact allowCredentials_notMem_everybody
  · obtain ⟨item, hitem⟩ := List.exists_mem_of_ne_nil _ hne
    obtain ⟨hmem, htext⟩ := mem_origins_iff.1 hitem
    rw [hnone list hlist item hmem] at htext
    cases htext

end

end Policy

end Cors

end Daybook
