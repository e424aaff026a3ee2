import Daybook.Proofs.Http.FormText
import Daybook.Proofs.Json.Spelling
import Daybook.Proofs.Login.Exchange

/-!
# The two formats of a reply with an access token

Older versions of the provider answer with a form, newer ones with a JSON object.  A list of names
and values can be sent in either format, in many spellings and with blanks around it, and comes to
the same: the one value with the name of the access token is granted if it is not empty, and all
other names are ignored.

## Main definitions

* `ProviderError.wordless` : a failure without the words for its reason.
* `Provider.granted` : what a list of names and values comes to.

## Main results

* `Provider.parseToken_form`, `Provider.parseToken_object` : each of the formats.
* `Provider.parseToken_formats_agree` : both formats, and no format grants an empty token.
-/

namespace Daybook

/-- A failure without the words for what is wrong with a text. -/
def ProviderError.wordless : ProviderError → ProviderError
  | .malformedToken _ => .malformedToken ""
  | e => e

namespace Provider

open Json Utf8

/-- What names and values come to: the one value with the name of the token, if it is not empty. -/
def granted (fields : List (String × String)) : Except ProviderError String :=
  match textsOf "access_token" fields with
  | [] => .error (.missingField "access_token")
  | [token] => if token = "" then .error (.missingField "access_token") else .ok token
  | _ :: _ :: _ => .error (.malformedToken "")

variable {fields : List (String × String)}

theorem granted_of_eq {o : Option String} (h : textsOf "access_token" fields = o.toList) :
    (named o).mapError ProviderError.wordless = granted fields := by
  rw [granted, h]
  cases o with
  | none => rfl
  | some token =>
    simp only [named, Option.toList_some, String.isEmpty_iff]
    split <;> rfl

theorem granted_of_two_le (h : 2 ≤ (textsOf "access_token" fields).length) :
    granted fields = .error (.malformedToken "") := by
  rw [granted]
  split
  · next he => simp [he] at h
  · next he => simp [he] at h
  · rfl

/-- There is at most one text with a name, or there are two. -/
theorem textsOf_cases (name : String) (fields : List (String × String)) :
    (∃ o : Option String, textsOf name fields = o.toList) ∨ 2 ≤ (textsOf name fields).length := by
  cases h : textsOf name fields with
  | nil => exact .inl ⟨none, rfl⟩
  | cons token tokens =>
    cases tokens with
    | nil => exact .inl ⟨some token, rfl⟩
    | cons token' tokens => exact .inr (Nat.le_add_left 2 tokens.length)

/-! ### Forms -/

theorem value?_eq (name : String) (fields : List (String × String)) :
    Form.value? name fields = (textsOf name fields).head? := by
  rw [Form.value?]
  induction fields with
  | nil => rfl
  | cons field fields ih =>
    obtain ⟨key, value⟩ := field
    by_cases hkey : key = name
    · subst hkey
      simp
    · have hbeq : (name == key) = false := beq_eq_false_iff_ne.2 (Ne.symm hkey)
      rw [List.lookup_cons, hbeq, textsOf_cons_of_ne hkey]
      exact ih

/-- A name is repeated when there are two texts with it, those seen before included. -/
theorem repeatedAfter?_eq {name : String} {seen : List String} (h : seen = [] ∨ seen = [name])
    (fields : List (String × String)) :
    Form.repeatedAfter? [name] seen fields =
      if 2 ≤ seen.length + (textsOf name fields).length then some name else none := by
  induction fields generalizing seen with
  | nil => rcases h with rfl | rfl <;> rfl
  | cons field fields ih =>
    obtain ⟨key, value⟩ := field
    by_cases hkey : key = name
    · subst hkey
      rcases h with rfl | rfl
      · simp [Form.repeatedAfter?, ih (.inr rfl), Nat.add_comm]
      · simp only [Form.repeatedAfter?, List.mem_singleton, if_true, textsOf_cons_of_eq,
          List.length_cons, List.length_nil]
        rw [if_pos (by omega)]
    · simp [Form.repeatedAfter?, textsOf_cons_of_ne hkey, hkey, ih h]

theorem parseToken_form {l r form : List Char}
    (hl : ∀ c ∈ l, Text.isBlank c = true) (hr : ∀ c ∈ r, Text.isBlank c = true)
    (h : Form.Spells fields form) :
    (parseToken (String.ofList (l ++ form ++ r))).mapError ProviderError.wordless =
      granted fields := by
  have htrim : Text.trim (String.ofList (l ++ form ++ r)).toList = form := by
    rw [String.toList_ofList, Text.trim_append_right hr, Text.trim_append_left hl,
      Text.trim_of_forall fun c hc => (h.bounds c hc).1]
  have hhead : form.head? ≠ some '\x7b' := fun he =>
    (h.bounds _ (List.mem_of_mem_head? he)).2 rfl
  have hparse : Form.parse (Utf8.encode (String.ofList form)) = fields := by
    rw [encode_ofList]
    exact Form.parse_of_spells h
  have hrepeated : Form.repeated? ["access_token"] fields =
      if 2 ≤ (textsOf "access_token" fields).length then some "access_token" else none :=
    (repeatedAfter?_eq (.inl rfl) fields).trans (by rw [List.length_nil, Nat.zero_add])
  simp only [parseToken, htrim, if_neg hhead, hparse, hrepeated]
  rcases textsOf_cases "access_token" fields with ⟨o, ho⟩ | htwo
  · have hone : ¬2 ≤ (textsOf "access_token" fields).length := by
      rw [ho]
      cases o <;> simp
    have hvalue : Form.value? "access_token" fields = o := by
      rw [value?_eq, ho]
      cases o <;> rfl
    rw [if_neg hone]
    exact (congrArg _ (congrArg named hvalue)).trans (granted_of_eq ho)
  · rw [if_pos htwo, granted_of_two_le htwo]
    rfl

/-! ### Objects -/

theorem parseToken_object {l r json : List Char}
    (hl : ∀ c ∈ l, Text.isBlank c = true) (hr : ∀ c ∈ r, Text.isBlank c = true)
    (h : SpellsObject fields json) :
    (parseToken (String.ofList (l ++ json ++ r))).mapError ProviderError.wordless =
      granted fields := by
  have htrim : Text.trim (String.ofList (l ++ json ++ r)).toList = json := by
    rw [String.toList_ofList, Text.trim_append_right hr, Text.trim_append_left hl]
    obtain ⟨-⟩ := h
    exact Text.trim_of_ends (by decide) (by decide) _
  have hhead : json.head? = some '\x7b' := by
    obtain ⟨-⟩ := h
    rfl
  have hinput : Utf8.encode (String.ofList json) = bytes json := encode_ofList json
  obtain ⟨hone, htwo⟩ : (∀ o : Option String, textsOf "access_token" fields = o.toList →
      ∀ token, (o.map some <|> some none) = some token →
        tokenCodec.decode (bytes json) = .ok token) ∧
      (2 ≤ (textsOf "access_token" fields).length →
        ∃ fault, tokenCodec.decode (bytes json) = .error fault) :=
    decode_of_spells (Member.readsTexts_optional "access_token" false) h
  simp only [parseToken, htrim, if_pos hhead, hinput]
  rcases textsOf_cases "access_token" fields with ⟨o, ho⟩ | hlength
  · rw [hone o ho o (by cases o <;> rfl)]
    exact granted_of_eq ho
  · obtain ⟨fault, hfault⟩ := htwo hlength
    rw [hfault, granted_of_two_le hlength]
    rfl

/-- A list of names and values comes to the same in both formats, however it is spelled and whatever
blanks stand around it; and a token that is granted is not empty. -/
theorem parseToken_formats_agree (fields : List (String × String)) :
    ((∃ form, Form.Spells fields form) ∧ ∃ json, SpellsObject fields json) ∧
    (∀ l r form : List Char, (∀ c ∈ l ++ r, Text.isBlank c = true) → Form.Spells fields form →
      (parseToken (String.ofList (l ++ form ++ r))).mapError ProviderError.wordless =
        granted fields) ∧
    (∀ l r json : List Char, (∀ c ∈ l ++ r, Text.isBlank c = true) → SpellsObject fields json →
      (parseToken (String.ofList (l ++ json ++ r))).mapError ProviderError.wordless =
        granted fields) ∧
    ∀ text, parseToken text ≠ .ok "" := by
  refine ⟨⟨Form.exists_spells fields, exists_spellsObject fields⟩, ?_, ?_, ?_⟩
  · intro l r form hblank h
    rw [List.forall_mem_append] at hblank
    exact parseToken_form hblank.1 hblank.2 h
  · intro l r json hblank h
    rw [List.forall_mem_append] at hblank
    exact parseToken_object hblank.1 hblank.2 h
  · intro text hempty
    rcases parseToken_cases text with ⟨token, hne, hok⟩ | ⟨e, herror, -⟩
    · exact hne (Except.ok.inj (hok.symm.trans hempty))
    · rw [herror] at hempty
      cases hempty

end Provider

/-- A reply with a brace in another value, a space in the token and blanks around it. -/
theorem Sample.token_in_both_formats :
    let fields := [("scope", "\x7b"), ("access_token", "a b")]
    Provider.granted fields = .ok "a b" ∧
      (Provider.parseToken " scope=%7B&access_token=a+b\n").mapError ProviderError.wordless =
        .ok "a b" ∧
      (Provider.parseToken
        "\t\x7b\"scope\" : \"\x7b\",\"access_token\":\"a\\u0020b\"\x7d").mapError
          ProviderError.wordless = .ok "a b" := by
  intro fields
  have hagree := Provider.parseToken_formats_agree fields
  have hvalue : Form.SpellsBytes (Utf8.encode "a b") ['a', '+', 'b'] :=
    .cons (.itself (by decide)) (.cons .plus (.cons (.itself (by decide)) .nil))
  have hform : Form.Spells fields _ :=
    .cons (.intro (Percent.spells_encode "scope") (Percent.spells_encode "\x7b"))
      (.one (.intro (Percent.spells_encode "access_token") hvalue))
  have htext : String.ofList ([' '] ++ (Percent.encode "scope" ++ '=' :: Percent.encode "\x7b" ++
      '&' :: (Percent.encode "access_token" ++ '=' :: ['a', '+', 'b'])) ++ ['\n']) =
      " scope=%7B&access_token=a+b\n" := by
    decide +kernel
  have hnone : Json.Spaces [] := Json.spaces_nil
  have hspace : Json.Spaces [' '] := Json.spaces_singleton (by decide)
  have hchars : Json.SpellsChars "a b".toList ['a', '\\', 'u', '0', '0', '2', '0', 'b'] :=
    .cons (c := 'a') (.itself (by decide) (by decide) (by decide)) (.cons (c := ' ') (.number
      (.digits (p := 0) (q := 0) (r := 2) (s := 0) rfl rfl rfl rfl rfl))
      (.cons (c := 'b') (.itself (by decide) (by decide) (by decide)) .nil))
  have hjson : Json.SpellsObject fields _ :=
    .braces (.cons hnone (.member hnone (Json.spellsText_quoted "scope") hspace hspace
      (Json.spellsText_quoted "\x7b")) (.cons hnone (.member hnone
      (Json.spellsText_quoted "access_token") hnone hnone (.quoted hchars)) (.nil hnone)))
  have hreadForm := hagree.2.1 [' '] ['\n'] _ (by simp [Text.isBlank]) hform
  have hreadObject := hagree.2.2.1 ['\t'] [] _ (by simp [Text.isBlank]) hjson
  rw [htext] at hreadForm
  exact ⟨rfl, hreadForm, hreadObject⟩

end Daybook
