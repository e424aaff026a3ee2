import Daybook.Login.Provider
import Daybook.Proofs.Http.FormText

/-!
# What the addresses of the provider carry

A code stands in an address next to the secret of the application, and whoever comes back from the
dialog chooses the code.  Every text is encoded before it is put into an address.  So each address
can be taken apart into the texts that were put into it: none of them ends a field, begins another
one or cuts off the rest, and addresses for different texts are different.

## Main definitions

* `Address.base`, `Address.query`, `Address.fields` : the parts of an address.
* `Address.Carries` : an address carries some fields, and nothing else.
* `Address.IsBare`, `Endpoints.AreBare` : addresses to which a query can be added.

## Main results

* `Address.Carries.unique` : no address carries two lists of fields.
* `Provider.carries_query` : an address carries the fields of the query added to it.
* `Provider.addresses_carry_inputs` : so do all addresses of the provider.
-/

namespace Daybook

namespace Address

/-! ### The parts of an address -/

/-- What comes before the query of an address. -/
def base (url : String) : List Char :=
  Text.before '?' (Text.before '#' url.toList)

/-- What comes between the first question mark of an address and its fragment. -/
def query (url : String) : List Char :=
  Text.after '?' (Text.before '#' url.toList)

/-- The text behind a part of an address, if its bytes are well formed. -/
def decoded? (cs : List Char) : Option String :=
  Utf8.decode? (Percent.decode (Utf8.bytes cs))

/-- The query of an address divided at its ampersands, and these parts at their equality signs. -/
def fields (url : String) : List (List (Option String)) :=
  (Text.pieces '&' (query url)).map fun piece => (Text.pieces '=' piece).map decoded?

/-- An address *carries* fields when its query consists of them in their order, and is written with
nothing but letters, digits and some marks. -/
structure Carries (url endpoint : String) (named : List (String × String)) : Prop where
  base_eq : base url = endpoint.toList
  fields_eq : fields url = named.map fun (name, value) => [some name, some value]
  written : ∀ c ∈ query url, Percent.IsWritten c ∨ c ∈ ['&', '=']

/-- No address carries two lists of fields, or adds them to two endpoints. -/
theorem Carries.unique {url endpoint endpoint' : String} {named named' : List (String × String)}
    (h : Carries url endpoint named) (h' : Carries url endpoint' named') :
    endpoint = endpoint' ∧ named = named' := by
  refine ⟨String.toList_inj.1 (h.base_eq.symm.trans h'.base_eq), ?_⟩
  refine (List.map_inj_right ?_).1 (h.fields_eq.symm.trans h'.fields_eq)
  rintro ⟨name, value⟩ ⟨name', value'⟩ he
  simp only [List.cons.injEq, Option.some.injEq, and_true] at he
  exact Prod.ext he.1 he.2

/-- An address is *bare* when it has neither a query nor a fragment. -/
def IsBare (url : String) : Prop :=
  '?' ∉ url.toList ∧ '#' ∉ url.toList
deriving Decidable

end Address

/-- All addresses of the provider are bare. -/
structure Endpoints.AreBare (e : Endpoints) : Prop where
  dialog : Address.IsBare e.dialog
  accessToken : Address.IsBare e.accessToken
  profile : Address.IsBare e.profile

namespace Provider

open Address

/-! ### Queries -/

/-- A field of a query. -/
def written (field : String × String) : List Char :=
  field.1.toList ++ '=' :: Percent.encode field.2

theorem toList_query (fields : List (String × String)) :
    (Provider.query fields).toList = ['&'].intercalate (fields.map written) := by
  rw [Provider.query, String.toList_intercalate, List.map_map]
  congr 1
  refine List.map_congr_left fun field _ => ?_
  simp [written]

theorem decoded?_encode (s : String) : decoded? (Percent.encode s) = some s := by
  rw [decoded?, Percent.decode_encode, Utf8.decode?_encode]

/-- A query has fields, whose names are written without percent signs. -/
structure IsQuery (fields : List (String × String)) : Prop where
  ne_nil : fields ≠ []
  encode_name : ∀ field ∈ fields, Percent.encode field.1 = field.1.toList

section

variable {endpoint endpoint' : String} {fields fields' : List (String × String)}

theorem isWritten_of_mem_written (h : IsQuery fields) {field : String × String}
    (hfield : field ∈ fields) {c : Char} (hc : c ∈ written field) :
    Percent.IsWritten c ∨ c = '=' := by
  rw [written, ← h.encode_name field hfield, List.mem_append, List.mem_cons] at hc
  rcases hc with hc | rfl | hc
  · exact .inl (Percent.isWritten_of_mem_encode hc)
  · exact .inr rfl
  · exact .inl (Percent.isWritten_of_mem_encode hc)

theorem isWritten_of_mem_query (h : IsQuery fields) {c : Char}
    (hc : c ∈ (Provider.query fields).toList) : Percent.IsWritten c ∨ c ∈ ['&', '='] := by
  rw [toList_query] at hc
  rcases Text.mem_of_mem_intercalate hc with rfl | ⟨p, hp, hc⟩
  · exact .inr (by decide)
  · obtain ⟨field, hfield, rfl⟩ := List.mem_map.1 hp
    rcases isWritten_of_mem_written h hfield hc with hwritten | rfl
    · exact .inl hwritten
    · exact .inr (by decide)

/-- A query is divided at its ampersands into its fields. -/
theorem pieces_query (h : IsQuery fields) :
    Text.pieces '&' (Provider.query fields).toList = fields.map written := by
  rw [toList_query, Text.pieces_intercalate (by simpa using h.ne_nil)]
  intro p hp hmem
  obtain ⟨field, hfield, rfl⟩ := List.mem_map.1 hp
  exact absurd (isWritten_of_mem_written h hfield hmem) (by decide)

/-- A field is divided at its equality sign into its name and its value. -/
theorem pieces_written (h : IsQuery fields) {field : String × String} (hfield : field ∈ fields) :
    (Text.pieces '=' (written field)).map decoded? = [some field.1, some field.2] := by
  have hencoded (s : String) : '=' ∉ Percent.encode s := fun hmem =>
    absurd (Percent.isWritten_of_mem_encode hmem) (by decide)
  rw [written, ← h.encode_name field hfield, Text.pieces_append (hencoded _),
    Text.pieces_of_notMem (hencoded _), List.map_cons, List.map_singleton, decoded?_encode,
    decoded?_encode]

/-- An address carries the fields of the query that is added to it. -/
theorem carries_query (hbare : IsBare endpoint) (h : IsQuery fields) :
    Carries (endpoint ++ "?" ++ Provider.query fields) endpoint fields := by
  have hlist : (endpoint ++ "?" ++ Provider.query fields).toList =
      endpoint.toList ++ '?' :: (Provider.query fields).toList := by
    simp
  have hfragment : '#' ∉ endpoint.toList ++ '?' :: (Provider.query fields).toList := by
    rw [List.mem_append, List.mem_cons]
    rintro (hmem | he | hmem)
    · exact hbare.2 hmem
    · exact absurd he (by decide)
    · exact absurd (isWritten_of_mem_query h hmem) (by decide)
  have hquery : Address.query (endpoint ++ "?" ++ Provider.query fields) =
      (Provider.query fields).toList := by
    rw [Address.query, hlist, Text.before_of_notMem hfragment, Text.after_append hbare.1]
  refine ⟨?_, ?_, ?_⟩
  · rw [base, hlist, Text.before_of_notMem hfragment, Text.before_append hbare.1]
  · rw [Address.fields, hquery, pieces_query h, List.map_map]
    exact List.map_congr_left fun field hfield => pieces_written h hfield
  · rw [hquery]
    exact fun c hc => isWritten_of_mem_query h hc

theorem query_eq_iff (hbare : IsBare endpoint) (hbare' : IsBare endpoint') (h : IsQuery fields)
    (h' : IsQuery fields') :
    endpoint ++ "?" ++ Provider.query fields = endpoint' ++ "?" ++ Provider.query fields' ↔
      endpoint = endpoint' ∧ fields = fields' := by
  constructor
  · intro he
    have hcarries := carries_query hbare h
    rw [he] at hcarries
    exact hcarries.unique (carries_query hbare' h')
  · rintro ⟨rfl, rfl⟩
    rfl

end

/-! ### The addresses of the provider -/

/-- The names in the addresses of the provider are written without percent signs. -/
theorem encode_name : ∀ name ∈ ["client_id", "client_secret", "code", "redirect_uri",
    "access_token"], Percent.encode name = name.toList := by
  decide +kernel

theorem isQuery_token (id secret code redirect : String) :
    IsQuery [("client_id", id), ("client_secret", secret), ("code", code),
      ("redirect_uri", redirect)] :=
  ⟨List.cons_ne_nil _ _, by simp [encode_name]⟩

theorem isQuery_dialog (id redirect : String) :
    IsQuery [("client_id", id), ("redirect_uri", redirect)] :=
  ⟨List.cons_ne_nil _ _, by simp [encode_name]⟩

theorem isQuery_profile (token : String) : IsQuery [("access_token", token)] :=
  ⟨List.cons_ne_nil _ _, by simp [encode_name]⟩

/-- Each address of the provider carries exactly the texts that it is made of, whatever characters
they have, and different texts give different addresses. -/
theorem addresses_carry_inputs {e e' : Endpoints} (he : e.AreBare) (he' : e'.AreBare)
    (s s' : LoginSettings) (code code' token token' : String) :
    (Carries (tokenUrl e s code) e.accessToken [("client_id", s.appId),
        ("client_secret", s.appSecret), ("code", code), ("redirect_uri", s.redirectUrl)] ∧
      Carries (dialogUrl e s) e.dialog [("client_id", s.appId), ("redirect_uri", s.redirectUrl)] ∧
      Carries (profileUrl e token) e.profile [("access_token", token)]) ∧
    (tokenUrl e s code = tokenUrl e' s' code' ↔ e.accessToken = e'.accessToken ∧
      s.appId = s'.appId ∧ s.appSecret = s'.appSecret ∧ code = code' ∧
      s.redirectUrl = s'.redirectUrl) ∧
    (dialogUrl e s = dialogUrl e' s' ↔
      e.dialog = e'.dialog ∧ s.appId = s'.appId ∧ s.redirectUrl = s'.redirectUrl) ∧
    (profileUrl e token = profileUrl e' token' ↔ e.profile = e'.profile ∧ token = token') := by
  refine ⟨⟨?_, ?_, ?_⟩, ?_, ?_, ?_⟩
  · exact carries_query he.accessToken (isQuery_token _ _ _ _)
  · exact carries_query he.dialog (isQuery_dialog _ _)
  · exact carries_query he.profile (isQuery_profile _)
  · rw [tokenUrl, tokenUrl, query_eq_iff he.accessToken he'.accessToken (isQuery_token _ _ _ _)
      (isQuery_token _ _ _ _)]
    simp
  · rw [dialogUrl, dialogUrl, query_eq_iff he.dialog he'.dialog (isQuery_dialog _ _)
      (isQuery_dialog _ _)]
    simp
  · rw [profileUrl, profileUrl, query_eq_iff he.profile he'.profile (isQuery_profile _)
      (isQuery_profile _)]
    simp

end Provider

/-- The addresses of the provider that is used are bare. -/
theorem Endpoints.areBare_standard : Endpoints.standard.AreBare :=
  ⟨by decide, by decide, by decide⟩

/-- A code that looks like more fields is one field, and is told apart from what it begins with. -/
theorem Sample.hostile_code_carried :
    let s : LoginSettings :=
      ⟨"secret", 1, "session", false, "app&id=%31", "key=?", "https://host/a b#é"⟩
    let url := Provider.tokenUrl .standard s "x&client_secret=y#+%26\n"
    Address.Carries url "https://graph.facebook.com/oauth/access_token"
        [("client_id", "app&id=%31"), ("client_secret", "key=?"),
          ("code", "x&client_secret=y#+%26\n"), ("redirect_uri", "https://host/a b#é")] ∧
      url ≠ Provider.tokenUrl .standard s "x" := by
  intro s url
  have h := Provider.addresses_carry_inputs Endpoints.areBare_standard Endpoints.areBare_standard
    s s "x&client_secret=y#+%26\n" "x" "token" "token"
  refine ⟨h.1.1, fun he => ?_⟩
  exact absurd (h.2.1.1 he).2.2.2.1 (by decide)

end Daybook
