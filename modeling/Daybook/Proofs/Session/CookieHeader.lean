import Daybook.Proofs.Http.HeaderText
import Daybook.Proofs.Text.Split

/-!
# Cookies in a header

A browser sends all its cookies in one header, with semicolons between them, and most of them may
have been set by other programs.  A header is read only if all of its bytes are visible; then the
server finds its own cookie, unless a piece in front of it has the same name.

## Main definitions

* `Cookie.IsName` : the texts that name a cookie.
* `Cookie.IsForeign`, `Cookie.Neighbours` : a piece of a header that has another name or none, and
  what may stand around a cookie.

## Main results

* `Cookie.map_char_bytes` : visible bytes are the characters of their text.
* `Cookie.Neighbours.find?_header` : a cookie is found among its neighbours.
* `Cookie.isName_of_find?` : what is found under a text shows that it names a cookie.
-/

namespace Daybook.Cookie

/-! ### Bytes and characters -/

/-- The character that a byte stands for. -/
def char (b : UInt8) : Char :=
  Char.ofNat b.toNat

theorem toNat_char (b : UInt8) : (char b).toNat = b.toNat :=
  Utf8.toNat_ofNat_toNat b

theorem char_eq_iff {b : UInt8} {c : Char} : char b = c ↔ b.toNat = c.toNat := by
  rw [← Char.toNat_inj, toNat_char]

theorem char_eq_semicolon_iff (b : UInt8) : char b = ';' ↔ b = 0x3B := by
  rw [char_eq_iff, ← UInt8.toNat_inj]
  rfl

theorem headerChars?_of_visible {bs : Bytes} (h : bs.all isVisible = true) :
    headerChars? bs = some (bs.map char) :=
  if_pos h

theorem isVisible_iff {b : UInt8} :
    isVisible b = true ↔ 0x20 ≤ b.toNat ∧ b.toNat < 0x7F ∨ b.toNat = 0x09 := by
  simp [isVisible, UInt8.le_iff_toNat_le, UInt8.lt_iff_toNat_lt, ← UInt8.toNat_inj]

/-- The bytes of printable characters are visible. -/
theorem isVisible_of_isPrintable {s : String} (h : ∀ c ∈ s.toList, IsPrintable c) :
    (Utf8.encode s).all isVisible = true := by
  rw [← Utf8.bytes_toList, Utf8.bytes, List.all_flatMap, List.all_eq_true]
  intro c hc
  obtain ⟨hlow, hhigh⟩ := h c hc
  have hn : (UInt8.ofNat c.toNat).toNat = c.toNat := by
    rw [UInt8.toNat_ofNat']
    omega
  rw [Utf8.utf8EncodeChar_of_lt (Nat.lt_succ_of_lt hhigh), List.all_cons, List.all_nil,
    Bool.and_true, isVisible_iff, hn]
  exact .inl ⟨hlow, hhigh⟩

/-- A character with visible bytes is an ASCII character. -/
theorem lt_of_visible_char {c : Char} (h : ∀ b ∈ String.utf8EncodeChar c, isVisible b = true) :
    c.toNat < 0x80 := by
  refine Nat.lt_of_not_le fun hbeyond => ?_
  have hpositive : 0 < (String.utf8EncodeChar c).length := by
    rw [String.length_utf8EncodeChar]
    exact c.utf8Size_pos
  obtain ⟨b, hb⟩ := List.exists_mem_of_length_pos hpositive
  have hle : 0x80 ≤ b.toNat := Utf8.le_of_mem_utf8EncodeChar hbeyond hb
  have hvisible := isVisible_iff.1 (h b hb)
  omega

/-- Visible bytes are the characters of their text. -/
theorem map_char_bytes {cs : List Char} (h : ∀ b ∈ Utf8.bytes cs, isVisible b = true) :
    (Utf8.bytes cs).map char = cs := by
  induction cs with
  | nil => rfl
  | cons c cs ih =>
    rw [Utf8.bytes_cons, List.forall_mem_append] at h
    have hc := lt_of_visible_char h.1
    have hchar : char (UInt8.ofNat c.toNat) = c := by
      rw [char_eq_iff, UInt8.toNat_ofNat']
      omega
    rw [Utf8.bytes_cons_ascii hc, List.map_cons, hchar, ih h.2]

/-! ### Neighbours of a cookie -/

/-- A text *names* a cookie when it is not empty, has no blanks at its ends, and contains neither
semicolons nor equality signs. -/
structure IsName (name : String) : Prop where
  ne_empty : name ≠ ""
  trimmed : Text.trim name.toList = name.toList
  semicolon_notMem : ';' ∉ name.toList
  equals_notMem : '=' ∉ name.toList

/-- A piece of a header is *foreign* to a name when it has no equality sign, or another name in
front of the first one. -/
structure IsForeign (name : String) (piece : Bytes) : Prop where
  semicolon_notMem : 0x3B ∉ piece
  name_ne : '=' ∈ piece.map char → Text.trim (Text.before '=' (piece.map char)) ≠ name.toList

/-- What may stand in a header around the cookie with a name: foreign pieces before it, any pieces
after it, and blanks on both sides. -/
structure Neighbours (name : String) where
  before : List Bytes
  left : Bytes
  right : Bytes
  after : List Bytes
  foreign : ∀ p ∈ before, IsForeign name p
  blank_left : ∀ b ∈ left, b = 0x20 ∨ b = 0x09
  blank_right : ∀ b ∈ right, b = 0x20 ∨ b = 0x09
  semicolon_notMem : ∀ p ∈ after, 0x3B ∉ p

namespace Neighbours

variable {name : String} (n : Neighbours name) (value : String)

/-- The piece of a cookie and those of its neighbours. -/
def pieces : List Bytes :=
  n.before ++ (n.left ++ Utf8.encode (name ++ "=" ++ value) ++ n.right) :: n.after

/-- The header with a cookie and its neighbours. -/
def header : Bytes :=
  [0x3B].intercalate (n.pieces value)

variable (name) in
/-- No neighbours. -/
def alone : Neighbours name :=
  ⟨[], [], [], [], nofun, nofun, nofun, nofun⟩

theorem header_alone : (alone name).header value = Utf8.encode (name ++ "=" ++ value) := by
  simp [header, pieces, alone]

end Neighbours

theorem isBlank_char {bs : Bytes} (h : ∀ b ∈ bs, b = 0x20 ∨ b = 0x09) :
    ∀ c ∈ bs.map char, Text.isBlank c = true := by
  intro c hc
  obtain ⟨b, hb, rfl⟩ := List.mem_map.1 hc
  rcases h b hb with rfl | rfl <;> rfl

/-- A foreign piece is no cookie with the name. -/
theorem IsForeign.ne_of_pair? {name : String} {piece : Bytes} (h : IsForeign name piece)
    {pair : List Char × List Char} (hpair : pair? (piece.map char) = some pair) :
    pair.1 ≠ name.toList := by
  unfold pair? at hpair
  split at hpair
  · next hmem =>
    dsimp only at hpair
    split at hpair
    · cases hpair
    · cases hpair
      exact h.name_ne hmem
  · cases hpair

section

variable {name value : String} (hname : IsName name)

include hname

/-- Blanks around a cookie do not count. -/
theorem pair?_cookie {left right : List Char} (hleft : ∀ c ∈ left, Text.isBlank c = true)
    (hright : ∀ c ∈ right, Text.isBlank c = true)
    (htrimmed : Text.trim value.toList = value.toList) :
    pair? (left ++ (name ++ "=" ++ value).toList ++ right) = some (name.toList, value.toList) := by
  have hpiece : left ++ (name ++ "=" ++ value).toList ++ right =
      (left ++ name.toList) ++ '=' :: (value.toList ++ right) := by
    simp
  have hequals : '=' ∉ left ++ name.toList := by
    intro hmem
    rcases List.mem_append.1 hmem with hmem | hmem
    · exact absurd (hleft _ hmem) (by decide)
    · exact hname.equals_notMem hmem
  have hnonempty : name.toList.isEmpty = false := by
    rw [List.isEmpty_eq_false_iff]
    exact fun he => hname.ne_empty (String.toList_eq_nil_iff.1 he)
  rw [hpiece, pair?, if_pos (List.mem_append_right _ List.mem_cons_self),
    Text.before_append hequals, Text.after_append hequals, Text.trim_append_left hleft,
    Text.trim_append_right hright, hname.trimmed, htrimmed]
  simp only [hnonempty]
  rfl

namespace Neighbours

variable (n : Neighbours name) (hsemicolon : ';' ∉ value.toList)

include hsemicolon

/-- The header consists of the cookie and its neighbours. -/
theorem pieces_header : Text.pieces 0x3B (n.header value) = n.pieces value := by
  have hnone {bs : Bytes} (h : ∀ b ∈ bs, b = 0x20 ∨ b = 0x09) : 0x3B ∉ bs :=
    fun hmem => absurd (h _ hmem) (by decide)
  have hcookie : 0x3B ∉ Utf8.encode (name ++ "=" ++ value) := by
    rw [← Utf8.bytes_toList]
    intro hmem
    have hchar : ';' ∈ (name ++ "=" ++ value).toList := Utf8.mem_of_mem_bytes (by decide) hmem
    simp [hname.semicolon_notMem, hsemicolon] at hchar
  refine Text.pieces_intercalate (by simp [pieces]) fun p hp => ?_
  rcases List.mem_append.1 hp with hp | hp
  · exact (n.foreign p hp).semicolon_notMem
  · rcases List.mem_cons.1 hp with rfl | hp
    · simp [hnone n.blank_left, hnone n.blank_right, hcookie]
    · exact n.semicolon_notMem p hp

/-- A cookie is found among its neighbours when all bytes of the header are visible. -/
theorem find?_header (htrimmed : Text.trim value.toList = value.toList)
    (hvisible : (n.header value).all isVisible = true) :
    find? (n.header value) name = some value := by
  have hpieces := n.pieces_header hname hsemicolon
  have hcookie : (Utf8.encode (name ++ "=" ++ value)).map char = (name ++ "=" ++ value).toList := by
    rw [← Utf8.bytes_toList]
    refine map_char_bytes fun b hb => List.all_eq_true.1 hvisible b ?_
    rw [Utf8.bytes_toList] at hb
    have hmem : n.left ++ Utf8.encode (name ++ "=" ++ value) ++ n.right ∈
        Text.pieces 0x3B (n.header value) :=
      hpieces ▸ List.mem_append_right _ List.mem_cons_self
    exact Text.mem_of_mem_pieces hmem (List.mem_append_left _ (List.mem_append_right _ hb))
  have hpair : pair? ((n.left ++ Utf8.encode (name ++ "=" ++ value) ++ n.right).map char) =
      some (name.toList, value.toList) := by
    rw [List.map_append, List.map_append, hcookie]
    exact pair?_cookie hname (isBlank_char n.blank_left) (isBlank_char n.blank_right) htrimmed
  have hlookup : ((Text.pieces ';' ((n.header value).map char)).filterMap pair?).lookup
      name.toList = some value.toList := by
    rw [Text.pieces_map char_eq_semicolon_iff, hpieces, pieces, List.map_append, List.map_cons,
      List.filterMap_append, List.filterMap_cons_some hpair, List.lookup_eq_some_iff]
    refine ⟨_, _, rfl, fun p hp => ?_⟩
    obtain ⟨piece, hpiece, hp⟩ := List.mem_filterMap.1 hp
    obtain ⟨bs, hbs, rfl⟩ := List.mem_map.1 hpiece
    exact bne_iff_ne.2 ((n.foreign bs hbs).ne_of_pair? hp).symm
  simp [find?, headerChars?_of_visible hvisible, hlookup]

end Neighbours

end

/-! ### Cookies that are found -/

/-- A text with visible bytes can stand in a header. -/
theorem isHeaderText_of_visible {s : String} (h : (Utf8.encode s).all isVisible = true) :
    isHeaderText s = true := by
  rw [isHeaderText, List.all_eq_true]
  intro b hb
  have hvisible := isVisible_iff.1 (List.all_eq_true.1 h b hb)
  simp [UInt8.le_iff_toNat_le, ← UInt8.toNat_inj]
  omega

/-- A visible byte stands for a character that is encoded by it. -/
theorem utf8EncodeChar_char {b : UInt8} (h : isVisible b = true) :
    String.utf8EncodeChar (char b) = [b] := by
  have hlt : (char b).toNat < 0x80 := by
    have hvisible := isVisible_iff.1 h
    rw [toNat_char]
    omega
  rw [Utf8.utf8EncodeChar_of_lt hlt, toNat_char, UInt8.ofNat_toNat]

/-- The characters of a header that is read have visible bytes. -/
theorem visible_of_headerChars? {bs : Bytes} {cs : List Char} (h : headerChars? bs = some cs) :
    ∀ c ∈ cs, ∀ b ∈ String.utf8EncodeChar c, isVisible b = true := by
  unfold headerChars? at h
  split_ifs at h with hvisible
  rw [← Option.some.inj h]
  intro c hc b hb
  obtain ⟨b', hb', rfl⟩ := List.mem_map.1 hc
  have hmem := List.all_eq_true.1 hvisible b' hb'
  change b ∈ String.utf8EncodeChar (char b') at hb
  rw [utf8EncodeChar_char hmem, List.mem_singleton] at hb
  rwa [hb]

/-- What is found in a header stands there as a cookie in one of its pieces. -/
theorem exists_piece_of_find? {header : Bytes} {name value : String}
    (h : find? header name = some value) :
    ∃ cs piece, headerChars? header = some cs ∧ piece ∈ Text.pieces ';' cs ∧
      pair? piece = some (name.toList, value.toList) := by
  obtain ⟨cs, hcs, h⟩ := Option.bind_eq_some_iff.1 h
  obtain ⟨found, hfound, hvalue⟩ := Option.bind_eq_some_iff.1 h
  obtain ⟨before, after, heq, -⟩ := List.lookup_eq_some_iff.1 hfound
  have hmem : (name.toList, found) ∈ (Text.pieces ';' cs).filterMap pair? := by
    rw [heq]
    exact List.mem_append_right before List.mem_cons_self
  obtain ⟨piece, hpiece, hpair⟩ := List.mem_filterMap.1 hmem
  rw [← Option.some.inj hvalue, String.toList_ofList]
  exact ⟨cs, piece, hcs, hpiece, hpair⟩

/-- The name of a cookie that is found can name a cookie, and its bytes are visible. -/
theorem isName_of_find? {header : Bytes} {name value : String}
    (h : find? header name = some value) :
    IsName name ∧ (Utf8.encode name).all isVisible = true := by
  obtain ⟨cs, piece, hcs, hpiece, hpair⟩ := exists_piece_of_find? h
  unfold pair? at hpair
  split_ifs at hpair with hequals
  dsimp only at hpair
  split_ifs at hpair with hempty
  obtain ⟨hname, -⟩ := Prod.mk.inj (Option.some.inj hpair)
  -- the name is what is left of a piece in front of its first equality sign
  have hbefore {c : Char} (hc : c ∈ name.toList) : c ∈ Text.before '=' piece := by
    rw [← hname] at hc
    exact Text.mem_of_mem_trim hc
  have hmem {c : Char} (hc : c ∈ name.toList) : c ∈ piece :=
    (List.takeWhile_sublist _).mem (hbefore hc)
  refine ⟨⟨?_, ?_, ?_, ?_⟩, ?_⟩
  · rintro rfl
    rw [hname] at hempty
    exact hempty rfl
  · rw [← hname, Text.trim_trim]
  · exact fun hc => Text.notMem_of_mem_pieces hpiece (hmem hc)
  · exact fun hc => Text.notMem_before piece (hbefore hc)
  · rw [← Utf8.bytes_toList, Utf8.bytes, List.all_flatMap, List.all_eq_true]
    intro c hc
    rw [List.all_eq_true]
    exact visible_of_headerChars? hcs c (Text.mem_of_mem_pieces hpiece (hmem hc))

end Daybook.Cookie
