import Daybook.Text.Utf8

/-!
# Media types

A media type is a type and a subtype joined by a slash, followed by parameters.  A subtype may end
in a suffix after a plus sign.

## Main definitions

* `MediaType`, `MediaType.parse?` : a media type, and the strict reader of its text.
* `MediaType.isJson` : whether a media type stands for JSON.
-/

namespace Daybook

/-- A type, a subtype without its suffix, and the suffix, in small letters. -/
structure MediaType where
  type : String
  subtype : String
  suffix : Option String
deriving DecidableEq, Repr

namespace MediaType

/-- Whether a character may stand in a name: a letter, a digit or one of fifteen marks. -/
def isToken (c : Char) : Bool :=
  c.isAlphanum || "!#$%&'*+-.^_`|~".toList.contains c

/-- Whether a character may stand in quotation marks: all but control characters. -/
def isQuotable (c : Char) : Bool :=
  0x20 ≤ c.toNat && c.toNat != 0x7F

/-- Where a reader stands among the parameters: at the start of one, in its name, after the equality
sign, in its value, or after a quoted value. -/
inductive ParameterState where
  | start
  | name
  | value
  | token
  | quoted (empty : Bool)
  | closed

/-- Whether a text is a list of parameters, as read from a state on. -/
def areParameters : ParameterState → List Char → Bool
  | .start, [] => true
  | .start, c :: cs =>
    if c = ' ' then areParameters .start cs
    else isToken c && areParameters .name cs
  | .name, [] => false
  | .name, c :: cs =>
    if c = '=' then areParameters .value cs
    else isToken c && areParameters .name cs
  | .value, [] => true
  | .value, c :: cs =>
    if c = '"' then areParameters (.quoted true) cs
    else isToken c && areParameters .token cs
  | .token, [] => true
  | .token, c :: cs =>
    if c = ';' then areParameters .start cs
    else isToken c && areParameters .token cs
  | .quoted _, [] => false
  | .quoted empty, c :: cs =>
    if c = '"' ∧ !empty then areParameters .closed cs
    else isQuotable c && areParameters (.quoted false) cs
  | .closed, [] => true
  | .closed, c :: cs =>
    if c = ';' then areParameters .start cs
    else c == ' ' && areParameters .closed cs

/-- A subtype and its suffix, which follows the last plus sign that is not the first character. -/
def ofSubtype (type subtype : List Char) : MediaType :=
  let lower (cs : List Char) : String := String.ofList (cs.map Char.toLower)
  let suffix := (subtype.drop 1).reverse.takeWhile (· != '+')
  if (subtype.drop 1).contains '+' then
    ⟨lower type, lower (subtype.take (subtype.length - suffix.length - 1)),
      some (lower suffix.reverse)⟩
  else ⟨lower type, lower subtype, none⟩

/-- The media type that a text denotes. -/
def parse? (s : List Char) : Option MediaType :=
  let type := s.takeWhile isToken
  match s.drop type.length with
  | '/' :: rest =>
    let subtype := rest.takeWhile isToken
    if type.isEmpty then none
    else
      match rest.drop subtype.length with
      | [] => some (ofSubtype type subtype)
      | ';' :: parameters =>
        if !subtype.isEmpty && areParameters .start parameters then some (ofSubtype type subtype)
        else none
      | _ => none
  | _ => none

/-- Whether a media type stands for JSON, by its subtype or its suffix. -/
def isJson (m : MediaType) : Bool :=
  m.type == "application" && (m.subtype == "json" || m.suffix == some "json")

end MediaType

end Daybook
