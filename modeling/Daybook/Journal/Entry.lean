import Daybook.Json.Record

/-!
# Journal entries

An entry is the text that a user has written on a day.  A page shows the entry of a day, or an empty
one, and says whether it may be written.

## Main definitions

* `Entry`, `Entry.blank` : an entry, and the empty one of a day.
* `characterCount` : the length of a text as its writer sees it.
* `Page`, `Submission` : what is shown of an entry, and what is sent to replace its text.
-/

namespace Daybook

open Json

/-- The text of a user's day. -/
structure Entry where
  id : Uuid
  userId : Uuid
  date : String
  body : String
  updatedAt : Instant
deriving DecidableEq, Repr

namespace Entry

/-- The empty entry of a day. -/
def blank (id userId : Uuid) (date : String) (now : Instant) : Entry :=
  ⟨id, userId, date, "", now⟩

/-- The members of an entry. -/
def members : List Member :=
  [.required "id" uuid, .required "user_id" uuid, .required "date" text, .required "body" text,
   .required "updated_at" instant]

/-- The JSON text of an entry. -/
def codec : Codec Entry :=
  record "Entry" members (fun (id, userId, date, body, updatedAt, _) =>
    ⟨id, userId, date, body, updatedAt⟩)
    (fun e => (e.id, e.userId, e.date, e.body, e.updatedAt, ()))

end Entry

/-! ### Length of a text -/

/-- The number of characters of a text added to a number, where a carriage return with a line feed
after it counts as one. -/
def countCharacters (n : Nat) : List Char → Nat
  | [] => n
  | '\r' :: '\n' :: rest => countCharacters (n + 1) rest
  | _ :: rest => countCharacters (n + 1) rest

/-- The number of characters of a text, where a carriage return with a line feed after it counts as
one. -/
def characterCount (s : String) : Nat :=
  countCharacters 0 s.toList

/-! ### Pages -/

/-- What is shown of a day: its entry, whether it may be written, and whether it was saved. -/
structure Page where
  id : Uuid
  userId : Uuid
  date : String
  body : String
  charCount : UInt64
  editable : Bool
  saved : Bool
  updatedAt : Instant
deriving DecidableEq, Repr

namespace Page

/-- The page of an entry. -/
def ofEntry (e : Entry) (editable saved : Bool) : Page :=
  ⟨e.id, e.userId, e.date, e.body, UInt64.ofNat (characterCount e.body), editable, saved,
    e.updatedAt⟩

/-- The members of a page. -/
def members : List Member :=
  [.required "id" uuid, .required "user_id" uuid, .required "date" text, .required "body" text,
   .required "char_count" count, .required "editable" flag, .required "saved" flag,
   .required "updated_at" instant]

/-- The JSON text of a page. -/
def codec : Codec Page :=
  record "EntryResponse" members
    (fun (id, userId, date, body, charCount, editable, saved, updatedAt, _) =>
      ⟨id, userId, date, body, charCount, editable, saved, updatedAt⟩)
    (fun p => (p.id, p.userId, p.date, p.body, p.charCount, p.editable, p.saved, p.updatedAt, ()))

end Page

/-- A new text for the entry of a day. -/
structure Submission where
  body : String
deriving DecidableEq, Repr

/-- The JSON text of a submission. -/
def Submission.codec : Codec Submission :=
  record "SaveEntryRequest" [.required "body" text] (fun (body, _) => ⟨body⟩)
    (fun s => (s.body, ()))

end Daybook
