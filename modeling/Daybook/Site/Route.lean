import Daybook.Text.Split

/-!
# Addresses of the site

## Main definitions

* `Route`, `PageRoute` : the resources of the site, and those for users who are logged in.
* `Route.ofPath?` : the resource at a path.
-/

namespace Daybook

/-- The pages, which are for users who are logged in.  A date stands as in the path, still
encoded. -/
inductive PageRoute where
  | root
  | account
  | entry (date : String)
  | editing (date : String)
  | calendar (date : String)
deriving DecidableEq, Repr

/-- The resources of the site. -/
inductive Route where
  | health
  | login
  | logout
  | callback
  | page (p : PageRoute)
deriving DecidableEq, Repr

namespace Route

/-- The page of a date with the given segments after it.  A date may be empty, though no entry is
found there, but not at the end of a path. -/
def ofEntrySegments? (date : String) : List String → Option PageRoute
  | [] => if date.isEmpty then none else some (.entry date)
  | ["edit"] => some (.editing date)
  | ["calendar"] => some (.calendar date)
  | _ => none

/-- The resource with the given segments. -/
def ofSegments? : List String → Option Route
  | [""] => some (.page .root)
  | ["health"] => some .health
  | ["auth"] => some .login
  | ["auth", "logout"] => some .logout
  | ["auth", "callback"] => some .callback
  | ["auth", "me"] => some (.page .account)
  | "entries" :: date :: rest => (ofEntrySegments? date rest).map .page
  | _ => none

/-- The resource at a path, which begins with a slash. -/
def ofPath? (path : String) : Option Route :=
  match path.toList with
  | '/' :: cs => ofSegments? ((Text.pieces '/' cs).map String.ofList)
  | _ => none

end Route

end Daybook
