import Daybook.Login.User
import Daybook.Store.Error
import Daybook.Store.Table

/-!
# The accounts that are kept

## Main definitions

* `Users` : the accounts by their identifiers.
* `Users.findByUid?` : the account for a profile.
* `Users.create` : a new account for a profile that has none.
* `Users.count` : the number of accounts.
-/

namespace Daybook

/-- The accounts by their identifiers. -/
abbrev Users := Table Uuid User

namespace Users

/-- The account for the profile with an identifier. -/
def findByUid? (us : Users) (uid : String) : Option User :=
  us.values.find? fun u => u.uid == uid

/-- A new account for a profile, unless there is one. -/
def create (us : Users) (id : Uuid) (now : Instant) (p : Profile) :
    Except StoreError (User × Users) :=
  if us.values.any fun u => u.uid == p.id then .error (.uidTaken p.id)
  else
    let u : User := ⟨id, p.id, p.name, now⟩
    .ok (u, us.insert id u)

/-- The number of accounts. -/
def count (us : Users) : Nat :=
  us.values.length

end Users

end Daybook
