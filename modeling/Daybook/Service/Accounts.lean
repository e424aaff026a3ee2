import Daybook.Service.Action

/-!
# Accounts of those who log in

## Main definitions

* `Accounts.ofProfile` : the account for a profile, which is made at the first login.
-/

namespace Daybook.Accounts

/-- The account for a profile.  A first login makes one; later changes of the name are not taken
over. -/
def ofProfile (p : Profile) : Action StoreError User := do
  match ← (Action.findUserByUid p.id).during .lookUpUser with
  | some u => pure u
  | none => (Action.createUser p).during .createUser

end Daybook.Accounts
