import Cashbook.Ledger.Accounts

/-!
# Accounts by number or name

What a user writes for an account is a number if it reads as one, and otherwise the name of an
active account; of several with one name, the newest is meant.
-/

namespace Cashbook.Account

/-- The number of the account of an owner that a text means. -/
def resolve (owner text : String) : Call Int := do
  match Integer.read? text.toList with
  | some id =>
      if (← Account.find owner id).isNone then
        throw (.unknownAccountId id)
      return id
  | none =>
      let accounts ← Account.list owner none
      match accounts.find? fun account => account.name = text with
      | some account => return account.id
      | none => throw (.unknownAccountName text)

end Cashbook.Account
