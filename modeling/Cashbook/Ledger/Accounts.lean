import Cashbook.Ledger.World

/-!
# Accounts of an owner

Accounts are found by their number within their owner only.  Listing shows the active ones, the
newest first; of accounts written at one moment, the one with the larger number is newer.
-/

namespace Cashbook.Account

open Call

/-- Is the first account listed before the second? -/
def listedBefore (first second : Account) : Bool :=
  decide (second.writtenAt.rank < first.writtenAt.rank)
    || (first.writtenAt.rank == second.writtenAt.rank && decide (second.id ≤ first.id))

/-- The first accounts up to a limit; a negative limit is none. -/
def limited (limit : Option Int) (accounts : List Account) : List Account :=
  match limit with
  | none => accounts
  | some limit => if limit < 0 then accounts else accounts.take limit.toNat

/-- The active accounts of an owner in a ledger, the newest first. -/
def activeOf (ledger : Ledger) (owner : String) : List Account :=
  (ledger.accounts.filter fun account => account.owner = owner ∧ account.active).mergeSort
    listedBefore

/-- Writes an account and gives its number. -/
def create (owner name : String) (kind : AccountKind) (opening : Decimal) : Call Int :=
  atomically do
    checkQuiet opening
    let amount ← storable "accounts.balance" opening
    let world ← get
    let id := Ledger.nextId (world.ledger.accounts.map Account.id)
    let account : Account := ⟨id, owner, name, kind, amount, amount, true, world.now⟩
    putLedger { world.ledger with accounts := world.ledger.accounts ++ [account] }
    return id

/-- The account of an owner with a number. -/
def find (owner : String) (id : Int) : Call (Option Account) := do
  checkWord id
  return (← ledger).account? owner id

/-- The active accounts of an owner up to a limit, the newest first. -/
def list (owner : String) (limit : Option Int) : Call (List Account) := do
  failAt .accountListing .crash
  checkWord? limit
  return limited limit (activeOf (← ledger) owner)

/-- The accounts of an owner with one of the numbers, in the order of their own numbers. -/
def among (owner : String) (ids : List Int) : Call (List Account) := do
  ids.forM checkWord
  return (← ledger).accounts.filter fun account => ids.contains account.id ∧ account.owner = owner

/-- Takes an account out of use. -/
def deactivate (id : Int) : Call Unit := do
  checkWord id
  changeLedger fun current => { current with
    accounts := current.accounts.map fun account =>
      if account.id = id then { account with active := false } else account }

end Cashbook.Account
