import Cashbook.Ledger.Accounts
import Cashbook.Ledger.Transfers
import Cashbook.Money.Amount

/-!
# Asking for a transfer

A transfer is refused before anything is written when its amount is missing, not positive or finer
than a cent, when both accounts are one, when one of them is not the owner's, or when the source
does not show enough.  The ledger checks the source again within its unit of work.
-/

namespace Cashbook.Movement

open Call Money

/-- What a transfer is for when nobody says. -/
def defaultDescription : String :=
  "Transferência interna"

/-- The description of a transfer. -/
def describe (description : Option String) : String :=
  match description with
  | some text => if text = "" then defaultDescription else text
  | none => defaultDescription

/-- Refuses an amount that cannot be moved. -/
def checkAmount (amount : Decimal) : Call Unit := do
  if ← ofArithmetic amount.isNotPositive then
    throw .amountNotPositive
  if !isWholeCents amount then
    throw .amountBelowCent

/-- Refuses a movement between accounts that are not both the owner's, or that the source does not
cover. -/
def checkAccounts (movement : Movement) : Call Unit := do
  if movement.source = movement.target then
    throw .sameAccount
  let accounts ← Account.among movement.owner [movement.source, movement.target]
  if accounts.length ≠ 2 then
    throw .accountsNotOwned
  match accounts.find? fun account => account.id = movement.source with
  | none => throw .accountsNotOwned
  | some source =>
      if (← ofArithmetic (source.balance.toDecimal.compareValues movement.amount)) = .lt then
        throw (.insufficientFunds (some source.name))

/-- Moves money between two accounts of an owner in the way given, unless that is refused. -/
def requestWith (execute : Movement → Call Int) (owner : String) (source target : Int)
    (amount : Option Decimal) : Call Int := do
  match amount with
  | none => throw .amountNotPositive
  | some amount =>
      checkAmount amount
      let movement : Movement := ⟨owner, source, target, amount⟩
      movement.checkAccounts
      execute movement

/-- Moves money between two accounts of an owner and gives the number of the record. -/
def request (owner : String) (source target : Int) (amount : Option Decimal)
    (description : Option String) : Call Int :=
  requestWith (fun movement => do
    let world ← get
    Transfer.execute movement (describe description) world.today) owner source target amount

/-- Fails to move money with a torn description, unless that is refused anyway. -/
def requestTorn (owner : String) (source target : Int) (amount : Option Decimal) : Call Int :=
  requestWith Transfer.executeTorn owner source target amount

end Cashbook.Movement
