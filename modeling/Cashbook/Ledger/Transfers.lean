import Cashbook.Ledger.World

/-!
# Transfers within a ledger

A transfer is one unit of work: the source must cover the amount, which leaves it and comes to the
target; two entries tell of it, one for each account, and a record joins them.  When these rows
cannot be written, because their description is torn, all of it is undone.
-/

namespace Cashbook.Transfer

open Call Money

/-- Takes the amount from the source. -/
def debit (movement : Movement) : Call Unit := do
  checkWord movement.source
  let current ← ledger
  match current.account? movement.owner movement.source with
  | none => throw .accountsNotOwned
  | some account =>
      match Stored.ofDecimal? movement.amount with
      | none => throw (.insufficientFunds none)
      | some amount =>
          if account.balance.covers amount then
            let balance ← storedResult "accounts.balance" (account.balance.sub? amount)
            putLedger (current.setBalance movement.owner movement.source balance)
          else
            throw (.insufficientFunds none)

/-- Adds the amount to the target. -/
def credit (movement : Movement) : Call Unit := do
  checkWord movement.target
  let current ← ledger
  match current.account? movement.owner movement.target with
  | none => throw .accountsNotOwned
  | some account =>
      let amount ← storable "accounts.balance" movement.amount
      let balance ← storedResult "accounts.balance" (account.balance.add? amount)
      putLedger (current.setBalance movement.owner movement.target balance)

/-- One side of a transfer as an entry. -/
def side (id : Int) (movement : Movement) (amount : Stored) (description : String) (date : Date)
    (account : Int) (destination : Option Int) : Entry where
  id := id
  owner := movement.owner
  kind := .transfer
  amount := amount
  description := description
  date := date
  account := some account
  destination := destination
  card := none
  category := none
  settlement := .confirmed
  installment := {}

/-- Writes both entries and the record, and gives the number of the record. -/
def writeRows (movement : Movement) (description : String) (date : Date) : Call Int := do
  let amount ← storable "transactions.amount" movement.amount
  let current ← ledger
  let outgoing := Ledger.nextId (current.entries.map Entry.id)
  let incoming := outgoing + 1
  putLedger { current with
    entries := current.entries ++
      [side outgoing movement amount description date movement.source (some movement.target),
       side incoming movement amount description date movement.target none] }
  failAt .transferRecord (.writeFailed .insideUnit)
  let current ← ledger
  let id := Ledger.nextId (current.transfers.map Transfer.id)
  putLedger { current with
    transfers := current.transfers ++
      [⟨id, movement.owner, movement.source, movement.target, amount, outgoing, incoming, date⟩] }
  return id

/-- The unit of work of a transfer, with what writes its rows. -/
def performWith (write : Call Int) (movement : Movement) : Call Int :=
  atomically do
    checkQuiet movement.amount
    debit movement
    credit movement
    write

/-- The unit of work of a transfer. -/
def perform (movement : Movement) (description : String) (date : Date) : Call Int :=
  performWith (writeRows movement description date) movement

/-- The transfer that slips in before another one. -/
def performRival (rival : Option Movement) : Call Unit := do
  match rival with
  | some movement =>
      let world ← get
      let _ ← perform movement "race" world.today
  | none => pure ()

/-- Moves money and gives the number of the record, with what writes the rows. -/
def executeWith (write : Call Int) (movement : Movement) : Call Int := do
  failAt .transferWriting (.writeFailed .onEntry)
  failAt .transferCrash .crash
  match ← visit .race with
  | some fault => performRival fault.rival
  | none => pure ()
  performWith write movement

/-- Moves money and gives the number of the record. -/
def execute (movement : Movement) (description : String) (date : Date) : Call Int :=
  executeWith (writeRows movement description date) movement

/-- Fails to move money with a torn description. -/
def executeTorn (movement : Movement) : Call Int :=
  executeWith (throw .tornText) movement

/-- The transfer with a number. -/
def find (id : Int) : Call (Option Transfer) := do
  checkWord id
  return (← ledger).transfers.find? fun transfer => transfer.id = id

end Cashbook.Transfer
