import Cashbook.Ledger.Entities
import Cashbook.Ledger.Failure

/-!
# Acting on a ledger

A service call reads and changes a world: the ledger, the clock, the faults that storage is about
to show, and the number of series named so far.  A call ends with an answer or a failure, and
either way leaves a world behind.  A unit of work changes the ledger as a whole or not at all.
-/

namespace Cashbook

/-- The places where storage may fail. -/
inductive FaultPoint where
  /-- A row of a batch is being built. -/
  | rowBuilding
  /-- A balance is about to change by what a batch adds. -/
  | balanceChange
  /-- The record of a transfer is being built. -/
  | transferRecord
  /-- A unit of work is about to be committed. -/
  | commit
  /-- A batch of entries is about to be written. -/
  | entryWriting
  /-- A transfer is about to be written. -/
  | transferWriting
  /-- A transfer is about to be written, and something unexpected happens. -/
  | transferCrash
  /-- Another transfer slips in before the one about to be written. -/
  | race
  /-- A chat is about to be looked up. -/
  | bindingLookup
  /-- Accounts are about to be listed. -/
  | accountListing
  /-- Entries are about to be listed. -/
  | entryListing
  /-- The ledger is about to be opened for a request. -/
  | opening
  /-- Opening the ledger for a request takes longer than the request may. -/
  | slowOpening
deriving DecidableEq

/-- Money that is to move between two accounts of an owner. -/
structure Movement where
  /-- The owner. -/
  owner : String
  /-- The account that the money leaves. -/
  source : Int
  /-- The account that the money comes to. -/
  target : Int
  /-- The amount. -/
  amount : Decimal
deriving DecidableEq

/-- A fault that storage will show once. -/
structure Fault where
  /-- Where it shows. -/
  point : FaultPoint
  /-- How many visits to that place are left, the one that fails included. -/
  countdown : Nat := 1
  /-- The transfer that slips in. -/
  rival : Option Movement := none
deriving DecidableEq

/-- Everything that a service call reads or changes. -/
structure World where
  /-- The ledger. -/
  ledger : Ledger
  /-- The current day. -/
  today : Date
  /-- The moment that new rows are written at. -/
  now : Instant
  /-- The fault that storage will show. -/
  fault : Option Fault := none
  /-- The number of series of installments named so far. -/
  groupsNamed : Nat := 0
deriving DecidableEq

/-- A service call. -/
abbrev Call := EStateM Failure World

namespace Call

/-- Visits a place where storage may fail; tells the fault that shows there now, if one does. -/
def visit (point : FaultPoint) : Call (Option Fault) := fun world =>
  match world.fault with
  | none => .ok none world
  | some fault =>
      if fault.point = point then
        if fault.countdown = 1 then .ok (some fault) { world with fault := none }
        else
          .ok none { world with fault := some { fault with countdown := fault.countdown - 1 } }
      else
        .ok none world

/-- Visits a place where storage may fail, and fails there if a fault shows. -/
def failAt (point : FaultPoint) (failure : Failure) : Call Unit := do
  if (← visit point).isSome then
    throw failure

/-- The ledger. -/
def ledger : Call Ledger := do
  return (← get).ledger

/-- Replaces the ledger. -/
def putLedger (ledger : Ledger) : Call Unit :=
  modify fun world => { world with ledger := ledger }

/-- Changes the ledger. -/
def changeLedger (change : Ledger → Ledger) : Call Unit :=
  modify fun world => { world with ledger := change world.ledger }

/-- A unit of work: everything it does to the ledger is kept, or nothing when it or its commit
fails. -/
def atomically {Answer : Type} (work : Call Answer) : Call Answer := fun world =>
  match (do
      let answer ← work
      failAt .commit (.writeFailed .insideUnit)
      return answer : Call Answer) world with
  | .ok answer after => .ok answer after
  | .error failure after => .error failure { after with ledger := world.ledger }

/-- A failed unit of work leaves the ledger as it was. -/
theorem ledger_of_atomically_error {Answer : Type} {work : Call Answer} {world after : World}
    {failure : Failure} (h : atomically work world = .error failure after) :
    after.ledger = world.ledger := by
  unfold atomically at h
  split at h
  · cases h
  · injection h with _ same
    simp [← same]

/-- Fails unless the number fits into 64 bits. -/
def checkWord (number : Int) : Call Unit := do
  if !Integer.isWord number then
    throw .idTooLarge

/-- Fails unless the number, where it is given, fits into 64 bits. -/
def checkWord? : Option Int → Call Unit
  | some number => checkWord number
  | none => pure ()

/-- Fails if an amount refuses every operation, so that it has no binary form either. -/
def checkQuiet (amount : Decimal) : Call Unit := do
  if amount.isSignaling then
    throw (.writeFailed .signaling)

/-- The stored form of an amount for a column; what is no number cannot be stored. -/
def storable (column : String) (amount : Decimal) : Call Money.Stored :=
  match Money.Stored.ofDecimal? amount with
  | some stored => pure stored
  | none => throw (.writeFailed (.notNumber column))

/-- The result of an operation on stored amounts for a column. -/
def storedResult (column : String) : Option Money.Stored → Call Money.Stored
  | some stored => pure stored
  | none => throw (.writeFailed (.notNumber column))

/-- The result of decimal arithmetic. -/
def ofArithmetic {Answer : Type} : Except Decimal.ArithmeticError Answer → Call Answer
  | .ok answer => pure answer
  | .error error => throw (.arithmetic error)

/-- The result of a step in the calendar. -/
def ofCalendar {Answer : Type} : Except CalendarError Answer → Call Answer
  | .ok answer => pure answer
  | .error error => throw (.calendar error)

end Call

end Cashbook
