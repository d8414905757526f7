import Cashbook.Ledger.World

/-!
# Entries of an owner

A batch of entries is one unit of work.  What its entries add to an account is summed up first, in
the order in which the accounts appear, and added to the balance once; nothing is added where the
sum is zero.
-/

namespace Cashbook.Entry

open Call

/-- The account of an owner that a batch adds to, and the sum so far. -/
structure Change where
  /-- The owner. -/
  owner : String
  /-- The account. -/
  account : Int
  /-- The sum so far. -/
  sum : Decimal

/-- The changes with one more amount for an account; a new account goes behind the others. -/
def addChange (owner : String) (account : Int) (amount : Decimal) :
    List Change → Except Decimal.ArithmeticError (List Change)
  | [] => do return [⟨owner, account, ← Decimal.zero.add amount⟩]
  | change :: rest =>
      if change.owner = owner ∧ change.account = account then do
        return { change with sum := ← change.sum.add amount } :: rest
      else do
        return change :: (← addChange owner account amount rest)

/-- The changes with what one more entry adds. -/
def addEntry (changes : List Change) (entry : NewEntry) :
    Except Decimal.ArithmeticError (List Change) :=
  match entry.account with
  | some account => do addChange entry.owner account (← entry.balanceDelta) changes
  | none => .ok changes

/-- Builds the rows of a batch and sums up what they add to accounts. -/
def collect (changes : List Change) : List NewEntry → Call (List Change)
  | [] => return changes
  | entry :: rest => do
      failAt .rowBuilding (.writeFailed .insideUnit)
      collect (← ofArithmetic (addEntry changes entry)) rest

/-- Fails unless all numbers of an entry fit into 64 bits. -/
def checkNumbers (entry : NewEntry) : Call Unit := do
  checkWord? entry.account
  checkWord? entry.card
  checkWord? entry.category
  checkWord? entry.installment.index
  checkWord? entry.installment.total

/-- The row of a new entry. -/
def ofNew (id : Int) (amount : Money.Stored) (entry : NewEntry) : Entry where
  id := id
  owner := entry.owner
  kind := entry.kind
  amount := amount
  description := entry.description
  date := entry.date
  account := entry.account
  destination := none
  card := entry.card
  category := entry.category
  settlement := entry.settlement
  installment := entry.installment

/-- Writes the row of a new entry and gives its number. -/
def insert (entry : NewEntry) : Call Int := do
  checkNumbers entry
  let amount ← storable "transactions.amount" entry.amount
  let current ← ledger
  let id := Ledger.nextId (current.entries.map Entry.id)
  putLedger { current with entries := current.entries ++ [ofNew id amount entry] }
  return id

/-- Adds a sum to a balance, unless it is zero. -/
def applyChange (change : Change) : Call Unit := do
  if change.sum.isNonzero then
    failAt .balanceChange (.writeFailed .insideUnit)
    let current ← ledger
    match current.account? change.owner change.account with
    | none => throw (.accountMissing change.account)
    | some account =>
        let sum ← storable "accounts.balance" change.sum
        let balance ← storedResult "accounts.balance" (account.balance.add? sum)
        putLedger (current.setBalance change.owner change.account balance)

/-- Writes a batch of entries and gives their numbers, with what writes the rows.  All amounts are
turned into binary numbers before the first row is written; every other obstacle shows at its own
row. -/
def recordWith (write : Call (List Int)) (entries : List NewEntry) : Call (List Int) := do
  failAt .entryWriting (.writeFailed .onEntry)
  atomically do
    let changes ← collect [] entries
    entries.forM fun entry => checkQuiet entry.amount
    let ids ← write
    changes.forM applyChange
    return ids

/-- Writes a batch of entries and gives their numbers. -/
def record (entries : List NewEntry) : Call (List Int) :=
  recordWith (entries.mapM insert) entries

/-- Fails to write a batch of entries with torn descriptions. -/
def recordTorn (entries : List NewEntry) : Call (List Int) :=
  recordWith (throw .tornText) entries

/-- The entry with a number. -/
def find (id : Int) : Call (Option Entry) := do
  checkWord id
  return (← ledger).entries.find? fun entry => entry.id = id

/-- Which entries of an owner to list. -/
structure Selection where
  /-- The first day. -/
  first : Option Date := none
  /-- The last day. -/
  last : Option Date := none
  /-- The series. -/
  group : Option String := none

/-- Is the entry selected? -/
def Selection.admits (selection : Selection) (entry : Entry) : Bool :=
  (match selection.first with
    | some first => decide (first ≤ entry.date)
    | none => true)
  && (match selection.last with
    | some last => decide (entry.date ≤ last)
    | none => true)
  && (match selection.group with
    | some group => entry.installment.group == some group
    | none => true)

/-- Is the first entry listed before the second? -/
def listedBefore (first second : Entry) : Bool :=
  decide (first.date.rank < second.date.rank)
    || (first.date.rank == second.date.rank && decide (first.id ≤ second.id))

/-- The selected entries of an owner in a ledger, by date and number. -/
def selected (ledger : Ledger) (owner : String) (selection : Selection) : List Entry :=
  (ledger.entries.filter fun entry => entry.owner = owner ∧ selection.admits entry).mergeSort
    listedBefore

/-- The selected entries of an owner, by date and number. -/
def list (owner : String) (selection : Selection) : Call (List Entry) := do
  failAt .entryListing .crash
  return selected (← ledger) owner selection

end Cashbook.Entry
