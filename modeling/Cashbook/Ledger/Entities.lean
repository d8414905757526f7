import Cashbook.Date
import Cashbook.Money.Stored

/-!
# What a ledger holds

Owners are known by a name only, and everything in a ledger belongs to one.  A ledger is six
tables: bindings of chats to owners, accounts, cards, categories, entries and transfers.  Rows are
numbered within their table and stay in the order they were written in.
-/

namespace Cashbook

open Money

/-- The kind of an account. -/
inductive AccountKind where
  | checking
  | savings
  | wallet
  | external
deriving DecidableEq

/-- The kinds of accounts. -/
def AccountKind.all : List AccountKind :=
  [checking, savings, wallet, external]

/-- The name of a kind of account. -/
def AccountKind.name : AccountKind → String
  | checking => "checking"
  | savings => "savings"
  | wallet => "wallet"
  | external => "external"

/-- What a category sorts. -/
inductive CategoryKind where
  | expense
  | income
deriving DecidableEq

/-- The kinds of categories. -/
def CategoryKind.all : List CategoryKind :=
  [expense, income]

/-- The name of a kind of category. -/
def CategoryKind.name : CategoryKind → String
  | expense => "expense"
  | income => "income"

/-- What an entry does with money. -/
inductive EntryKind where
  | expense
  | income
  | transfer
deriving DecidableEq

/-- The kinds of entries. -/
def EntryKind.all : List EntryKind :=
  [expense, income, transfer]

/-- The name of a kind of entry. -/
def EntryKind.name : EntryKind → String
  | expense => "expense"
  | income => "income"
  | transfer => "transfer"

/-- Has the money moved yet? -/
inductive Settlement where
  | pending
  | confirmed
deriving DecidableEq

/-- The states of settlement. -/
def Settlement.all : List Settlement :=
  [pending, confirmed]

/-- The name of a state of settlement. -/
def Settlement.name : Settlement → String
  | pending => "pending"
  | confirmed => "confirmed"

/-- A chat and the owner it speaks for. -/
structure Binding where
  /-- The number of the row. -/
  id : Int
  /-- The owner. -/
  owner : String
  /-- The chat. -/
  chat : String
  /-- Does the chat speak for the owner at present? -/
  active : Bool
deriving DecidableEq

/-- An account. -/
structure Account where
  /-- The number of the row. -/
  id : Int
  /-- The owner. -/
  owner : String
  /-- The name that the owner gave it. -/
  name : String
  /-- Its kind. -/
  kind : AccountKind
  /-- What it holds. -/
  balance : Stored
  /-- What it held at first. -/
  opening : Stored
  /-- Is it in use? -/
  active : Bool
  /-- When it was written. -/
  writtenAt : Instant
deriving DecidableEq

/-- A credit card. -/
structure Card where
  /-- The number of the row. -/
  id : Int
  /-- The owner. -/
  owner : String
  /-- The name that the owner gave it. -/
  name : String
  /-- Its brand. -/
  brand : String
  /-- How much may be charged to it. -/
  limit : Stored
  /-- The day of the month on which its statement closes. -/
  closingDay : Int
  /-- The day of the month on which its statement is due. -/
  dueDay : Int
  /-- Is it in use? -/
  active : Bool
deriving DecidableEq

/-- A category of entries. -/
structure Category where
  /-- The number of the row. -/
  id : Int
  /-- The owner. -/
  owner : String
  /-- Its name. -/
  name : String
  /-- What it sorts. -/
  kind : CategoryKind
deriving DecidableEq

/-- Where an entry stands in a series of installments.  A single entry has no place. -/
structure Installment where
  /-- Its number in the series, from one. -/
  index : Option Int := none
  /-- The length of the series. -/
  total : Option Int := none
  /-- The name that the entries of a series share. -/
  group : Option String := none
deriving DecidableEq

/-- An entry of the ledger.  The outgoing side of a transfer names its destination, the incoming
side does not. -/
structure Entry where
  /-- The number of the row. -/
  id : Int
  /-- The owner. -/
  owner : String
  /-- What it does with money. -/
  kind : EntryKind
  /-- The amount, without direction. -/
  amount : Stored
  /-- What it is for. -/
  description : String
  /-- The day it counts for. -/
  date : Date
  /-- The account it is posted to. -/
  account : Option Int
  /-- The account that a transfer goes to. -/
  destination : Option Int
  /-- The card it is charged to. -/
  card : Option Int
  /-- Its category. -/
  category : Option Int
  /-- Has the money moved? -/
  settlement : Settlement
  /-- Its place in a series. -/
  installment : Installment
deriving DecidableEq

/-- An entry that is about to be written. -/
structure NewEntry where
  /-- The owner. -/
  owner : String
  /-- What it does with money. -/
  kind : EntryKind
  /-- The amount, without direction. -/
  amount : Decimal
  /-- What it is for. -/
  description : String
  /-- The day it counts for. -/
  date : Date
  /-- The account it is posted to. -/
  account : Option Int := none
  /-- The card it is charged to. -/
  card : Option Int := none
  /-- Its category. -/
  category : Option Int := none
  /-- Has the money moved? -/
  settlement : Settlement := .confirmed
  /-- Its place in a series. -/
  installment : Installment := {}
deriving DecidableEq

/-- A transfer between two accounts of one owner, with the two entries that it consists of. -/
structure Transfer where
  /-- The number of the row. -/
  id : Int
  /-- The owner. -/
  owner : String
  /-- The account that the money left. -/
  source : Int
  /-- The account that the money came to. -/
  target : Int
  /-- The amount. -/
  amount : Stored
  /-- The entry of the account that the money left. -/
  outgoing : Int
  /-- The entry of the account that the money came to. -/
  incoming : Int
  /-- The day it counts for. -/
  date : Date
deriving DecidableEq

/-- The amount of an entry with the sign of its effect on its account. -/
def Entry.signedAmount (entry : Entry) : Except Decimal.ArithmeticError Decimal :=
  let amount := entry.amount.toDecimal
  match entry.kind, entry.destination with
  | .income, _ => .ok amount
  | .transfer, none => .ok amount
  | _, _ => amount.neg

/-- What writing an entry adds to the balance of its account: nothing without an account or before
the money has moved. -/
def NewEntry.balanceDelta (entry : NewEntry) : Except Decimal.ArithmeticError Decimal :=
  if entry.account.isNone ∨ entry.settlement ≠ .confirmed then .ok .zero
  else if entry.kind = .income then .ok entry.amount
  else entry.amount.neg

/-- The six tables. -/
structure Ledger where
  /-- Chats and the owners they speak for. -/
  bindings : List Binding := []
  /-- Accounts. -/
  accounts : List Account := []
  /-- Credit cards. -/
  cards : List Card := []
  /-- Categories. -/
  categories : List Category := []
  /-- Entries. -/
  entries : List Entry := []
  /-- Transfers. -/
  transfers : List Transfer := []
deriving DecidableEq

namespace Ledger

/-- The ledger without any row. -/
def empty : Ledger :=
  {}

/-- The number of the next row of a table: one above the largest. -/
def nextId (ids : List Int) : Int :=
  ids.foldl max 0 + 1

/-- The account of an owner with a number. -/
def account? (ledger : Ledger) (owner : String) (id : Int) : Option Account :=
  ledger.accounts.find? fun account => account.id = id ∧ account.owner = owner

/-- The ledger with another balance for one account of an owner. -/
def setBalance (ledger : Ledger) (owner : String) (id : Int) (balance : Stored) : Ledger :=
  { ledger with
    accounts := ledger.accounts.map fun account =>
      if account.id = id ∧ account.owner = owner then { account with balance := balance }
      else account }

end Ledger

end Cashbook
