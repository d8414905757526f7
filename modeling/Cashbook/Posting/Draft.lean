import Cashbook.Ledger.Entities

/-!
# Drafts

A draft is what a user asks for: an entry or a series of installments, or a transfer.  The owner's
newest accounts and all categories are at hand when a draft is posted; the first account is the
one that entries go to when the draft names none.
-/

namespace Cashbook

/-- An expense or income that is asked for.  A series has one entry for each month. -/
structure EntryDraft where
  /-- The amount of each entry. -/
  amount : Decimal
  /-- What it is for. -/
  description : String
  /-- Its category. -/
  category : Option Category := none
  /-- What it does with money. -/
  kind : EntryKind := .expense
  /-- The day of the first entry, if not the current one. -/
  date : Option Date := none
  /-- The number of entries. -/
  installments : Int := 1
  /-- The account to post to. -/
  account : Option Int := none
  /-- The card to charge. -/
  card : Option Int := none
deriving DecidableEq

/-- A transfer that is asked for. -/
structure TransferDraft where
  /-- The account that the money leaves. -/
  source : Int
  /-- The account that the money comes to. -/
  target : Int
  /-- The amount. -/
  amount : Decimal
  /-- What it is for. -/
  description : String := ""
deriving DecidableEq

/-- What a user asks for. -/
inductive Draft where
  | entry (draft : EntryDraft)
  | transfer (draft : TransferDraft)
deriving DecidableEq

/-- What is at hand about an owner. -/
structure OwnerContext where
  /-- The owner. -/
  owner : String
  /-- The accounts, the newest first. -/
  accounts : List Account := []
  /-- The categories. -/
  categories : List Category := []

end Cashbook
