import Cashbook.Ledger.Cards
import Cashbook.Ledger.Categories
import Cashbook.Ledger.Entries
import Cashbook.Posting.Movement
import Cashbook.Posting.Schedule
import Cashbook.Wording

/-!
# Posting drafts

Posting a draft checks it, writes what it asks for and answers with the confirmation.  A series is
written as one batch, and its failure is told apart from that of a single entry, because asking
again could post it twice.
-/

namespace Cashbook

open Call Money

/-- The number of accounts that are at hand for a chat. -/
def OwnerContext.pageSize : Int :=
  5

/-- What is at hand about an owner in a chat: the newest accounts and all categories. -/
def OwnerContext.load (owner : String) : Call OwnerContext := do
  let accounts ← Account.list owner (some OwnerContext.pageSize)
  let categories ← Category.list owner
  return { owner := owner, accounts := accounts, categories := categories }

namespace EntryDraft

/-- A name for a series that no other has. -/
def nameGroup : Call String := do
  let world ← get
  let count := world.groupsNamed + 1
  set { world with groupsNamed := count }
  return "group-" ++ Wording.number count

/-- The entries of a draft, with a name for a series. -/
def rows (draft : EntryDraft) (owner : String) (account : Option Int) : Call (List NewEntry) := do
  let group ← if 1 < draft.installments then some <$> nameGroup else pure none
  let world ← get
  ofCalendar (draft.schedule owner account group world.today)

/-- Refuses a draft that cannot be posted whatever the accounts. -/
def check (draft : EntryDraft) : Call Unit := do
  if ← ofArithmetic draft.amount.isNotPositive then
    throw .amountNotPositive
  if !isWholeCents draft.amount then
    throw .amountBelowCent
  if draft.installments < 1 then
    throw .installmentCount

/-- The account that a draft is posted to: the one it names, none where it names a card, and
otherwise the first at hand. -/
def accountFor (draft : EntryDraft) (context : OwnerContext) : Call (Option Account) := do
  match draft.account, draft.card with
  | some id, _ =>
      match ← Account.find context.owner id with
      | some account => return some account
      | none => throw (.accountMissing id)
  | none, some _ => return none
  | none, none =>
      match context.accounts with
      | account :: _ => return some account
      | [] => throw .noAccount

/-- Refuses a card that is not the owner's. -/
def checkCard (draft : EntryDraft) (owner : String) : Call Unit := do
  match draft.card with
  | some id =>
      if (← Card.find owner id).isNone then
        throw (.cardMissing id)
  | none => return ()

/-- Writes a series; the ledger is unchanged when that fails. -/
def recordSeries (record : List NewEntry → Call (List Int)) (owner : String)
    (rows : List NewEntry) : Call Unit :=
  tryCatch (discard (record rows)) fun failure =>
    match failure with
    | .writeFailed _ => throw (.installmentsFailed rows.length owner)
    | other => throw other

/-- What the confirmation calls the place that a draft was posted to. -/
def placeName (draft : EntryDraft) (account : Option Account) : String :=
  match account, draft.card with
  | some account, _ => account.name
  | none, some card => "Cartão " ++ Wording.number card
  | none, none => "Cartão None"

/-- Posts an entry or a series with what writes it, and answers with the confirmation. -/
def postWith (record : List NewEntry → Call (List Int)) (draft : EntryDraft)
    (context : OwnerContext) : Call String := do
  draft.check
  let account ← draft.accountFor context
  draft.checkCard context.owner
  let rows ← draft.rows context.owner (account.map Account.id)
  if 1 < draft.installments then
    recordSeries record context.owner rows
  else
    discard (record rows)
  return Wording.entryConfirmation draft.kind draft.amount draft.description
    (draft.category.map Category.name) (draft.placeName account) draft.installments

/-- Posts an entry or a series and answers with the confirmation. -/
def post (draft : EntryDraft) (context : OwnerContext) : Call String :=
  draft.postWith Entry.record context

/-- Fails to post an entry or a series with a torn description, unless that is refused anyway. -/
def postTorn (draft : EntryDraft) (context : OwnerContext) : Call String :=
  draft.postWith Entry.recordTorn context

end EntryDraft

/-- What the confirmation calls an account: its name, or its number where it is not found. -/
def TransferDraft.nameOf (accounts : List Account) (id : Int) : String :=
  match accounts.find? fun account => account.id = id with
  | some account => account.name
  | none => Wording.number id

/-- Posts a transfer and answers with the confirmation. -/
def TransferDraft.post (draft : TransferDraft) (context : OwnerContext) : Call String := do
  let _ ← Movement.request context.owner draft.source draft.target (some draft.amount)
    (some draft.description)
  let accounts ← Account.among context.owner [draft.source, draft.target]
  return Wording.transferConfirmation draft.amount (nameOf accounts draft.source)
    (nameOf accounts draft.target)

/-- Posts a draft and answers with the confirmation. -/
def Draft.post (context : OwnerContext) : Draft → Call String
  | entry draft => draft.post context
  | transfer draft => draft.post context

end Cashbook
