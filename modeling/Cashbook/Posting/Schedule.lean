import Cashbook.Date.Months
import Cashbook.Posting.Draft

/-!
# The schedule of a draft

A series has one entry for each month from its first day on.  All days are counted from the first
one, so a short month does not shift the later entries.  What lies after the current day is
pending.
-/

namespace Cashbook.EntryDraft

/-- The description of one entry of a series. -/
def describe (draft : EntryDraft) (index : Nat) : String :=
  if 1 < draft.installments then
    draft.description ++ " (" ++ String.ofList (Integer.toText index) ++ "/"
      ++ String.ofList (Integer.toText draft.installments) ++ ")"
  else
    draft.description

/-- The place of one entry in its series. -/
def placeOf (draft : EntryDraft) (group : Option String) (index : Nat) : Installment :=
  if 1 < draft.installments then
    { index := some (index : Int), total := some draft.installments, group := group }
  else
    { group := group }

/-- One entry of a draft. -/
def entryAt (draft : EntryDraft) (owner : String) (account : Option Int) (group : Option String)
    (today date : Date) (index : Nat) : NewEntry where
  owner := owner
  kind := draft.kind
  amount := draft.amount
  description := draft.describe index
  date := date
  account := account
  card := draft.card
  category := draft.category.map Category.id
  settlement := if date ≤ today then .confirmed else .pending
  installment := draft.placeOf group index

/-- So many entries of a draft from one index on. -/
def entriesFrom (draft : EntryDraft) (owner : String) (account : Option Int)
    (group : Option String) (today base : Date) : Nat → Nat → Except CalendarError (List NewEntry)
  | 0, _ => .ok []
  | count + 1, index => do
      let date ← base.addMonths (index - 1 : Int)
      let rest ← entriesFrom draft owner account group today base count (index + 1)
      return draft.entryAt owner account group today date index :: rest

/-- The entries of a draft. -/
def schedule (draft : EntryDraft) (owner : String) (account : Option Int) (group : Option String)
    (today : Date) : Except CalendarError (List NewEntry) :=
  draft.entriesFrom owner account group today (draft.date.getD today) draft.installments.toNat 1

end Cashbook.EntryDraft
