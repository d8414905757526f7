import Cashbook.Proofs.Ledger.Sums
import Cashbook.Proofs.Posting.Drafts
import Cashbook.Proofs.Posting.Outcome
import Cashbook.Proofs.Posting.Sufficiency

/-!
# Posting a single expense

The simplest draft is an expense of the current day for the first account at hand.  Posting it
appends one row and takes the amount from that account, or fails and leaves the ledger as it was.
-/

namespace Cashbook

open Call Money

/-! ## The draft -/

namespace Money.Stored

/-- The sign of a stored form is that of the number. -/
theorem finite_signed_eq_neg {negative : Bool} {count : Nat} (some_cents : count ≠ 0)
    (sign : Decimal.signed negative count = -(count : Int)) (size : Nat) :
    finite (Decimal.signed negative size) = (finite size).neg := by
  cases negative with
  | true => rfl
  | false =>
      simp only [Decimal.signed, Bool.false_eq_true, if_false] at sign
      omega

/-- An amount and its opposite have opposite stored forms. -/
theorem ofDecimal?_eq_neg {number turned : Decimal} {cents : Int} {amount : Stored}
    (counted : number.IsCents cents) (turned_counted : turned.IsCents (-cents))
    (positive : 0 < cents) (few : cents.natAbs < 10 ^ Decimal.working.digits)
    (stored : ofDecimal? number = some amount) : ofDecimal? turned = some amount.neg := by
  rw [ofDecimal?_of_isCents_of_pos counted positive few] at stored
  rw [← Option.some.inj stored]
  rcases ofDecimal?_of_isCents turned_counted with ⟨negative, sign, ⟨-, same⟩ | ⟨large, -⟩⟩
  · rw [Int.natAbs_neg] at same sign
    have some_cents : cents.natAbs ≠ 0 := by omega
    have turned_sign : Decimal.signed negative cents.natAbs = -(cents.natAbs : Int) := by
      rw [sign, Int.natAbs_of_nonneg positive.le]
    rw [same, finite_signed_eq_neg some_cents turned_sign]
  · have many := Binary64.le_of_limit_le_nearest large (by norm_num : 100 < 1024)
    rw [Int.natAbs_neg] at many
    rw [show Decimal.working.digits = 28 from rfl] at few
    norm_num at many few
    omega

end Money.Stored

namespace EntryDraft

variable {draft : EntryDraft} {context : OwnerContext} {account : Account} {world after : World}

/-- Is the draft an expense of the current day for the first account at hand? -/
structure IsSimple (draft : EntryDraft) : Prop where
  kind : draft.kind = .expense
  date : draft.date = none
  installments : draft.installments = 1
  account : draft.account = none
  card : draft.card = none

/-- The row of a simple draft. -/
def simpleRow (draft : EntryDraft) (id : Int) (owner : String) (amount : Stored) (today : Date)
    (account : Int) : Entry where
  id := id
  owner := owner
  kind := .expense
  amount := amount
  description := draft.description
  date := today
  account := some account
  destination := none
  card := none
  category := draft.category.map Category.id
  settlement := .confirmed
  installment := {}

/-- What a simple draft for an account makes of a ledger: a row with a new number is appended, and
the account of this number holds less by the amount. -/
inductive Spent (draft : EntryDraft) (owner : String) (account : Account) (today : Date)
    (before : Ledger) : Ledger → Prop where
  | intro {id : Int} {holder : Account} {amount left : Stored}
      (new : ∀ entry ∈ before.entries, entry.id < id)
      (stored : Stored.ofDecimal? draft.amount = some amount)
      (held : before.account? owner account.id = some holder)
      (spent : holder.balance.sub? amount = some left) :
      Spent draft owner account today before
        (({ before with
            entries := before.entries ++ [draft.simpleRow id owner amount today account.id] }
          : Ledger).setBalance owner account.id left)

/-- A simple draft is posted to the first account at hand. -/
theorem IsSimple.head?_of_accountIn {found : Option Account} {ledger : Ledger}
    (simple : draft.IsSimple) (chosen : draft.accountIn context ledger = .ok found) :
    context.accounts.head? = found ∧ found.isSome = true := by
  simp only [accountIn, simple.account, simple.card] at chosen
  cases accounts : context.accounts with
  | nil =>
      simp only [accounts] at chosen
      cases chosen
  | cons account rest =>
      simp only [accounts] at chosen
      cases chosen
      exact ⟨rfl, rfl⟩

/-- A simple draft has one entry, and that is of the current day. -/
theorem IsSimple.schedule_eq (simple : draft.IsSimple) (owner : String) (account : Option Int)
    (group : Option String) (today : Date) :
    draft.schedule owner account group today
      = .ok [draft.entryAt owner account group today today 1] := by
  have start : today.IsMonthsAfter today ((1 : Nat) - 1) :=
    Date.addMonths_eq_ok_iff.mp today.addMonths_zero
  rw [schedule_eq_ok_iff]
  simp only [simple.date, simple.installments, Option.getD_none]
  exact .cons ⟨today, start, rfl⟩ .nil

/-- The row of the entry of a simple draft. -/
theorem IsSimple.ofNew_eq (simple : draft.IsSimple) (id : Int) (owner : String) (amount : Stored)
    (account : Int) (today : Date) :
    Entry.ofNew id amount (draft.entryAt owner (some account) none today today 1)
      = draft.simpleRow id owner amount today account := by
  have reached : today ≤ today := Nat.le_refl today.rank
  simp [reached, Entry.ofNew, entryAt, simpleRow, describe, placeOf, simple.kind, simple.card,
    simple.installments]

/-- What the entry of a simple draft adds to the account is the amount with the other sign. -/
theorem IsSimple.exists_addEntry_eq {cents : Int} (simple : draft.IsSimple)
    (counted : draft.amount.IsCents cents) (few : cents.natAbs < 10 ^ Decimal.working.digits)
    (owner : String) (account : Int) (today : Date) :
    ∃ sum, Entry.addEntry [] (draft.entryAt owner (some account) none today today 1)
        = .ok [⟨owner, account, sum⟩]
      ∧ sum.IsCents (-cents) := by
  have reached : today ≤ today := Nat.le_refl today.rank
  rcases Decimal.exists_neg_eq_of_isCents counted few with ⟨turned, turned_eq, turned_counted⟩
  have turned_few : (-cents).natAbs < 10 ^ Decimal.working.digits := by
    rwa [Int.natAbs_neg]
  rcases Decimal.exists_add_eq_of_isCents (Decimal.isUnits_zero _) turned_counted (by decide)
    turned_few (by rwa [zero_add]) with ⟨sum, sum_eq, sum_counted⟩
  rw [zero_add] at sum_counted
  have delta : (draft.entryAt owner (some account) none today today 1).balanceDelta
      = .ok turned := by
    simp [NewEntry.balanceDelta, entryAt, reached, simple.kind, turned_eq]
  refine ⟨sum, ?_, sum_counted⟩
  simp only [Entry.addEntry, delta]
  simp [entryAt, Entry.addChange, sum_eq, bind, Except.bind, pure, Except.pure]

/-- Recording the entry of a simple draft appends its row and takes the amount from the account. -/
theorem IsSimple.spent_of_record_eq_ok {owner : String} {cents : Int} {ids : List Int}
    (simple : draft.IsSimple) (counted : draft.amount.IsCents cents) (positive : 0 < cents)
    (few : cents.natAbs < 10 ^ Decimal.working.digits)
    (run : Entry.record [draft.entryAt owner (some account.id) none world.today world.today 1]
      world = .ok ids after) :
    draft.Spent owner account world.today world.ledger after.ledger := by
  obtain ⟨changes, rows, written, changed, folded, of_entries, rfl, new, rows_ledger, step,
    after_eq⟩ := Entry.record_eq_ok run
  rcases simple.exists_addEntry_eq counted few owner account.id world.today with
    ⟨sum, added, sum_counted⟩
  obtain rfl : [⟨owner, account.id, sum⟩] = changes := by
    rw [List.foldlM_cons, added] at folded
    exact Except.ok.inj folded
  cases of_entries with
  | cons of_entry none_left =>
    cases none_left
    rcases of_entry with ⟨id, amount, stored, rfl⟩
    rcases bind_eq_ok_iff.mp step with ⟨_, ended, applied, last⟩
    cases last
    rw [simple.ofNew_eq] at rows_ledger
    rcases Entry.applyChange_eq_ok applied with ⟨nothing, -⟩ | ⟨-, holder, sum_stored, left, held,
      sum_stored_eq, left_eq, set_ledger⟩
    · have := Entry.cents_eq_zero sum_counted nothing
      omega
    · rw [Stored.ofDecimal?_eq_neg counted sum_counted positive few stored] at sum_stored_eq
      obtain rfl := Option.some.inj sum_stored_eq
      rw [rows_ledger] at held
      rw [after_eq, set_ledger, rows_ledger]
      refine .intro ?_ stored held left_eq
      intro entry member
      exact new.above id List.mem_cons_self entry.id (List.mem_map_of_mem member)

/-- A simple draft that is posted is a positive number of cents, is written as an expense for the
first account at hand, and is confirmed. -/
theorem IsSimple.post_eq_ok {text : String} (simple : draft.IsSimple)
    (run : draft.post context world = .ok text after) :
    ∃ cents account, draft.amount.IsCents cents ∧ 0 < cents
      ∧ context.accounts.head? = some account
      ∧ draft.Spent context.owner account world.today world.ledger after.ledger
      ∧ text = Wording.entryConfirmation .expense draft.amount draft.description
          (draft.category.map Category.name) account.name 1 := by
  obtain ⟨found, entries, ids, passes, scheduled, record, text_eq⟩ := EntryDraft.post_eq_ok run
  rcases exists_isCents_pos passes.positive passes.whole with ⟨cents, counted, positive, few⟩
  rcases simple.head?_of_accountIn passes.account with ⟨first, chosen⟩
  rcases Option.isSome_iff_exists.mp chosen with ⟨account, rfl⟩
  have single : ¬1 < draft.installments := by
    rw [simple.installments]
    decide
  rw [simple.schedule_eq, groupIn, if_neg single] at scheduled
  rw [named, if_neg single, ← Except.ok.inj scheduled] at record
  refine ⟨cents, account, counted, positive, first,
    simple.spent_of_record_eq_ok counted positive few record, ?_⟩
  rw [text_eq, simple.kind, simple.installments, placeName]

/-- Without faults, a simple draft of whole cents is posted where an account is at hand. -/
theorem IsSimple.exists_post_eq_ok (simple : draft.IsSimple)
    (ready : IsReady context world.ledger) (faultless : world.fault = none)
    (whole : isWholeCents draft.amount = true) (positive : 0 < draft.amount.value)
    (words : ∀ category, draft.category = some category → Integer.isWord category.id = true)
    (first : context.accounts.head? = some account) :
    ∃ text after, draft.post context world = .ok text after := by
  rcases isWholeCents_iff.mp whole with ⟨cents, counted, few⟩
  have not_refused : draft.amount.isNotPositive = .ok false := by
    rw [Decimal.isNotPositive_of_isFinite counted.1, decide_eq_false (not_le.mpr positive)]
  have placed : draft.accountIn context world.ledger = .ok (some account) := by
    rcases List.head?_eq_some_iff.mp first with ⟨rest, accounts⟩
    simp only [accountIn, simple.account, simple.card, accounts]
  have passes : draft.Passes context world.ledger (some account) :=
    ⟨not_refused, whole, simple.installments.ge, by simp [simple.account], placed,
      by simp [simple.card], by simp [simple.card]⟩
  have in_time : ¬draft.Overruns world.today := by
    have bounds := world.today.monthCount_bounds
    rw [Overruns, simple.date, simple.installments, Option.getD_none]
    omega
  have due : draft.dueCount world.today ≤ 1 := by
    refine List.countP_le_length.trans ?_
    rw [simple.installments]
    rfl
  have few_due : draft.dueCount world.today * cents.natAbs < 10 ^ 28 := by
    refine (Nat.mul_le_mul_right cents.natAbs due).trans_lt ?_
    rw [one_mul]
    exact few
  have scheduled := simple.schedule_eq context.owner (some account.id) (draft.groupIn world)
    world.today
  generalize [draft.entryAt context.owner (some account.id) (draft.groupIn world) world.today
    world.today 1] = entries at scheduled
  have sure := failsByFault_record passes
    ⟨by simp [simple.account], by simp [simple.card], words⟩ ready in_time counted few few_due
    scheduled
  have run := post_of_passes passes
  rw [Option.map_some, scheduled] at run
  have written := draft.write_eq context.owner entries (draft.named world)
  cases record : Entry.record entries (draft.named world) with
  | ok ids after =>
      rw [record] at written
      exact ⟨_, after, run.trans (bind_of_ok written)⟩
  | error failure after =>
      have armed := (sure record).1
      rw [fault_named] at armed
      exact absurd faultless armed

end EntryDraft

end Cashbook
