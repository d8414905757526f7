import Cashbook.Ledger.Entries
import Cashbook.Proofs.Calls.Failing
import Cashbook.Proofs.Ledger.Tables

/-!
# Credits

What a batch has summed up for an account comes down to a credit, unless the sum is zero.  Credits
look at accounts only, and credits for different accounts can be added one before the other.
-/

namespace Cashbook.Entry

open Call Money

variable {changes : List Change} {world after : World}

/-! ## Credits -/

/-- An amount that an account of an owner takes.  What cannot be stored is no amount. -/
structure Credit where
  owner : String
  account : Int
  amount : Option Stored

/-- What a change comes down to: nothing where its sum is zero. -/
def Change.credit? (change : Change) : Option Credit :=
  if change.sum.isNonzero then
    some ⟨change.owner, change.account, Stored.ofDecimal? change.sum⟩
  else none

/-- The balance of the account of a credit with its amount, if there are both and they add up. -/
def Credit.balance? (ledger : Ledger) (credit : Credit) : Option Stored := do
  let account ← ledger.account? credit.owner credit.account
  let amount ← credit.amount
  account.balance.add? amount

/-- The ledger with a credit added to its account. -/
def Credit.applied? (ledger : Ledger) (credit : Credit) : Option Ledger :=
  (credit.balance? ledger).map (ledger.setBalance credit.owner credit.account)

theorem Credit.applied?_eq_some_iff {credit : Credit} {ledger new : Ledger} :
    credit.applied? ledger = some new ↔ ∃ account amount balance,
      ledger.account? credit.owner credit.account = some account ∧ credit.amount = some amount
      ∧ account.balance.add? amount = some balance
      ∧ new = ledger.setBalance credit.owner credit.account balance := by
  constructor
  · intro applied
    rcases Option.map_eq_some_iff.mp applied with ⟨balance, balance_eq, rfl⟩
    rcases Option.bind_eq_some_iff.mp balance_eq with ⟨account, found, rest⟩
    rcases Option.bind_eq_some_iff.mp rest with ⟨amount, amount_eq, added⟩
    exact ⟨account, amount, balance, found, amount_eq, added, rfl⟩
  · rintro ⟨account, amount, balance, found, amount_eq, added, rfl⟩
    simp [Credit.applied?, Credit.balance?, found, amount_eq, added]

/-- Are two credits for one account? -/
def Credit.MeetsAt (first second : Credit) : Prop :=
  second.owner = first.owner ∧ second.account = first.account

/-- Credits for different accounts are added one before the other. -/
theorem Credit.applied?_comm {first second : Credit} (apart : ¬first.MeetsAt second)
    (ledger : Ledger) :
    (first.applied? ledger).bind second.applied?
      = (second.applied? ledger).bind first.applied? := by
  have kept : ∀ balance, second.balance?
      (ledger.setBalance first.owner first.account balance) = second.balance? ledger := by
    intro balance
    rw [balance?, Ledger.account?_setBalance_of_ne apart]
    rfl
  have other_kept : ∀ balance, first.balance?
      (ledger.setBalance second.owner second.account balance) = first.balance? ledger := by
    intro balance
    rw [balance?, Ledger.account?_setBalance_of_ne fun same => apart ⟨same.1.symm, same.2.symm⟩]
    rfl
  unfold applied?
  cases first_balance : first.balance? ledger with
  | none =>
      cases second_balance : second.balance? ledger with
      | none => rfl
      | some other => simp [other_kept, first_balance]
  | some balance =>
      cases second_balance : second.balance? ledger with
      | none => simp [kept, second_balance]
      | some other =>
          simp only [Option.map_some, Option.bind_some, kept, other_kept, first_balance,
            second_balance]
          rw [Ledger.setBalance_comm apart]

/-- Where each account has one credit, the order of credits does not matter. -/
theorem foldlM_applied?_eq_of_perm {first second : List Credit} (same : first.Perm second)
    (single : ∀ credit ∈ first, ∀ other ∈ first, credit.MeetsAt other → other = credit)
    (ledger : Ledger) :
    first.foldlM Credit.applied? ledger = second.foldlM Credit.applied? ledger := by
  induction same generalizing ledger with
  | nil => rfl
  | @cons credit before after _ ih =>
      rw [List.foldlM_cons, List.foldlM_cons]
      refine congrArg _ (funext fun next => ih (fun credit member other inside => ?_) next)
      exact single credit (List.mem_cons_of_mem _ member) other (List.mem_cons_of_mem _ inside)
  | swap credit other rest =>
      have swapped : (other.applied? ledger).bind credit.applied?
          = (credit.applied? ledger).bind other.applied? := by
        -- Two credits for one account are the same credit, and for them nothing is to be shown.
        by_cases meets : other.MeetsAt credit
        · rw [single other (by simp) credit (by simp) meets]
        · exact Credit.applied?_comm meets ledger
      simp only [List.foldlM_cons, Option.bind_eq_bind]
      rw [← Option.bind_assoc, swapped, Option.bind_assoc]
  | trans first_perm _ first_ih second_ih =>
      rw [first_ih single, second_ih fun credit member other inside =>
        single credit (first_perm.mem_iff.mpr member) other (first_perm.mem_iff.mpr inside)]

/-- Credits do not look at entries. -/
theorem foldlM_applied?_withEntries (credits : List Credit) (ledger : Ledger)
    (rows : List Entry) :
    credits.foldlM Credit.applied? { ledger with entries := rows }
      = (credits.foldlM Credit.applied? ledger).map fun new => { new with entries := rows } := by
  induction credits generalizing ledger with
  | nil => rfl
  | cons credit rest ih =>
      have step : credit.applied? { ledger with entries := rows }
          = (credit.applied? ledger).map fun new => { new with entries := rows } := by
        change ((credit.balance? ledger).map fun balance => _) = _
        unfold Credit.applied?
        rw [Option.map_map]
        rfl
      rw [List.foldlM_cons, List.foldlM_cons, step]
      cases credit.applied? ledger with
      | none => rfl
      | some new => exact ih new

/-! ## Changes -/

theorem applyChange_of_credit?_eq_none {change : Change} (nothing : change.credit? = none)
    (world : World) : applyChange change world = .ok () world := by
  have zero : ¬change.sum.isNonzero = true := by
    intro something
    rw [Change.credit?, if_pos something] at nothing
    cases nothing
  rw [applyChange, if_neg zero]
  rfl

/-- A change adds its credit, if its place is passed. -/
theorem applyChange_eq_ok_iff {change : Change} {credit : Credit}
    (credit_eq : change.credit? = some credit) : applyChange change world = .ok () after ↔
    ∃ fault new, pass? .balanceChange world.fault = some fault
      ∧ credit.applied? world.ledger = some new
      ∧ after = { world with fault := fault, ledger := new } := by
  unfold Change.credit? at credit_eq
  split_ifs at credit_eq with something
  obtain rfl := Option.some.inj credit_eq
  rw [applyChange, if_pos something]
  constructor
  · intro run
    rcases bind_eq_ok_iff.mp run with ⟨_, _, first, look⟩
    rcases failAt_eq_ok_iff.mp first with ⟨fault, passed, rfl⟩
    rw [bind_of_ok (ledger_apply _)] at look
    cases found : world.ledger.account? change.owner change.account with
    | none =>
        simp only [found] at look
        cases look
    | some account =>
        simp only [found] at look
        rcases bind_eq_ok_iff.mp look with ⟨stored, _, store, rest⟩
        rcases storable_eq_ok_iff.mp store with ⟨stored_eq, rfl⟩
        rcases bind_eq_ok_iff.mp rest with ⟨balance, _, add, write⟩
        rcases storedResult_eq_ok_iff.mp add with ⟨balance_eq, rfl⟩
        cases write
        exact ⟨fault, _, passed, Credit.applied?_eq_some_iff.mpr
          ⟨account, stored, balance, found, stored_eq, balance_eq, rfl⟩, rfl⟩
  · rintro ⟨fault, new, passed, applied, rfl⟩
    rcases Credit.applied?_eq_some_iff.mp applied with
      ⟨account, stored, balance, found, stored_eq, added, rfl⟩
    rw [bind_of_ok (failAt_eq_ok_iff.mpr ⟨fault, passed, rfl⟩), bind_of_ok (ledger_apply _)]
    simp only [found]
    rw [bind_of_ok (storable_eq_ok_iff.mpr ⟨stored_eq, rfl⟩),
      bind_of_ok (storedResult_eq_ok_iff.mpr ⟨added, rfl⟩)]
    rfl

/-- The credits of changes. -/
def creditsOf (changes : List Change) : List Credit :=
  changes.filterMap Change.credit?

theorem forM_applyChange_eq_ok_iff : changes.forM applyChange world = .ok ⟨⟩ after ↔
    ∃ fault new, passEach? .balanceChange (creditsOf changes).length world.fault = some fault
      ∧ (creditsOf changes).foldlM Credit.applied? world.ledger = some new
      ∧ after = { world with fault := fault, ledger := new } := by
  induction changes generalizing world with
  | nil =>
      constructor
      · rintro ⟨⟩
        exact ⟨_, _, rfl, rfl, rfl⟩
      · rintro ⟨_, _, ⟨⟩, ⟨⟩, rfl⟩
        rfl
  | cons change rest ih =>
      have split : (change :: rest).forM applyChange
          = (applyChange change >>= fun _ => rest.forM applyChange) := rfl
      rw [split]
      cases credit_eq : change.credit? with
      | none =>
          have credits : creditsOf (change :: rest) = creditsOf rest :=
            List.filterMap_cons_none credit_eq
          rw [bind_of_ok (applyChange_of_credit?_eq_none credit_eq world), credits]
          exact ih
      | some credit =>
          have credits : creditsOf (change :: rest) = credit :: creditsOf rest :=
            List.filterMap_cons_some credit_eq
          rw [credits, List.length_cons, passEach?, List.foldlM_cons]
          constructor
          · intro run
            rcases bind_eq_ok_iff.mp run with ⟨_, _, step, later⟩
            obtain ⟨fault, new, passed, applied, rfl⟩ := (applyChange_eq_ok_iff credit_eq).mp step
            obtain ⟨last, final, passed_later, applied_later, rfl⟩ := ih.mp later
            rw [passed, applied]
            exact ⟨last, final, passed_later, applied_later, rfl⟩
          · rintro ⟨last, final, passed, applied, rfl⟩
            rcases Option.bind_eq_some_iff.mp passed with ⟨fault, first, others⟩
            rcases Option.bind_eq_some_iff.mp applied with ⟨new, step, later⟩
            rw [bind_of_ok ((applyChange_eq_ok_iff credit_eq).mpr ⟨fault, new, first, step, rfl⟩)]
            exact ih.mpr ⟨last, final, others, later, rfl⟩

end Cashbook.Entry
