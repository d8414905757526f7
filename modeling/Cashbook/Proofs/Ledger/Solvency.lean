import Cashbook.Proofs.Ledger.Moving
import Cashbook.Proofs.Ledger.Recording

/-!
# Balances that do not fall below zero

A transfer takes only what the source covers, and a difference of stored amounts is never below
zero where the first covers the second.  What a transfer or an income adds is not below zero
either, so neither of them makes a balance negative.
-/

namespace Cashbook

open Call Money

/-! ## Amounts without a minus sign -/

namespace Decimal

variable {first second sum : Decimal}

/-- Is the value a number without a minus sign? -/
def IsUnsigned : Decimal → Prop
  | finite negative _ _ => negative = false
  | infinite negative => negative = false
  | notNumber .. => False

theorem isUnsigned_zero : zero.IsUnsigned :=
  rfl

/-- What is greater than zero has no minus sign. -/
theorem isUnsigned_of_isNotPositive {number : Decimal}
    (positive : number.isNotPositive = .ok false) : number.IsUnsigned := by
  cases number with
  | finite negative coefficient exponent =>
      cases negative with
      | false => rfl
      | true =>
          by_cases nothing : coefficient = 0 <;>
            simp [isNotPositive, compareValues, order?, zero, nothing, bind, Except.bind, pure,
              Except.pure] at positive
  | infinite negative =>
      cases negative with
      | false => rfl
      | true =>
          simp [isNotPositive, compareValues, order?, zero, bind, Except.bind, pure,
            Except.pure] at positive
  | notNumber negative signaling payload =>
      simp [isNotPositive, compareValues, order?, bind, Except.bind] at positive

/-- Fitting a value to the working precision keeps its sign. -/
theorem isUnsigned_of_fit {coefficient : Nat} {exponent : Int}
    (run : fit false coefficient exponent = .ok sum) : sum.IsUnsigned := by
  unfold fit at run
  simp only at run
  split_ifs at run
  · cases run
    rfl
  · cases run
    rfl
  · cases run
    rfl

theorem isUnsigned_of_addAligned {coefficient lowCoefficient : Nat} {exponent lowExponent : Int}
    (run : addAligned false coefficient exponent false lowCoefficient lowExponent = .ok sum) :
    sum.IsUnsigned := by
  unfold addAligned at run
  generalize reachOf coefficient exponent lowCoefficient lowExponent = reach at run
  rcases reach with ⟨unit, place⟩
  have above : ¬((appendZeros coefficient (exponent - place).toNat : Int) + (unit : Int) < 0) := by
    omega
  simp only [signed, Bool.false_eq_true, if_false, Bool.and_self, above, decide_false,
    ite_self] at run
  exact isUnsigned_of_fit run

/-- The sum of two values without minus signs has none. -/
theorem isUnsigned_of_add (first_unsigned : first.IsUnsigned) (second_unsigned : second.IsUnsigned)
    (run : first.add second = .ok sum) : sum.IsUnsigned := by
  cases first with
  | notNumber => cases first_unsigned
  | infinite negative =>
      cases first_unsigned
      cases second with
      | notNumber => cases second_unsigned
      | infinite negative =>
          cases second_unsigned
          cases run
          rfl
      | finite negative coefficient exponent =>
          cases run
          rfl
  | finite negative coefficient exponent =>
      cases first_unsigned
      cases second with
      | notNumber => cases second_unsigned
      | infinite negative =>
          cases second_unsigned
          cases run
          rfl
      | finite negative lowCoefficient lowExponent =>
          cases second_unsigned
          simp only [add] at run
          split_ifs at run
          · exact isUnsigned_of_addAligned run
          · exact isUnsigned_of_addAligned run

end Decimal

/-! ## Stored amounts that are not below zero -/

namespace Money.Stored

variable {first second result : Stored}

theorem covers_zero_ofSteps {steps : Int} (above : 0 ≤ steps) :
    (ofSteps steps).covers .zero = true := by
  have sign : ¬steps < 0 := not_lt.mpr above
  unfold ofSteps
  simp only [sign, decide_false, Decimal.signed, Bool.false_eq_true, if_false]
  split_ifs
  · simp [covers, zero]
  · rfl

/-- What is stored for a value without a minus sign is not below zero. -/
theorem covers_zero_of_isUnsigned {amount : Decimal} (unsigned : amount.IsUnsigned)
    (stored : ofDecimal? amount = some result) : result.covers .zero = true := by
  cases amount with
  | notNumber => cases unsigned
  | infinite negative =>
      cases unsigned
      cases stored
      rfl
  | finite negative coefficient exponent =>
      cases unsigned
      unfold ofDecimal? Binary64.ofDecimal at stored
      cases size : Binary64.ofDecimalSize? coefficient exponent with
      | none =>
          simp only [size] at stored
          cases stored
          rfl
      | some steps =>
          simp only [size] at stored
          cases stored
          simp [covers, zero, Decimal.signed]

/-- A sum of amounts that are not below zero is not either. -/
theorem covers_zero_of_add? (first_above : first.covers .zero = true)
    (second_above : second.covers .zero = true) (run : first.add? second = some result) :
    result.covers .zero = true := by
  cases first with
  | finite steps =>
      cases second with
      | finite others =>
          obtain rfl := Option.some.inj run
          simp only [covers, zero, decide_eq_true_eq] at first_above second_above
          exact covers_zero_ofSteps (by omega)
      | infinite negative =>
          cases run
          exact second_above
  | infinite negative =>
      cases second with
      | finite others =>
          cases run
          exact first_above
      | infinite otherNegative =>
          by_cases same : negative = otherNegative
          · rw [add?, if_pos same] at run
            cases run
            exact first_above
          · rw [add?, if_neg same] at run
            cases run

/-- Taking away what is covered leaves what is not below zero. -/
theorem covers_zero_of_sub? (covered : first.covers second = true)
    (run : first.sub? second = some result) : result.covers .zero = true := by
  cases first with
  | finite steps =>
      cases second with
      | finite others =>
          obtain rfl := Option.some.inj run
          simp only [covers, decide_eq_true_eq] at covered
          exact covers_zero_ofSteps (by omega)
      | infinite negative =>
          cases run
          simp only [covers] at covered
          rw [covered]
          rfl
  | infinite negative =>
      cases second with
      | finite others =>
          cases run
          exact covered
      | infinite otherNegative =>
          by_cases same : negative = !otherNegative
          · rw [sub?, neg, add?, if_pos same] at run
            cases run
            cases negative with
            | false => rfl
            | true =>
                simp only [covers, Bool.not_true, Bool.false_or] at covered
                simp [covered] at same
          · rw [sub?, neg, add?, if_neg same] at run
            cases run

end Money.Stored

/-! ## Ledgers -/

namespace Ledger

variable {ledger : Ledger} {owner : String} {id : Int} {balance : Stored}
  {property : Stored → Prop}

/-- Do all balances have a property? -/
def Every (property : Stored → Prop) (ledger : Ledger) : Prop :=
  ∀ account ∈ ledger.accounts, property account.balance

/-- Is no balance below zero? -/
abbrev IsSolvent : Ledger → Prop :=
  Every fun balance => balance.covers .zero = true

instance [DecidablePred property] (ledger : Ledger) : Decidable (ledger.Every property) :=
  inferInstanceAs (Decidable (∀ account ∈ ledger.accounts, property account.balance))

theorem Every.of_account? {account : Account} (every : ledger.Every property)
    (found : ledger.account? owner id = some account) : property account.balance :=
  every account (account?_spec found).1

/-- A balance is replaced by another one with the property. -/
theorem Every.setBalance (every : ledger.Every property) (new : property balance) :
    (ledger.setBalance owner id balance).Every property := by
  intro account member
  rcases List.mem_map.mp member with ⟨earlier, earlier_member, rfl⟩
  split_ifs
  · exact new
  · exact every earlier earlier_member

end Ledger

/-- What a debit and a credit keep of balances a transfer keeps. -/
theorem Transfer.Effect.every {movement : Movement} {description : String} {date : Date}
    {id : Int} {before after : Ledger} {property : Stored → Prop}
    (effect : Effect movement description date before id after)
    (debit : ∀ {balance amount left : Stored}, Stored.ofDecimal? movement.amount = some amount →
      balance.covers amount = true → balance.sub? amount = some left → property left)
    (credit : ∀ {balance amount gained : Stored}, property balance →
      Stored.ofDecimal? movement.amount = some amount → balance.add? amount = some gained →
      property gained)
    (every : before.Every property) : after.Every property := by
  cases effect with
  | intro source_found stored covered debited target_found credited =>
    have left := debit stored covered debited
    have gained := credit ((every.setBalance left).of_account? target_found) stored credited
    exact (every.setBalance left).setBalance gained

/-- A transfer of an amount without a minus sign leaves no balance below zero. -/
theorem Transfer.Effect.isSolvent {movement : Movement} {description : String} {date : Date}
    {id : Int} {before after : Ledger} (effect : Effect movement description date before id after)
    (unsigned : movement.amount.IsUnsigned) (solvent : before.IsSolvent) : after.IsSolvent := by
  apply effect.every ?_ ?_ solvent
  · intro balance amount left _ covered debited
    exact Stored.covers_zero_of_sub? covered debited
  · intro balance amount gained above stored credited
    exact Stored.covers_zero_of_add? above (Stored.covers_zero_of_isUnsigned unsigned stored)
      credited

/-! ## Incomes -/

namespace Entry

variable {changes summed : List Change} {entries : List NewEntry} {ids : List Int}
  {world after : World}

/-- Is this an income of more than nothing? -/
def IsIncome (entry : NewEntry) : Prop :=
  entry.kind = .income ∧ entry.amount.isNotPositive = .ok false

instance (entry : NewEntry) : Decidable (IsIncome entry) :=
  inferInstanceAs (Decidable (_ ∧ _))

/-- An amount without a minus sign keeps the sums without one. -/
theorem isUnsigned_of_addChange {owner : String} {account : Int} {amount : Decimal}
    (unsigned : amount.IsUnsigned) (sums : ∀ change ∈ changes, change.sum.IsUnsigned)
    (run : addChange owner account amount changes = .ok summed) :
    ∀ change ∈ summed, change.sum.IsUnsigned := by
  intro change member
  rcases mem_of_addChange run member with kept | ⟨-, -, earlier, rfl | ⟨other, here, rfl⟩, added⟩
  · exact sums change kept
  · exact Decimal.isUnsigned_of_add Decimal.isUnsigned_zero unsigned added
  · exact Decimal.isUnsigned_of_add (sums other here) unsigned added

/-- Incomes add up to sums without a minus sign. -/
theorem isUnsigned_of_foldlM (incomes : ∀ entry ∈ entries, IsIncome entry)
    (sums : ∀ change ∈ changes, change.sum.IsUnsigned)
    (run : entries.foldlM addEntry changes = .ok summed) :
    ∀ change ∈ summed, change.sum.IsUnsigned := by
  induction entries generalizing changes with
  | nil =>
      cases run
      exact sums
  | cons entry rest ih =>
      rw [List.forall_mem_cons] at incomes
      rcases incomes with ⟨⟨income, positive⟩, later⟩
      rw [List.foldlM_cons] at run
      cases step : addEntry changes entry with
      | error error => simp [step, bind, Except.bind] at run
      | ok next =>
          simp only [step, bind, Except.bind] at run
          refine ih later ?_ run
          unfold addEntry at step
          cases account : entry.account with
          | none =>
              simp only [account] at step
              cases step
              exact sums
          | some id =>
              simp only [account, NewEntry.balanceDelta, income, Option.isNone_some,
                Bool.false_eq_true, false_or, if_true] at step
              by_cases settled : entry.settlement ≠ .confirmed
              · rw [if_pos settled] at step
                exact isUnsigned_of_addChange Decimal.isUnsigned_zero sums step
              · rw [if_neg settled] at step
                exact isUnsigned_of_addChange (Decimal.isUnsigned_of_isNotPositive positive) sums
                  step

/-- Adding sums without a minus sign leaves no balance below zero. -/
theorem isSolvent_of_forM_applyChange (sums : ∀ change ∈ changes, change.sum.IsUnsigned)
    (run : changes.forM applyChange world = .ok ⟨⟩ after) (solvent : world.ledger.IsSolvent) :
    after.ledger.IsSolvent := by
  induction changes generalizing world with
  | nil =>
      cases run
      exact solvent
  | cons change rest ih =>
      rw [List.forall_mem_cons] at sums
      rcases bind_eq_ok_iff.mp run with ⟨_, middle, first, others⟩
      refine ih sums.2 others ?_
      rcases applyChange_eq_ok first with ⟨-, same⟩ | ⟨-, account, stored, balance, found, storable,
        added, changed⟩
      · rw [same]
        exact solvent
      · rw [changed]
        exact solvent.setBalance (Stored.covers_zero_of_add? (solvent.of_account? found)
          (Stored.covers_zero_of_isUnsigned sums.1 storable) added)

/-- A batch of incomes leaves no balance below zero. -/
theorem isSolvent_of_record_eq_ok (incomes : ∀ entry ∈ entries, IsIncome entry)
    (run : record entries world = .ok ids after) (solvent : world.ledger.IsSolvent) :
    after.ledger.IsSolvent := by
  obtain ⟨changes, rows, written, changed, folded, -, -, -, rows_ledger, step, after_eq⟩ :=
    record_eq_ok run
  have written_solvent : written.ledger.IsSolvent := by
    rw [rows_ledger]
    exact solvent
  rw [after_eq]
  exact isSolvent_of_forM_applyChange (isUnsigned_of_foldlM incomes (by simp) folded) step
    written_solvent

end Entry

end Cashbook
