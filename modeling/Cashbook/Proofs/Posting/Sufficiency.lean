import Cashbook.Proofs.Ledger.Events
import Cashbook.Proofs.Ledger.Solvency
import Cashbook.Proofs.Money.Stored
import Cashbook.Proofs.Posting.Requests
import Mathlib.Data.List.Perm.Subperm

/-!
# When the source of a transfer suffices

A request compares its amount with the balance as it is read, to the cent, and the transfer that
follows compares the binary forms.  The two agree unless the amount is exactly what is shown and the
binary balance, after many roundings, lies below the binary form of what is shown.
-/

namespace Cashbook

open Call Money

/-! ## Binary balances -/

theorem Binary64.isSize_ofDecimalSize? {coefficient steps : Nat} {exponent : Int}
    (size : ofDecimalSize? coefficient exponent = some steps) : IsSize steps := by
  have tens : 0 < Nat.pow 10 (-exponent).toNat := Nat.pow_pos (by norm_num)
  unfold ofDecimalSize? at size
  generalize one = unit at size
  generalize limit = bound at size
  simp only at size
  split_ifs at size
  · obtain rfl := Option.some.inj size
    exact isSize_zero
  · obtain rfl := Option.some.inj size
    exact isSize_nearest Nat.one_pos
  · obtain rfl := Option.some.inj size
    exact isSize_nearest tens

namespace Money.Stored

variable {balance amount result : Stored} {number : Decimal} {cents : Int}

/-- Is this infinite or a size of 64 bits? -/
inductive IsRounded : Stored → Prop where
  | finite {steps : Int} (size : Binary64.IsSize steps.natAbs) : IsRounded (finite steps)
  | infinite {negative : Bool} : IsRounded (infinite negative)

theorem isRounded_signed {negative : Bool} {steps : Nat} (size : Binary64.IsSize steps) :
    (Stored.finite (Decimal.signed negative steps)).IsRounded := by
  apply IsRounded.finite
  rwa [Decimal.natAbs_signed]

theorem isRounded_ofSteps (steps : Int) : (ofSteps steps).IsRounded := by
  unfold ofSteps
  generalize Binary64.limit = bound
  simp only
  split_ifs
  · exact isRounded_signed (Binary64.isSize_nearest Nat.one_pos)
  · exact .infinite

theorem isRounded_ofDecimal? (stored : ofDecimal? number = some amount) : amount.IsRounded := by
  cases number with
  | notNumber => cases stored
  | infinite negative =>
      cases stored
      exact .infinite
  | finite negative coefficient exponent =>
      unfold ofDecimal? Binary64.ofDecimal at stored
      cases size : Binary64.ofDecimalSize? coefficient exponent with
      | none =>
          simp only [size] at stored
          cases stored
          exact .infinite
      | some steps =>
          simp only [size] at stored
          cases stored
          exact isRounded_signed (Binary64.isSize_ofDecimalSize? size)

theorem isRounded_add? (added : balance.add? amount = some result) : result.IsRounded := by
  cases balance with
  | finite steps =>
      cases amount with
      | finite others =>
          obtain rfl := Option.some.inj added
          exact isRounded_ofSteps _
      | infinite negative =>
          cases added
          exact .infinite
  | infinite negative =>
      cases amount with
      | finite others =>
          cases added
          exact .infinite
      | infinite otherNegative =>
          simp only [add?] at added
          split_ifs at added
          cases added
          exact .infinite

/-- A positive number of cents that can be moved is stored as the nearest binary number. -/
theorem ofDecimal?_of_isCents_of_pos (counted : number.IsCents cents) (positive : 0 < cents)
    (few : cents.natAbs < 10 ^ Decimal.working.digits) :
    ofDecimal? number
      = some (finite (Binary64.nearest (cents.natAbs * Binary64.one) 100 : Nat)) := by
  rcases ofDecimal?_of_isCents counted with ⟨negative, sign, ⟨-, stored⟩ | ⟨large, -⟩⟩
  · cases negative with
    | false => exact stored
    | true =>
        simp only [Decimal.signed, if_true] at sign
        omega
  · have many := Binary64.le_of_limit_le_nearest large (by norm_num : 100 < 1024)
    rw [show Decimal.working.digits = 28 from rfl] at few
    norm_num at many few
    omega

/-- What is shown as more than an amount covers the binary form of the amount, because rounding to
a binary number does not pass the balance. -/
theorem covers_of_compareValues_gt (rounded : balance.IsRounded) (counted : number.IsCents cents)
    (positive : 0 < cents)
    (more : balance.toDecimal.compareValues number = .ok .gt) :
    balance.covers (finite (Binary64.nearest (cents.natAbs * Binary64.one) 100 : Nat)) = true := by
  rcases Decimal.isCents_iff.mp counted with ⟨number_finite, number_value⟩
  cases rounded with
  | @infinite negative =>
      cases negative with
      | false => rfl
      | true =>
          rcases counted.exists_eq with ⟨_, _, _, rfl, -⟩
          simp [toDecimal, Decimal.compareValues, Decimal.order?] at more
  | @finite steps size =>
      rw [Decimal.compareValues_of_isFinite rfl number_finite, Except.ok.injEq,
        compare_gt_iff_gt, number_value] at more
      have hundredth : (10 : ℚ) ^ (-2 : Int) = 1 / 100 := by norm_num
      simp only [toDecimal, Decimal.ofCents, Decimal.value, hundredth, mul_one_div] at more
      have shown_more : cents < Decimal.signed (decide (steps < 0))
          (Binary64.hundredths steps.natAbs) := by
        have scaled := (div_lt_div_iff_of_pos_right (by norm_num : (0 : ℚ) < 100)).mp more
        exact_mod_cast scaled
      have above : ¬steps < 0 := by
        intro below
        simp only [below, decide_true, Decimal.signed, if_true] at shown_more
        omega
      simp only [above, decide_false, Decimal.signed, Bool.false_eq_true, if_false] at shown_more
      have next : cents.natAbs + 1 ≤ Binary64.hundredths steps.natAbs := by omega
      have bounded : Binary64.nearest (cents.natAbs * Binary64.one) 100 ≤ steps.natAbs := by
        apply Binary64.nearest_le (by norm_num) size
        have half := two_mul_divHalfEven_mul_le (steps.natAbs * 100) Binary64.one
        have scaled := Nat.mul_le_mul_right Binary64.one next
        unfold Binary64.hundredths at scaled
        rw [Nat.add_mul, Nat.one_mul] at scaled
        omega
      simp only [covers, decide_eq_true_eq]
      generalize Binary64.nearest (cents.natAbs * Binary64.one) 100 = needed at bounded
      omega

/-- Is the balance below the binary form of what it is shown as? -/
def IsShort (balance : Stored) : Prop :=
  ∃ shown ∈ ofDecimal? balance.toDecimal, balance.covers shown = false

instance (balance : Stored) : Decidable balance.IsShort :=
  inferInstanceAs (Decidable (∃ shown ∈ ofDecimal? balance.toDecimal, _))

/-- An amount that is exactly what is shown has the binary form of what is shown. -/
theorem ofDecimal?_toDecimal_of_compareValues_eq (counted : number.IsCents cents)
    (positive : 0 < cents) (few : cents.natAbs < 10 ^ Decimal.working.digits)
    (same : balance.toDecimal.compareValues number = .ok .eq) :
    ofDecimal? balance.toDecimal
      = some (finite (Binary64.nearest (cents.natAbs * Binary64.one) 100 : Nat)) := by
  rcases Decimal.isCents_iff.mp counted with ⟨number_finite, number_value⟩
  cases balance with
  | infinite negative =>
      rcases counted.exists_eq with ⟨_, _, _, rfl, -⟩
      cases negative <;> simp [toDecimal, Decimal.compareValues, Decimal.order?] at same
  | finite steps =>
      rw [Decimal.compareValues_of_isFinite rfl number_finite, Except.ok.injEq,
        compare_eq_iff_eq, number_value] at same
      exact ofDecimal?_of_isCents_of_pos (Decimal.isCents_iff.mpr ⟨rfl, same⟩) positive few

end Money.Stored

/-! ## Ledgers that have come about -/

/-- Are numbers of accounts not given twice, and all balances rounded? -/
structure Ledger.IsRegular (ledger : Ledger) : Prop where
  distinct : (ledger.accounts.map Account.id).Nodup
  rounded : ledger.Every Stored.IsRounded

/-- Sums leave rounded balances. -/
theorem Entry.Applied.isRounded {sums : List Decimal} {before after : Option Account}
    (applied : Applied sums before after)
    (rounded : ∀ account ∈ before, account.balance.IsRounded) :
    ∀ account ∈ after, account.balance.IsRounded := by
  induction applied with
  | nil => exact rounded
  | skip nothing rest ih => exact ih rounded
  | add something storable added rest ih =>
      apply ih
      rintro account ⟨⟩
      exact Stored.isRounded_add? added

theorem Event.Outcome.isRegular {event : Event} {before after : Ledger}
    (outcome : Outcome event before after) (regular : before.IsRegular) : after.IsRegular := by
  have distinct := outcome.nodup regular.distinct
  refine ⟨distinct, ?_⟩
  cases outcome with
  | same => exact regular.rounded
  | created stored =>
      intro account member
      rcases List.mem_append.mp member with earlier | new
      · exact regular.rounded account earlier
      · rw [List.mem_singleton] at new
        rw [new]
        exact Stored.isRounded_ofDecimal? stored
  | recorded written =>
      rcases written.balances with ⟨changes, -, applied⟩
      intro account member
      have found := Ledger.account?_of_mem distinct member
      apply (applied account.owner account.id).isRounded ?_ account found
      intro earlier earlier_found
      exact regular.rounded.of_account? earlier_found
  | moved moved =>
      apply moved.every ?_ ?_ regular.rounded
      · intro balance amount left _ _ debited
        exact Stored.isRounded_add? debited
      · intro balance amount gained _ _ credited
        exact Stored.isRounded_add? credited

theorem World.isRegular_run {world : World} {events : List Event} (raceless : world.IsRaceless)
    (events_raceless : ∀ event ∈ events, event.IsRaceless) (regular : world.ledger.IsRegular) :
    (world.run events).ledger.IsRegular := by
  induction events generalizing world with
  | nil => exact regular
  | cons event rest ih =>
      rw [List.forall_mem_cons] at events_raceless
      exact ih (Event.isRaceless_after raceless events_raceless.1) events_raceless.2
        ((Event.outcome_after raceless).isRegular regular)

/-! ## Requests -/

/-- Where numbers are not given twice, two numbers are found among an owner's accounts exactly when
each of them is. -/
theorem Ledger.length_filter_eq_two_iff {ledger : Ledger} {owner : String} {source target : Int}
    (distinct : (ledger.accounts.map Account.id).Nodup) (apart : source ≠ target) :
    (ledger.accounts.filter fun account =>
        [source, target].contains account.id ∧ account.owner = owner).length = 2
      ↔ (∃ account, ledger.account? owner source = some account)
        ∧ ∃ account, ledger.account? owner target = some account := by
  let wanted := ledger.accounts.filter fun account =>
    [source, target].contains account.id ∧ account.owner = owner
  have wanted_distinct : (wanted.map Account.id).Nodup :=
    distinct.sublist (List.filter_sublist.map _)
  have mem_iff : ∀ id, id ∈ wanted.map Account.id
      ↔ id ∈ [source, target] ∧ ∃ account, ledger.account? owner id = some account := by
    intro id
    constructor
    · intro member
      rcases List.mem_map.mp member with ⟨account, account_member, rfl⟩
      rcases List.mem_filter.mp account_member with ⟨here, admits⟩
      simp only [List.contains_eq_mem, decide_eq_true_eq] at admits
      refine ⟨admits.1, account, ?_⟩
      rw [← admits.2]
      exact account?_of_mem distinct here
    · rintro ⟨asked, account, found⟩
      rcases account?_spec found with ⟨here, rfl, owned⟩
      refine List.mem_map_of_mem (List.mem_filter.mpr ⟨here, ?_⟩)
      simpa [owned] using asked
  have few : (wanted.map Account.id).Subperm [source, target] :=
    wanted_distinct.subperm fun id member => ((mem_iff id).mp member).1
  change wanted.length = 2 ↔ _
  constructor
  · intro both
    have all : (wanted.map Account.id).Perm [source, target] := by
      apply few.perm_of_length_le
      simp [both]
    exact ⟨((mem_iff source).mp (all.mem_iff.mpr (by simp))).2,
      ((mem_iff target).mp (all.mem_iff.mpr (by simp))).2⟩
  · rintro ⟨source_found, target_found⟩
    have all : [source, target].Subperm (wanted.map Account.id) := by
      refine List.Nodup.subperm (by simpa using apart) ?_
      rintro id asked
      apply (mem_iff id).mpr ⟨asked, ?_⟩
      rcases List.mem_cons.mp asked with rfl | later
      · exact source_found
      · obtain rfl := List.mem_singleton.mp later
        exact target_found
    simpa using le_antisymm few.length_le all.length_le

namespace Movement

variable {movement : Movement} {ledger : Ledger} {source : Account} {amount : Stored}

/-- Two rows with numbers that are not given twice are the source and the target. -/
theorem IsAdmitted.exists_target (admitted : movement.IsAdmitted ledger)
    (distinct : (ledger.accounts.map Account.id).Nodup) :
    ∃ target, ledger.account? movement.owner movement.target = some target :=
  ((Ledger.length_filter_eq_two_iff distinct admitted.apart).mp admitted.both).2

/-- Where the source covers the amount, the whole transfer can be done. -/
theorem exists_effect {target : Account} {steps : Int} {description : String} {date : Date}
    (source_found : ledger.account? movement.owner movement.source = some source)
    (target_found : ledger.account? movement.owner movement.target = some target)
    (stored : Stored.ofDecimal? movement.amount = some (.finite steps))
    (covered : source.balance.covers (.finite steps) = true) :
    ∃ id after, Transfer.Effect movement description date ledger id after := by
  rcases source.balance.exists_add?_finite (-steps) with ⟨left, debited⟩
  obtain ⟨held, target_later⟩ : ∃ held, (ledger.setBalance movement.owner movement.source
      left).account? movement.owner movement.target = some held := by
    rw [Ledger.account?_setBalance, target_found]
    exact ⟨_, rfl⟩
  rcases held.balance.exists_add?_finite steps with ⟨gained, credited⟩
  exact ⟨_, _, .intro source_found stored covered debited target_later credited⟩

/-- After the check of a request has passed, the source covers the amount unless all that is shown
is asked for and the balance is short of it. -/
theorem covers_iff {cents : Int} {order : Ordering} (rounded : source.balance.IsRounded)
    (counted : movement.amount.IsCents cents) (positive : 0 < cents)
    (few : cents.natAbs < 10 ^ Decimal.working.digits)
    (compared : source.balance.toDecimal.compareValues movement.amount = .ok order)
    (enough : order ≠ .lt) :
    source.balance.covers (.finite (Binary64.nearest (cents.natAbs * Binary64.one) 100 : Nat))
        = true
      ↔ ¬(source.balance.toDecimal.compareValues movement.amount = .ok .eq
        ∧ source.balance.IsShort) := by
  cases order with
  | lt => exact absurd rfl enough
  | gt =>
      have more := Stored.covers_of_compareValues_gt rounded counted positive compared
      simp [compared, more]
  | eq =>
      have shown := Stored.ofDecimal?_toDecimal_of_compareValues_eq counted positive few compared
      simp [compared, Stored.IsShort, shown]

/-- In a ledger that has come about in whatever way, a request that has passed its check succeeds,
with one exception: all that is shown is asked for, and the balance is short of it.  Then the
request is refused and nothing changes. -/
theorem request_succeeds_iff {start checked : World} {events : List Event}
    (description : Option String) (empty : start.ledger = .empty) (raceless : start.IsRaceless)
    (events_raceless : ∀ event ∈ events, event.IsRaceless)
    (faultless : (start.run events).fault = none)
    (found : (start.run events).ledger.account? movement.owner movement.source = some source)
    (passes : movement.validate (start.run events) = .ok () checked) :
    ((∃ id after, request movement.owner movement.source movement.target (some movement.amount)
        description (start.run events) = .ok id after)
      ↔ ¬(source.balance.toDecimal.compareValues movement.amount = .ok .eq
        ∧ source.balance.IsShort))
    ∧ (source.balance.toDecimal.compareValues movement.amount = .ok .eq ∧ source.balance.IsShort →
      request movement.owner movement.source movement.target (some movement.amount) description
        (start.run events) = .error (.insufficientFunds none) (start.run events)) := by
  have regular : (start.run events).ledger.IsRegular := by
    apply World.isRegular_run raceless events_raceless
    rw [empty]
    exact ⟨.nil, by simp [Ledger.Every, Ledger.empty]⟩
  generalize start.run events = world at *
  rcases validate_eq_ok passes with ⟨rfl, amount_positive, whole, admitted⟩
  rcases exists_isCents_pos amount_positive whole with ⟨cents, counted, positive, few⟩
  have stored := Stored.ofDecimal?_of_isCents_of_pos counted positive few
  rcases admitted.shown with ⟨same, order, same_found, compared, enough⟩
  obtain rfl : source = same := Option.some.inj (found.symm.trans same_found)
  have covered :=
    covers_iff (regular.rounded.of_account? found) counted positive few compared enough
  have request_run : request movement.owner movement.source movement.target (some movement.amount)
      description checked
      = Transfer.execute movement (describe description) checked.today checked :=
    request_of_validate passes
  have refused : source.balance.toDecimal.compareValues movement.amount = .ok .eq
      ∧ source.balance.IsShort →
      request movement.owner movement.source movement.target (some movement.amount) description
        checked = .error (.insufficientFunds none) checked := by
    intro short
    rw [request_run]
    apply Transfer.executeWith_of_not_covers faultless admitted.source_word found stored
    rw [← Bool.not_eq_true, covered]
    exact not_not.mpr short
  refine ⟨⟨?_, ?_⟩, refused⟩
  · rintro ⟨id, after, done⟩ short
    cases done.symm.trans (refused short)
  · intro long
    rcases admitted.exists_target regular.distinct with ⟨target, target_found⟩
    obtain ⟨id, after, effect⟩ := exists_effect found target_found stored (covered.mpr long)
    refine ⟨id, { checked with ledger := after }, ?_⟩
    rw [request_run]
    exact Transfer.execute_of_faultless effect faultless admitted.source_word admitted.target_word

/-- Some coins come in at a box. -/
def coin (cents : Nat) : NewEntry where
  owner := "ana"
  kind := .income
  amount := .ofCents false cents
  description := "Moedas"
  date := World.newYear.today
  account := some 1

/-- Seven tenths and one tenth come in, one after the other. -/
def coins : List Event :=
  [.create "ana" "Cofre" .wallet .zero, .create "ana" "Banco" .checking .zero,
   .record [coin 70], .record [coin 10]]

/-- A cent less than what is shown can be moved, but not all of it. -/
theorem request_succeeds_iff_coins :
    (∃ id after, request "ana" 1 2 (some (.ofCents false 79)) none (World.newYear.run coins)
      = .ok id after)
    ∧ request "ana" 1 2 (some (.ofCents false 80)) none (World.newYear.run coins)
      = .error (.insufficientFunds none) (World.newYear.run coins) := by
  have raceless : World.newYear.IsRaceless := by simp [World.IsRaceless, World.newYear]
  have events_raceless : ∀ event ∈ coins, event.IsRaceless := by simp [coins, Event.IsRaceless]
  have faultless : (World.newYear.run coins).fault = none := by decide +kernel
  obtain ⟨source, found, less, all, short⟩ : ∃ source ∈
      (World.newYear.run coins).ledger.account? "ana" 1,
      source.balance.toDecimal.compareValues (.ofCents false 79) = .ok .gt
        ∧ source.balance.toDecimal.compareValues (.ofCents false 80) = .ok .eq
        ∧ source.balance.IsShort := by decide +kernel
  have checked : ∀ cents ∈ [79, 80], (validate ⟨"ana", 1, 2, .ofCents false cents⟩).answer
      (World.newYear.run coins) = .ok () := by decide +kernel
  rcases answer_eq_ok_iff.mp (checked 79 (by simp)) with ⟨first, less_passes⟩
  rcases answer_eq_ok_iff.mp (checked 80 (by simp)) with ⟨second, all_passes⟩
  have less_told :=
    @request_succeeds_iff ⟨"ana", 1, 2, .ofCents false 79⟩ source World.newYear first
    coins none rfl raceless events_raceless faultless found less_passes
  have all_told :=
    @request_succeeds_iff ⟨"ana", 1, 2, .ofCents false 80⟩ source World.newYear second
    coins none rfl raceless events_raceless faultless found all_passes
  exact ⟨less_told.1.mpr (by simp [less]), all_told.2 ⟨all, short⟩⟩

/-- Eight tenths are shown and pass the check, yet they cannot be moved. -/
theorem request_refused_coins :
    ((World.newYear.run coins).ledger.account? "ana" 1).map
        (fun account => account.balance.toDecimal) = some (.ofCents false 80)
    ∧ (validate ⟨"ana", 1, 2, .ofCents false 80⟩).answer (World.newYear.run coins) = .ok ()
    ∧ (request "ana" 1 2 (some (.ofCents false 80)) none).answer (World.newYear.run coins)
      = .error (.insufficientFunds none) := by
  decide +kernel

end Movement

end Cashbook
