import Cashbook.Proofs.Posting.Refusals

/-!
# How transfers end

Without a fault, a transfer of a moderate amount ends in one of three ways, which the two accounts
and the balance of the source settle between them.  A request for one is refused for its amount or
for naming one account twice before the ledger is looked at, then for what the ledger shows, and
otherwise it ends as the transfer does.
-/

namespace Cashbook

open Call Money

variable {movement : Movement} {world : World} {amount : Stored} {description : String}
  {date : Date}

/-! ## Transfers -/

namespace Transfer

/-- A ledger after a transfer between two accounts: both balances have changed, and two entries and
a record are new. -/
def moved (movement : Movement) (amount left gained : Stored) (description : String) (date : Date)
    (ledger : Ledger) : Ledger :=
  { withRows movement amount description date ledger with
    accounts := ledger.accounts.map fun account =>
      if account.id = movement.source ∧ account.owner = movement.owner then
        { account with balance := left }
      else if account.id = movement.target ∧ account.owner = movement.owner then
        { account with balance := gained }
      else account }

theorem withRows_setBalance (apart : movement.source ≠ movement.target) (left gained : Stored)
    (ledger : Ledger) :
    withRows movement amount description date ((ledger.setBalance movement.owner movement.source
        left).setBalance movement.owner movement.target gained)
      = moved movement amount left gained description date ledger := by
  have accounts_eq : ((ledger.setBalance movement.owner movement.source left).setBalance
      movement.owner movement.target gained).accounts = ledger.accounts.map fun account =>
        if account.id = movement.source ∧ account.owner = movement.owner then
          { account with balance := left }
        else if account.id = movement.target ∧ account.owner = movement.owner then
          { account with balance := gained }
        else account := by
    simp only [Ledger.setBalance, List.map_map]
    refine List.map_congr_left fun account _ => ?_
    by_cases source : account.id = movement.source ∧ account.owner = movement.owner
    · simp [source, apart]
    · simp [source]
  rw [moved, ← accounts_eq]
  rfl

/-- What a transfer between two accounts has made of a ledger: the amount has left one balance and
come to the other, and nothing else has changed but for the new rows. -/
def HasMoved (movement : Movement) (amount : Stored) (description : String) (date : Date)
    (before after : Ledger) : Prop :=
  ∃ source target left gained, before.account? movement.owner movement.source = some source
    ∧ before.account? movement.owner movement.target = some target
    ∧ source.balance.sub? amount = some left ∧ target.balance.add? amount = some gained
    ∧ after = moved movement amount left gained description date before

theorem Effect.hasMoved {id : Int} {before after : Ledger}
    (effect : Effect movement description date before id after)
    (apart : movement.source ≠ movement.target)
    (amount_eq : Stored.ofDecimal? movement.amount = some amount) :
    HasMoved movement amount description date before after := by
  cases effect with
  | @intro source target same left gained source_found stored covered debited target_found
      credited =>
    obtain rfl := Option.some.inj (stored.symm.trans amount_eq)
    rw [Ledger.account?_setBalance_of_ne fun same => apart same.2.symm] at target_found
    exact ⟨source, target, left, gained, source_found, target_found, debited, credited,
      withRows_setBalance apart left gained before⟩

/-- Are both accounts the owner's, and does the source cover the amount? -/
def IsCovered (movement : Movement) (amount : Stored) (ledger : Ledger) : Prop :=
  ∃ source target, ledger.account? movement.owner movement.source = some source
    ∧ ledger.account? movement.owner movement.target = some target
    ∧ source.balance.covers amount = true

/-- Is the source the owner's, but its balance too low? -/
def IsTooLow (movement : Movement) (amount : Stored) (ledger : Ledger) : Prop :=
  ∃ source, ledger.account? movement.owner movement.source = some source
    ∧ source.balance.covers amount = false

/-- Is the source not the owner's, or is it sufficient but the target is not the owner's? -/
def IsNotOwned (movement : Movement) (amount : Stored) (ledger : Ledger) : Prop :=
  ledger.account? movement.owner movement.source = none
  ∨ ∃ source, ledger.account? movement.owner movement.source = some source
    ∧ source.balance.covers amount = true
    ∧ ledger.account? movement.owner movement.target = none

/-- One of three things holds of a transfer, and each settles how it ends. -/
theorem execute_cases {steps : Int} (faultless : world.fault = none)
    (source_word : Integer.isWord movement.source = true)
    (target_word : Integer.isWord movement.target = true)
    (stored : Stored.ofDecimal? movement.amount = some (.finite steps))
    (description : String) (date : Date) :
    IsCovered movement (.finite steps) world.ledger
        ∧ (∃ id after, execute movement description date world = .ok id after)
      ∨ IsTooLow movement (.finite steps) world.ledger
        ∧ execute movement description date world = .error (.insufficientFunds none) world
      ∨ IsNotOwned movement (.finite steps) world.ledger
        ∧ execute movement description date world = .error .accountsNotOwned world := by
  cases source_found : world.ledger.account? movement.owner movement.source with
  | none =>
      exact .inr (.inr ⟨.inl source_found,
        execute_of_source_missing faultless source_word stored source_found⟩)
  | some source =>
      cases covered : source.balance.covers (.finite steps) with
      | false =>
          exact .inr (.inl ⟨⟨source, source_found, covered⟩,
            executeWith_of_not_covers faultless source_word source_found stored covered⟩)
      | true =>
          cases target_found : world.ledger.account? movement.owner movement.target with
          | none =>
              rcases source.balance.exists_add?_finite (-steps) with ⟨left, debited⟩
              exact .inr (.inr ⟨.inr ⟨source, source_found, covered, target_found⟩,
                execute_of_target_missing faultless source_word target_word source_found stored
                  covered debited target_found⟩)
          | some target =>
              obtain ⟨id, new, effect⟩ :=
                Movement.exists_effect source_found target_found stored covered
              exact .inl ⟨⟨source, target, source_found, target_found, covered⟩, id, _,
                execute_of_faultless effect faultless source_word target_word⟩

/-- How a transfer of a stored amount ends: by what holds of the accounts and the balance of the
source.  A failure leaves everything as it was. -/
structure EndsAsSettled (movement : Movement) (amount : Stored) (description : String) (date : Date)
    (world : World) : Prop where
  done : (∃ id after, execute movement description date world = .ok id after)
    ↔ IsCovered movement amount world.ledger
  tooLow : execute movement description date world = .error (.insufficientFunds none) world
    ↔ IsTooLow movement amount world.ledger
  notOwned : execute movement description date world = .error .accountsNotOwned world
    ↔ IsNotOwned movement amount world.ledger
  clean : ∀ failure after, execute movement description date world = .error failure after →
    after = world
  moves : ∀ id after, execute movement description date world = .ok id after →
    movement.source ≠ movement.target →
    HasMoved movement amount description date world.ledger after.ledger

theorem not_isTooLow_of_isCovered {ledger : Ledger} (covered : IsCovered movement amount ledger) :
    ¬IsTooLow movement amount ledger := by
  rcases covered with ⟨source, target, found, -, enough⟩
  rintro ⟨same, same_found, short⟩
  obtain rfl := Option.some.inj (found.symm.trans same_found)
  rw [enough] at short
  cases short

theorem not_isNotOwned_of_isCovered {ledger : Ledger} (covered : IsCovered movement amount ledger) :
    ¬IsNotOwned movement amount ledger := by
  rcases covered with ⟨source, target, found, target_found, -⟩
  rintro (missing | ⟨-, -, -, missing⟩)
  · rw [missing] at found
    cases found
  · rw [missing] at target_found
    cases target_found

theorem not_isNotOwned_of_isTooLow {ledger : Ledger} (low : IsTooLow movement amount ledger) :
    ¬IsNotOwned movement amount ledger := by
  rcases low with ⟨source, found, short⟩
  rintro (missing | ⟨same, same_found, enough, -⟩)
  · rw [missing] at found
    cases found
  · obtain rfl := Option.some.inj (found.symm.trans same_found)
    rw [enough] at short
    cases short

/-- Without a fault, a transfer of an amount that is stored as a finite one ends as settled. -/
theorem endsAsSettled {steps : Int} (faultless : world.fault = none)
    (source_word : Integer.isWord movement.source = true)
    (target_word : Integer.isWord movement.target = true)
    (stored : Stored.ofDecimal? movement.amount = some (.finite steps))
    (description : String) (date : Date) :
    EndsAsSettled movement (.finite steps) description date world := by
  have moves : ∀ id after, execute movement description date world = .ok id after →
      movement.source ≠ movement.target →
      HasMoved movement (.finite steps) description date world.ledger after.ledger :=
    fun id after run apart =>
      (effect_of_execute_eq_ok (World.point_ne_of_faultless faultless _) run).hasMoved apart stored
  rcases execute_cases faultless source_word target_word stored description date with
    ⟨covered, id, after, run⟩ | ⟨low, run⟩ | ⟨missing, run⟩
  · have not_low := not_isTooLow_of_isCovered covered
    have not_missing := not_isNotOwned_of_isCovered covered
    refine ⟨?_, ?_, ?_, ?_, moves⟩ <;> simp [run, covered, not_low, not_missing]
  · have not_covered := mt not_isTooLow_of_isCovered (not_not.mpr low)
    have not_missing := not_isNotOwned_of_isTooLow low
    refine ⟨?_, ?_, ?_, ?_, moves⟩ <;> simp [run, low, not_covered, not_missing, eq_comm]
  · have not_covered := mt not_isNotOwned_of_isCovered (not_not.mpr missing)
    have not_low := mt not_isNotOwned_of_isTooLow (not_not.mpr missing)
    refine ⟨?_, ?_, ?_, ?_, moves⟩ <;> simp [run, missing, not_covered, not_low, eq_comm]

end Transfer

/-! ## Requests -/

namespace Movement

/-- A request for a movement. -/
abbrev requested (movement : Movement) (description : Option String) : Call Int :=
  request movement.owner movement.source movement.target (some movement.amount) description

/-- How a request for a positive amount ends, in the order of its checks: the first two do not
depend on the ledger, the next two on what it shows, and if none refuses the request is a transfer.
-/
structure EndsInOrder (movement : Movement) (description : Option String) (world : World) :
    Prop where
  fractional : (¬∃ cents : Int, movement.amount.IsCents cents) →
    movement.requested description world = .error .amountBelowCent world
  same : (∃ cents : Int, movement.amount.IsCents cents) → movement.source = movement.target →
    movement.requested description world = .error .sameAccount world
  notOwned : (∃ cents : Int, movement.amount.IsCents cents) → movement.source ≠ movement.target →
    Integer.isWord movement.source = true → Integer.isWord movement.target = true →
    (world.ledger.accounts.map Account.id).Nodup →
    world.ledger.account? movement.owner movement.source = none
      ∨ world.ledger.account? movement.owner movement.target = none →
    movement.requested description world = .error .accountsNotOwned world
  owned : (∃ cents : Int, movement.amount.IsCents cents) → movement.source ≠ movement.target →
    Integer.isWord movement.source = true → Integer.isWord movement.target = true →
    (world.ledger.accounts.map Account.id).Nodup →
    ∀ source target, world.ledger.account? movement.owner movement.source = some source →
    world.ledger.account? movement.owner movement.target = some target →
    if source.balance.toDecimal.order? movement.amount = some .lt then
      movement.requested description world = .error (.insufficientFunds (some source.name)) world
    else movement.requested description world
      = Transfer.execute movement (describe description) world.today world

theorem checkAmount_of_not_positive {amount : Decimal} (finite : amount.isFinite = true)
    (nothing : amount.value ≤ 0) (world : World) :
    checkAmount amount world = .error .amountNotPositive world := by
  rw [checkAmount, Decimal.isNotPositive_of_isFinite finite, decide_eq_true nothing,
    bind_of_ok (ofArithmetic_eq_ok_iff.mpr ⟨rfl, rfl⟩)]
  rfl

/-- An amount below `10 ^ 26` has whole cents exactly when it is a number of cents. -/
theorem isWholeCents_iff_of_small {amount : Decimal} (positive : 0 < amount.value)
    (small : amount.value < 10 ^ 26) :
    isWholeCents amount = true ↔ ∃ cents : Int, amount.IsCents cents := by
  rw [isWholeCents_iff]
  refine ⟨fun ⟨cents, counted, _⟩ => ⟨cents, counted⟩, fun ⟨cents, counted⟩ => ⟨cents, counted, ?_⟩⟩
  rcases Decimal.isCents_iff.mp counted with ⟨-, value_eq⟩
  rw [value_eq, div_lt_iff₀ (by norm_num)] at small
  rw [value_eq] at positive
  have above : (0 : ℚ) < cents := (div_pos_iff_of_pos_right (by norm_num)).mp positive
  have below : (cents : ℚ) < 10 ^ 28 := by linarith
  have above_int : 0 < cents := by exact_mod_cast above
  have below_int : cents < 10 ^ 28 := by exact_mod_cast below
  change cents.natAbs < 10 ^ 28
  omega

theorem endsInOrder (finite : movement.amount.isFinite = true)
    (positive : 0 < movement.amount.value) (small : movement.amount.value < 10 ^ 26)
    (description : Option String) (world : World) : movement.EndsInOrder description world := by
  have whole_iff := isWholeCents_iff_of_small positive small
  have above : movement.amount.isNotPositive = .ok false := by
    rw [Decimal.isNotPositive_of_isFinite finite, decide_eq_false (not_le.mpr positive)]
  have amount_run := checkAmount_of_positive above world
  have validate_run (counted : ∃ cents : Int, movement.amount.IsCents cents) :
      movement.validate world = movement.checkAccounts world := by
    rw [whole_iff.mpr counted, if_pos rfl] at amount_run
    exact bind_of_ok amount_run
  refine ⟨fun fractional => ?_, fun counted same => ?_, ?_, ?_⟩
  · rw [← whole_iff] at fractional
    rw [if_neg fractional] at amount_run
    exact request_of_validate_error description (bind_of_error amount_run)
  · refine request_of_validate_error description ((validate_run counted).trans ?_)
    rw [checkAccounts, if_pos same]
    rfl
  · intro counted apart source_word target_word distinct missing
    refine request_of_validate_error description ((validate_run counted).trans ?_)
    rw [checkAccounts_of_apart apart source_word target_word distinct finite]
    rcases missing with missing | missing
    · rw [missing]
    · rw [missing]
      cases world.ledger.account? movement.owner movement.source <;> rfl
  · intro counted apart source_word target_word distinct source target source_found target_found
    have checked := (validate_run counted).trans
      (checkAccounts_of_apart apart source_word target_word distinct finite)
    rw [source_found, target_found] at checked
    dsimp only at checked
    split_ifs at checked ⊢ with short
    · exact request_of_validate_error description checked
    · exact request_of_validate checked

/-- A request without a positive amount is refused whatever the ledger holds; one for a positive
amount below `10 ^ 26` ends in the order of its checks; and a transfer of such an amount between
numbers of 64 bits, without a fault, ends as settled by the accounts and the amount as it is stored.
-/
theorem transfers_end_as_settled (movement : Movement) (finite : movement.amount.isFinite = true)
    (small : movement.amount.value < 10 ^ 26) :
    (∀ description world, request movement.owner movement.source movement.target none description
      world = .error .amountNotPositive world)
    ∧ (movement.amount.value ≤ 0 → ∀ description world,
      movement.requested description world = .error .amountNotPositive world)
    ∧ (0 < movement.amount.value →
      (∀ description world, movement.EndsInOrder description world)
      ∧ (Integer.isWord movement.source = true → Integer.isWord movement.target = true →
        ∃ amount, Stored.ofDecimal? movement.amount = some amount
          ∧ ∀ world : World, world.fault = none → ∀ description date,
            Transfer.EndsAsSettled movement amount description date world)) := by
  refine ⟨fun description world => rfl, fun nothing description world => ?_, fun positive =>
    ⟨endsInOrder finite positive small, fun source_word target_word => ?_⟩⟩
  · apply request_of_validate_error
    exact bind_of_error (checkAmount_of_not_positive finite nothing world)
  · have range : |movement.amount.value| < 2 ^ 87 := by
      rw [abs_of_pos positive]
      exact small.trans (by norm_num)
    rcases Stored.exists_ofDecimal?_eq_finite finite (by norm_num) range with ⟨steps, stored⟩
    exact ⟨_, stored, fun world faultless =>
      Transfer.endsAsSettled faultless source_word target_word stored⟩

/-- Ana has a full wallet and an empty one. -/
def wallets : World :=
  World.newYear.run [.create "ana" "Carteira" .wallet (.ofCents false 1000),
    .create "ana" "Cofre" .wallet .zero]

/-- A part of what is in the wallet is moved; more than that is not, and nothing goes to an account
that is not there. -/
theorem transfers_end_as_settled_wallets :
    (∃ id after, requested ⟨"ana", 1, 2, .ofCents false 250⟩ none wallets = .ok id after)
    ∧ (requested ⟨"ana", 1, 2, .ofCents false 1001⟩ none wallets
      = .error (.insufficientFunds (some "Carteira")) wallets)
    ∧ Transfer.execute ⟨"ana", 1, 3, .ofCents false 250⟩ "Reserva" wallets.today wallets
      = .error .accountsNotOwned wallets := by
  have faultless : wallets.fault = none := by decide +kernel
  have distinct : (wallets.ledger.accounts.map Account.id).Nodup := by decide +kernel
  have missing : wallets.ledger.account? "ana" 3 = none := by decide +kernel
  obtain ⟨source, source_found, target, target_found, covered, enough, little, name⟩ :
      ∃ source ∈ wallets.ledger.account? "ana" 1, ∃ target ∈ wallets.ledger.account? "ana" 2,
        (∀ amount ∈ Stored.ofDecimal? (.ofCents false 250), source.balance.covers amount = true)
          ∧ source.balance.toDecimal.order? (.ofCents false 250) = some .gt
          ∧ source.balance.toDecimal.order? (.ofCents false 1001) = some .lt
          ∧ source.name = "Carteira" := by
    decide +kernel
  have ends := fun (target : Int) (cents : Nat) => transfers_end_as_settled
    ⟨"ana", 1, target, .ofCents false cents⟩ rfl
  have counted : ∀ cents : Nat, ∃ count : Int, (Decimal.ofCents false cents).IsCents count :=
    fun cents => ⟨cents, Decimal.isUnits_finite_iff.mpr rfl⟩
  refine ⟨?_, ?_, ?_⟩
  · rcases (ends 2 250 (by decide +kernel)).2.2 (by decide +kernel) with ⟨asked, moved⟩
    rcases moved (by decide) (by decide) with ⟨amount, amount_eq, settled⟩
    have run := (asked none wallets).owned (counted 250) (by decide) (by decide) (by decide)
      distinct source target source_found target_found
    rw [if_neg (by rw [enough]; decide)] at run
    rw [run]
    exact (settled wallets faultless _ _).done.mpr
      ⟨source, target, source_found, target_found, covered amount amount_eq⟩
  · rcases (ends 2 1001 (by decide +kernel)).2.2 (by decide +kernel) with ⟨asked, -⟩
    have run := (asked none wallets).owned (counted 1001) (by decide) (by decide) (by decide)
      distinct source target source_found target_found
    rw [if_pos little, name] at run
    exact run
  · rcases ((ends 3 250 (by decide +kernel)).2.2 (by decide +kernel)).2 (by decide) (by decide)
      with ⟨amount, amount_eq, settled⟩
    exact (settled wallets faultless _ _).notOwned.mpr
      (.inr ⟨source, source_found, covered amount amount_eq, missing⟩)

end Movement

end Cashbook
