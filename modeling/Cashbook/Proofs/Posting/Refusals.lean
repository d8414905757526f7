import Cashbook.Proofs.Posting.Sufficiency

/-!
# Why transfers are refused

Where storage does not fail, a request for a transfer is refused for the first of four reasons that
holds, or it is done: the amount has no whole cents, an account is not the owner's, the source does
not show enough, or its binary balance does not cover the amount.
-/

namespace Cashbook

open Call Money

/-- Every balance compares with every finite amount. -/
theorem Money.Stored.exists_order?_eq {amount : Decimal} (finite : amount.isFinite = true)
    (balance : Stored) : ∃ order, balance.toDecimal.order? amount = some order := by
  cases balance with
  | finite steps => exact ⟨_, Decimal.order?_of_isFinite rfl finite⟩
  | infinite negative =>
      cases amount with
      | finite otherNegative coefficient exponent => exact ⟨_, rfl⟩
      | infinite otherNegative => cases finite
      | notNumber otherNegative signaling payload => cases finite

namespace Movement

variable {movement : Movement} {world : World}

/-- Why a movement of a positive amount between two accounts is refused, if it is. -/
def refusal? (movement : Movement) (ledger : Ledger) : Option Failure :=
  if isWholeCents movement.amount then
    match ledger.account? movement.owner movement.source,
        ledger.account? movement.owner movement.target with
    | some source, some _ =>
        if source.balance.toDecimal.order? movement.amount = some .lt then
          some (.insufficientFunds (some source.name))
        else if (Stored.ofDecimal? movement.amount).any source.balance.covers then none
        else some (.insufficientFunds none)
    | _, _ => some .accountsNotOwned
  else
    some .amountBelowCent

/-- What refuses a movement can be told to the user. -/
theorem family_of_refusal? {ledger : Ledger} {failure : Failure}
    (refused : movement.refusal? ledger = some failure) : failure.family = .refusal := by
  unfold refusal? at refused
  split_ifs at refused
  · split at refused
    · split_ifs at refused
      all_goals
        cases refused
        rfl
    · cases refused
      rfl
  · cases refused
    rfl

theorem checkAmount_of_positive {amount : Decimal} (positive : amount.isNotPositive = .ok false)
    (world : World) :
    checkAmount amount world
      = if isWholeCents amount then .ok () world else .error .amountBelowCent world := by
  rw [checkAmount, positive, bind_of_ok (ofArithmetic_eq_ok_iff.mpr ⟨rfl, rfl⟩)]
  cases isWholeCents amount <;> rfl

/-- Accounts that are not both the owner's are refused, and so is a source that shows too little. -/
theorem checkAccounts_of_apart (apart : movement.source ≠ movement.target)
    (source_word : Integer.isWord movement.source = true)
    (target_word : Integer.isWord movement.target = true)
    (distinct : (world.ledger.accounts.map Account.id).Nodup)
    (finite : movement.amount.isFinite = true) :
    movement.checkAccounts world =
      match world.ledger.account? movement.owner movement.source,
          world.ledger.account? movement.owner movement.target with
      | some source, some _ =>
          if source.balance.toDecimal.order? movement.amount = some .lt then
            .error (.insufficientFunds (some source.name)) world
          else .ok () world
      | _, _ => .error .accountsNotOwned world := by
  have look := Account.among_of_words source_word target_word movement.owner world
  have both_iff := @Ledger.length_filter_eq_two_iff world.ledger movement.owner _ _ distinct apart
  have missing (other : ¬((∃ account, world.ledger.account? movement.owner movement.source
      = some account) ∧ ∃ account, world.ledger.account? movement.owner movement.target
      = some account)) : movement.checkAccounts world = .error .accountsNotOwned world := by
    rw [checkAccounts, if_neg apart]
    refine (bind_of_ok look).trans ?_
    rw [if_pos (mt both_iff.mp other)]
    rfl
  cases source_found : world.ledger.account? movement.owner movement.source with
  | none => exact missing (by simp [source_found])
  | some source =>
      cases target_found : world.ledger.account? movement.owner movement.target with
      | none => exact missing (by simp [target_found])
      | some target =>
          rcases source.balance.exists_order?_eq finite with ⟨order, ordered⟩
          have both := both_iff.mpr ⟨⟨source, source_found⟩, target, target_found⟩
          have compared : source.balance.toDecimal.compareValues movement.amount = .ok order := by
            rw [Decimal.compareValues, ordered]
          rw [checkAccounts, if_neg apart]
          refine (bind_of_ok look).trans ?_
          rw [if_neg (not_not.mpr both), find?_filter_eq_account?, source_found]
          refine (bind_of_ok (ofArithmetic_eq_ok_iff.mpr ⟨compared, rfl⟩)).trans ?_
          simp only [ordered, Option.some.injEq]
          split_ifs <;> rfl

/-- A request is refused for what its checks refuse. -/
theorem request_of_validate_error (description : Option String) {failure : Failure}
    (refused : movement.validate world = .error failure world) :
    request movement.owner movement.source movement.target (some movement.amount) description world
      = .error failure world := by
  rw [request_eq]
  exact bind_of_error refused

/-- A movement that passes its checks is refused where the binary balance of its source does not
cover it, and can be done where it does. -/
theorem covers_of_passes {source target : Account}
    (positive : movement.amount.isNotPositive = .ok false)
    (whole : isWholeCents movement.amount = true)
    (source_word : Integer.isWord movement.source = true)
    (source_found : world.ledger.account? movement.owner movement.source = some source)
    (target_found : world.ledger.account? movement.owner movement.target = some target)
    (faultless : world.fault = none) :
    if (Stored.ofDecimal? movement.amount).any source.balance.covers then
      ∀ description date, ∃ id after,
        Transfer.Effect movement description date world.ledger id after
    else
      ∀ write,
        Transfer.executeWith write movement world = .error (.insufficientFunds none) world := by
  rcases exists_isCents_pos positive whole with ⟨cents, counted, above, few⟩
  have stored := Stored.ofDecimal?_of_isCents_of_pos counted above few
  rw [stored, Option.any_some]
  generalize (Binary64.nearest (cents.natAbs * Binary64.one) 100 : Int) = steps at stored ⊢
  cases covered : source.balance.covers (.finite steps) with
  | true => exact fun _ _ => exists_effect source_found target_found stored covered
  | false =>
      exact fun _ =>
        Transfer.executeWith_of_not_covers faultless source_word source_found stored covered

/-- Without a fault, a movement of a positive amount between two accounts is refused for its reason
before its rows are written, or it passes its checks and can be done. -/
theorem refusal?_cases (movement : Movement) (world : World)
    (positive : movement.amount.isNotPositive = .ok false)
    (finite : movement.amount.isFinite = true)
    (apart : movement.source ≠ movement.target)
    (source_word : Integer.isWord movement.source = true)
    (target_word : Integer.isWord movement.target = true)
    (distinct : (world.ledger.accounts.map Account.id).Nodup) (faultless : world.fault = none) :
    match movement.refusal? world.ledger with
    | some failure => ∀ write,
        (movement.validate >>= fun _ => Transfer.executeWith write movement) world
          = .error failure world
    | none => movement.validate world = .ok () world
        ∧ ∀ description date, ∃ id after,
          Transfer.Effect movement description date world.ledger id after := by
  have amount_run := checkAmount_of_positive positive world
  have accounts_run := checkAccounts_of_apart apart source_word target_word distinct finite
  unfold refusal?
  cases whole : isWholeCents movement.amount with
  | false =>
      rw [whole, if_neg Bool.false_ne_true] at amount_run
      have refused : movement.validate world = .error .amountBelowCent world :=
        bind_of_error amount_run
      exact fun _ => bind_of_error refused
  | true =>
      rw [whole, if_pos rfl] at amount_run
      have validate_run : movement.validate world = movement.checkAccounts world :=
        bind_of_ok amount_run
      rw [accounts_run] at validate_run
      rw [if_pos rfl]
      cases source_found : world.ledger.account? movement.owner movement.source with
      | none =>
          simp only [source_found] at validate_run
          exact fun _ => bind_of_error validate_run
      | some source =>
          cases target_found : world.ledger.account? movement.owner movement.target with
          | none =>
              simp only [source_found, target_found] at validate_run
              exact fun _ => bind_of_error validate_run
          | some target =>
              simp only [source_found, target_found] at validate_run
              dsimp only
              split_ifs at validate_run with short
              · rw [if_pos short]
                exact fun _ => bind_of_error validate_run
              · have done := covers_of_passes positive whole source_word source_found target_found
                  faultless
                rw [if_neg short]
                split_ifs at done ⊢
                · exact ⟨validate_run, done⟩
                · exact fun write => (bind_of_ok validate_run).trans (done write)

/-- Without a fault, a request for a positive amount between two accounts is refused for its reason,
or done. -/
theorem request_of_faultless (movement : Movement) (world : World) (description : Option String)
    (positive : movement.amount.isNotPositive = .ok false)
    (finite : movement.amount.isFinite = true)
    (apart : movement.source ≠ movement.target)
    (source_word : Integer.isWord movement.source = true)
    (target_word : Integer.isWord movement.target = true)
    (distinct : (world.ledger.accounts.map Account.id).Nodup) (faultless : world.fault = none) :
    match movement.refusal? world.ledger with
    | some failure =>
        request movement.owner movement.source movement.target (some movement.amount) description
          world = .error failure world
    | none => ∃ id after,
        request movement.owner movement.source movement.target (some movement.amount) description
          world = .ok id after := by
  have told := refusal?_cases movement world positive finite apart source_word target_word distinct
    faultless
  rw [request_apply]
  cases reason : movement.refusal? world.ledger with
  | some failure =>
      simp only [reason] at told
      exact told _
  | none =>
      simp only [reason] at told
      rcases told with ⟨passes, possible⟩
      rcases possible (describe description) world.today with ⟨id, after, effect⟩
      exact ⟨id, _, (bind_of_ok passes).trans
        (Transfer.execute_of_faultless effect faultless source_word target_word)⟩

/-- Without a fault, a request with a torn description is refused for the same reasons, and fails
where another one is done. -/
theorem requestTorn_of_faultless (movement : Movement) (world : World)
    (positive : movement.amount.isNotPositive = .ok false)
    (finite : movement.amount.isFinite = true)
    (apart : movement.source ≠ movement.target)
    (source_word : Integer.isWord movement.source = true)
    (target_word : Integer.isWord movement.target = true)
    (distinct : (world.ledger.accounts.map Account.id).Nodup) (faultless : world.fault = none) :
    requestTorn movement.owner movement.source movement.target (some movement.amount) world
      = .error ((movement.refusal? world.ledger).getD .tornText) world := by
  have told := refusal?_cases movement world positive finite apart source_word target_word distinct
    faultless
  rw [requestTorn_eq]
  cases reason : movement.refusal? world.ledger with
  | some failure =>
      simp only [reason] at told
      exact told _
  | none =>
      simp only [reason] at told
      rcases told with ⟨passes, possible⟩
      rcases possible defaultDescription world.today with ⟨id, after, effect⟩
      exact (bind_of_ok passes).trans
        (Transfer.executeTorn_of_faultless effect faultless source_word target_word)

end Movement

end Cashbook
