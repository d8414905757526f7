import Cashbook.Proofs.Ledger.Grouping
import Cashbook.Proofs.Posting.Outcome
import Cashbook.Proofs.Posting.Refusals

/-!
# Failures that the user is told of

Most failures of posting have a line for the user.  What has none are numbers that do not fit: the
number of a row beyond 64 bits, or an installment beyond the calendar.  Sums do not overflow,
because amounts are bounded.
-/

namespace Cashbook

open Call Money

/-- Is there a line for the user about a failure? -/
abbrev Failure.IsTold (failure : Failure) : Prop :=
  failure.family ≠ .internal

theorem Failure.isTold_writeFailed (cause : WriteCause) : (writeFailed cause).IsTold := by
  rintro ⟨⟩

variable {world after : World} {failure : Failure}

namespace Call

variable {Answer : Type} {call : Call Answer}

/-- Does a call come to a failure without a line for the user exactly where there is one to come to?
-/
def Escapes (call : Call Answer) (escape : Option Failure) (world : World) : Prop :=
  match escape with
  | some failure => ¬failure.IsTold ∧ ∃ after, call world = .error failure after
  | none => ∀ failure after, call world = .error failure after → failure.IsTold

theorem escapes_of_error (run : call world = .error failure after) (told : failure.IsTold) :
    Escapes call none world := by
  intro other later again
  rw [run] at again
  cases again
  exact told

end Call

/-! ## Batches -/

namespace Entry

variable {changes : List Change} {entries : List NewEntry}

/-- Collecting entries that add up fails by faults of storage only. -/
theorem failsAs_collect {summed : List Change}
    (folded : entries.foldlM addEntry changes = .ok summed) :
    FailsAs Failure.IsTold (collect changes entries) := by
  induction entries generalizing changes with
  | nil => exact failsAs_pure changes
  | cons entry rest ih =>
      rw [List.foldlM_cons] at folded
      cases step : addEntry changes entry with
      | error error =>
          rw [step] at folded
          cases folded
      | ok next =>
          rw [step] at folded
          have shown : FailsAs Failure.IsTold (failAt .rowBuilding (.writeFailed .insideUnit)) :=
            failsAs_failAt (Failure.isTold_writeFailed _)
          apply shown.bind
          intro _
          rw [step]
          exact ih folded

theorem failsAs_storable (column : String) (amount : Decimal) :
    FailsAs Failure.IsTold (storable column amount) := by
  unfold storable
  split
  · exact failsAs_pure _
  · exact failsAs_throw (Failure.isTold_writeFailed _)

theorem failsAs_storedResult (column : String) (result : Option Stored) :
    FailsAs Failure.IsTold (storedResult column result) := by
  cases result with
  | some stored => exact failsAs_pure stored
  | none => exact failsAs_throw (Failure.isTold_writeFailed _)

theorem failsAs_applyChange (change : Change) : FailsAs Failure.IsTold (applyChange change) := by
  refine .ite ?_ (failsAs_pure _)
  refine (failsAs_failAt (Failure.isTold_writeFailed _)).bind fun _ =>
    failsAs_ledger.bind fun current => ?_
  split
  · exact failsAs_throw (by rintro ⟨⟩)
  · exact (failsAs_storable _ _).bind fun _ => (failsAs_storedResult _ _).bind fun _ =>
      failsAs_putLedger _

/-- Writing a batch whose numbers fit and whose sums do not overflow fails as the user is told. -/
theorem failsAs_record {summed : List Change} (writable : ∀ entry ∈ entries, IsWritable entry)
    (folded : entries.foldlM addEntry [] = .ok summed) :
    FailsAs Failure.IsTold (record entries) := by
  have quiet : FailsAs Failure.IsTold (entries.forM fun entry => checkQuiet entry.amount) := by
    intro world failure after run
    rw [forM_checkQuiet_eq writable world] at run
    cases run
  have inserted : FailsAs Failure.IsTold (entries.mapM insert) := by
    intro world failure after run
    rcases exists_mapM_insert_eq writable world with ⟨ids, later, done⟩
    rw [done] at run
    cases run
  refine (failsAs_failAt (Failure.isTold_writeFailed _)).bind fun _ =>
    failsAs_atomically (Failure.isTold_writeFailed _) ?_
  exact (failsAs_collect folded).bind fun _ => quiet.bind fun _ => inserted.bind fun _ =>
    (failsAs_forM fun change _ => failsAs_applyChange change).bind fun _ => failsAs_pure _

end Entry

/-! ## Entries and series -/

namespace EntryDraft

variable {draft : EntryDraft} {context : OwnerContext} {account : Option Account}
  {entries : List NewEntry} {group : Option String} {today : Date}

/-- The failure without a line that an entry comes to once it has an account: the number of its card
does not fit into 64 bits, or its last installment lies behind the calendar. -/
def cardEscape? (draft : EntryDraft) (owner : String) (ledger : Ledger) (today : Date) :
    Option Failure :=
  match draft.card with
  | some card =>
      if Integer.isWord card = false then some .idTooLarge
      else if ledger.HasCard owner card then draft.overrun? today
      else none
  | none => draft.overrun? today

/-- The failure without a line that posting a draft comes to, if nothing refuses it before. -/
def escape? (draft : EntryDraft) (context : OwnerContext) (ledger : Ledger) (today : Date) :
    Option Failure :=
  if draft.flaw?.isSome ∨ (draft.lackedAccount? context ledger).isSome then none
  else draft.cardEscape? context.owner ledger today

theorem isTold_of_flaw? (flawed : draft.flaw? = some failure) : failure.IsTold := by
  unfold flaw? at flawed
  split_ifs at flawed
  all_goals
    cases flawed
    decide

theorem isTold_of_accountIn {ledger : Ledger}
    (lacked : draft.accountIn context ledger = .error failure) : failure.IsTold := by
  unfold accountIn at lacked
  split at lacked
  · split at lacked
    · cases lacked
    · cases lacked
      rintro ⟨⟩
  · cases lacked
  · split at lacked
    · cases lacked
    · cases lacked
      decide

/-- The installments of a draft add up. -/
theorem Passes.exists_foldlM_eq (passes : draft.Passes context world.ledger account)
    {owner : String}
    (scheduled : draft.schedule owner (account.map Account.id) group today = .ok entries) :
    ∃ summed, entries.foldlM Entry.addEntry [] = .ok summed := by
  rcases exists_isCents_pos passes.positive passes.whole with ⟨cents, counted, -, few⟩
  have small := Decimal.isAtMost_of_isCents counted few
  apply Entry.exists_foldlM_addEntry_iff.mpr
  intro owner account
  have summed := Entry.exists_sumFor_isAtMost owner account (forall_mem_schedule scheduled
    fun place date _ _ => Entry.exists_balanceDelta_isAtMost small)
  exact summed.imp fun sum added => added.1

/-- Writing the rows of a draft that passes fails as the user is told. -/
theorem Passes.isTold_of_write_error (passes : draft.Passes context world.ledger account)
    {owner : String} {begun : World} (words : draft.HasWords)
    (holder_word : ∀ holder, account = some holder → Integer.isWord holder.id = true)
    (in_time : ¬draft.Overruns today)
    (scheduled : draft.schedule owner (account.map Account.id) group today = .ok entries)
    (run : draft.write owner entries begun = .error failure after) : failure.IsTold := by
  rcases passes.exists_foldlM_eq scheduled with ⟨summed, folded⟩
  have told := Entry.failsAs_record (passes.isWritable words holder_word in_time scheduled) folded
  rw [write_eq] at run
  split at run
  next => cases run
  next early _ record =>
    cases run
    have early_told := told record
    cases early with
    | writeFailed cause =>
        unfold EntryDraft.told
        dsimp only
        split_ifs
        · rintro ⟨⟩
        · exact early_told
    | _ => exact early_told

/-- A draft that passes its checks is posted, unless it runs out of the calendar. -/
theorem Passes.escapes_post (passes : draft.Passes context world.ledger account)
    (words : draft.HasWords)
    (holder_word : ∀ holder, account = some holder → Integer.isWord holder.id = true) :
    Escapes (draft.post context) (draft.overrun? world.today) world := by
  have run := post_of_passes passes
  unfold overrun?
  by_cases overrun : draft.Overruns world.today
  · rw [schedule_of_overrun passes.some_entry overrun] at run
    rw [if_pos overrun]
    exact ⟨not_not.mpr rfl, _, run⟩
  · rcases exists_schedule_eq passes.some_entry overrun with ⟨entries, scheduled⟩
    rw [scheduled] at run
    rw [if_neg overrun]
    intro failure after failed
    rcases bind_eq_error_iff.mp (run.symm.trans failed) with early | ⟨_, _, -, ⟨⟩⟩
    exact passes.isTold_of_write_error words holder_word overrun scheduled early

/-- A draft that has an account and its card is posted, unless the calendar stands against it. -/
theorem escapes_post_of_carded (checked : draft.check world = .ok () world)
    (account_word : ∀ id, draft.account = some id → Integer.isWord id = true)
    (category_word : ∀ category, draft.category = some category →
      Integer.isWord category.id = true)
    (chosen : draft.accountIn context world.ledger = .ok account)
    (holder_word : ∀ holder, account = some holder → Integer.isWord holder.id = true)
    (card_word : ∀ id, draft.card = some id → Integer.isWord id = true)
    (owned : ∀ id, draft.card = some id → world.ledger.HasCard context.owner id) :
    Escapes (draft.post context) (draft.overrun? world.today) world := by
  rcases check_eq_ok_iff.mp checked with ⟨-, positive, whole, some_entry⟩
  have passes : draft.Passes context world.ledger account :=
    ⟨positive, whole, some_entry, account_word, chosen, card_word, owned⟩
  exact passes.escapes_post ⟨account_word, card_word, category_word⟩ holder_word

/-- A draft that has an account is posted, unless its card or the calendar stands against it. -/
theorem escapes_post_of_placed (checked : draft.check world = .ok () world)
    (account_word : ∀ id, draft.account = some id → Integer.isWord id = true)
    (category_word : ∀ category, draft.category = some category →
      Integer.isWord category.id = true)
    (chosen : draft.accountIn context world.ledger = .ok account)
    (holder_word : ∀ holder, account = some holder → Integer.isWord holder.id = true) :
    Escapes (draft.post context) (draft.cardEscape? context.owner world.ledger world.today)
      world := by
  have found : draft.accountFor context world = .ok account world := by
    rw [accountFor_eq account_word, chosen]
  have placed : draft.post context world = _ := (bind_of_ok checked).trans (bind_of_ok found)
  have carded := escapes_post_of_carded checked account_word category_word chosen holder_word
  unfold cardEscape?
  cases named : draft.card with
  | none => exact carded (by simp [named]) (by simp [named])
  | some card =>
      dsimp only
      cases word : Integer.isWord card with
      | false =>
          have unchecked : draft.checkCard context.owner world = .error .idTooLarge world := by
            simp only [checkCard, named]
            exact bind_of_error (bind_of_error (checkWord_of_not_isWord word))
          rw [if_pos rfl]
          exact ⟨not_not.mpr rfl, world, placed.trans (bind_of_error unchecked)⟩
      | true =>
          have card_word : ∀ id, draft.card = some id → Integer.isWord id = true := by
            intro id same
            cases named.symm.trans same
            exact word
          rw [if_neg (by simp)]
          by_cases owned : world.ledger.HasCard context.owner card
          · rw [if_pos owned]
            apply carded card_word
            intro id same
            cases named.symm.trans same
            exact owned
          · have refused : draft.checkCard context.owner world
                = .error (.cardMissing card) world := by
              rw [checkCard_eq card_word]
              simp only [named, if_neg owned]
            rw [if_neg owned]
            exact escapes_of_error (placed.trans (bind_of_error refused)) (by rintro ⟨⟩)

/-- Posting a draft comes to its failure without a line, or succeeds, or fails as the user is
told. -/
theorem escapes_post (finite : draft.amount.isFinite = true)
    (account_word : ∀ id, draft.account = some id → Integer.isWord id = true)
    (category_word : ∀ category, draft.category = some category →
      Integer.isWord category.id = true)
    (holder_word : ∀ holder, draft.accountIn context world.ledger = .ok (some holder) →
      Integer.isWord holder.id = true) :
    Escapes (draft.post context) (draft.escape? context world.ledger world.today) world := by
  have checked := draft.check_eq finite world
  unfold escape? lackedAccount?
  cases flawed : draft.flaw? with
  | some failure =>
      rw [flawed] at checked
      rw [if_pos (.inl rfl)]
      exact escapes_of_error (bind_of_error checked) (isTold_of_flaw? flawed)
  | none =>
      rw [flawed] at checked
      cases chosen : draft.accountIn context world.ledger with
      | error failure =>
          have lacked : draft.accountFor context world = .error failure world := by
            rw [accountFor_eq account_word, chosen]
          rw [if_pos (.inr rfl)]
          exact escapes_of_error ((bind_of_ok checked).trans (bind_of_error lacked))
            (isTold_of_accountIn chosen)
      | ok account =>
          rw [if_neg (by simp)]
          apply escapes_post_of_placed checked account_word category_word chosen
          rintro holder rfl
          exact holder_word holder chosen

end EntryDraft

/-! ## Transfers -/

namespace Transfer

variable {movement : Movement}

theorem failsAs_checkWord {number : Int} (word : Integer.isWord number = true) :
    FailsAs Failure.IsTold (checkWord number) := by
  intro world failure after run
  rw [checkWord_eq_ok_iff.mpr ⟨word, rfl⟩] at run
  cases run

theorem failsAs_debit (source_word : Integer.isWord movement.source = true) :
    FailsAs Failure.IsTold (debit movement) := by
  refine (failsAs_checkWord source_word).bind fun _ => failsAs_ledger.bind fun current => ?_
  split
  · exact failsAs_throw (by rintro ⟨⟩)
  · split
    · exact failsAs_throw (by rintro ⟨⟩)
    · exact .ite ((Entry.failsAs_storedResult _ _).bind fun _ => failsAs_putLedger _)
        (failsAs_throw (by rintro ⟨⟩))

theorem failsAs_credit (target_word : Integer.isWord movement.target = true) :
    FailsAs Failure.IsTold (credit movement) := by
  refine (failsAs_checkWord target_word).bind fun _ => failsAs_ledger.bind fun current => ?_
  split
  · exact failsAs_throw (by rintro ⟨⟩)
  · exact (Entry.failsAs_storable _ _).bind fun _ => (Entry.failsAs_storedResult _ _).bind fun _ =>
      failsAs_putLedger _

theorem failsAs_writeRows (movement : Movement) (description : String) (date : Date) :
    FailsAs Failure.IsTold (writeRows movement description date) :=
  (Entry.failsAs_storable _ _).bind fun _ => failsAs_ledger.bind fun _ =>
    (failsAs_putLedger _).bind fun _ =>
      (failsAs_failAt (Failure.isTold_writeFailed _)).bind fun _ => failsAs_ledger.bind fun _ =>
        (failsAs_putLedger _).bind fun _ => failsAs_pure _

theorem failsAs_perform (source_word : Integer.isWord movement.source = true)
    (target_word : Integer.isWord movement.target = true) (description : String) (date : Date) :
    FailsAs Failure.IsTold (perform movement description date) := by
  refine failsAs_atomically (Failure.isTold_writeFailed _) ?_
  have quiet : FailsAs Failure.IsTold (checkQuiet movement.amount) :=
    .ite (failsAs_throw (Failure.isTold_writeFailed _)) (failsAs_pure _)
  exact quiet.bind fun _ => (failsAs_debit source_word).bind fun _ =>
    (failsAs_credit target_word).bind fun _ => failsAs_writeRows _ _ _

end Transfer

namespace Movement

variable {movement : Movement}

theorem failsAs_validate (finite : movement.amount.isFinite = true)
    (source_word : Integer.isWord movement.source = true)
    (target_word : Integer.isWord movement.target = true) :
    FailsAs Failure.IsTold movement.validate := by
  have amount : FailsAs Failure.IsTold (checkAmount movement.amount) := by
    unfold checkAmount
    rw [Decimal.isNotPositive_of_isFinite finite]
    exact (failsAs_pure _).bind fun _ => .ite (failsAs_throw (by rintro ⟨⟩)) <|
      .ite (failsAs_throw (by rintro ⟨⟩)) (failsAs_pure _)
  have both : FailsAs Failure.IsTold
      (Account.among movement.owner [movement.source, movement.target]) := by
    intro world failure after run
    rw [Account.among_of_words source_word target_word] at run
    cases run
  refine amount.bind fun _ => .ite (failsAs_throw (by rintro ⟨⟩)) ?_
  refine both.bind fun accounts => .ite (failsAs_throw (by rintro ⟨⟩)) ?_
  split
  · exact failsAs_throw (by rintro ⟨⟩)
  · next source _ =>
      rcases source.balance.exists_order?_eq finite with ⟨order, ordered⟩
      rw [Decimal.compareValues, ordered]
      exact (failsAs_pure _).bind fun _ => .ite (failsAs_throw (by rintro ⟨⟩)) (failsAs_pure _)

/-- Without a fault, a request between accounts whose numbers fit fails as the user is told. -/
theorem escapes_request (description : Option String) (finite : movement.amount.isFinite = true)
    (source_word : Integer.isWord movement.source = true)
    (target_word : Integer.isWord movement.target = true) (faultless : world.fault = none) :
    Escapes (request movement.owner movement.source movement.target (some movement.amount)
      description) none world := by
  intro failure after run
  rw [request_eq] at run
  rcases bind_eq_error_iff.mp run with refused | ⟨_, middle, valid, rest⟩
  · exact failsAs_validate finite source_word target_word refused
  · obtain rfl := (validate_eq_ok valid).1
    rw [bind_of_ok (get_apply _), Transfer.execute,
      Transfer.executeWith_eq_performWith faultless] at rest
    exact Transfer.failsAs_perform source_word target_word _ _ rest

end Movement

/-- Without a fault, a transfer between accounts whose numbers fit is posted or refused. -/
theorem TransferDraft.escapes_post {draft : TransferDraft} (context : OwnerContext)
    (finite : draft.amount.isFinite = true) (source_word : Integer.isWord draft.source = true)
    (target_word : Integer.isWord draft.target = true) (faultless : world.fault = none) :
    Escapes (draft.post context) none world := by
  intro failure after run
  rcases bind_eq_error_iff.mp run with refused | ⟨id, middle, -, rest⟩
  · exact @Movement.escapes_request world
      ⟨context.owner, draft.source, draft.target, draft.amount⟩ (some draft.description) finite
      source_word target_word faultless failure after refused
  · rw [bind_of_ok (Account.among_of_words source_word target_word ..)] at rest
    cases rest

end Cashbook
