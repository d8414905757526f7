import Cashbook.Posting.Post
import Cashbook.Proofs.Ledger.Moving
import Cashbook.Proofs.Ledger.Recording

/-!
# What requests do

A request checks what it is asked for and only then writes, in one unit of work.  Nothing that can
fail comes after the unit, so a request that fails has changed nothing.
-/

namespace Cashbook

open Call Money

variable {world after : World}

/-! ## Looking things up -/

namespace Account

theorem reads_find (owner : String) (id : Int) : Reads (find owner id) :=
  (reads_checkWord _).bind fun _ => respects_ledger.bind fun _ => respects_pure _

theorem reads_list (owner : String) (limit : Option Int) : Reads (list owner limit) :=
  (reads_failAt _ _).bind fun _ => (reads_checkWord? _).bind fun _ =>
    respects_ledger.bind fun _ => respects_pure _

/-- What is listed are the first active accounts. -/
theorem list_eq_ok {owner : String} {limit : Option Int} {accounts : List Account}
    (run : list owner limit world = .ok accounts after) :
    accounts = limited limit (activeOf world.ledger owner) := by
  rcases bind_eq_ok_iff.mp run with ⟨_, shown, fail, rest⟩
  rcases bind_eq_ok_iff.mp rest with ⟨_, checked, check, last⟩
  cases last
  rw [← ((reads_failAt _ _).of_ok fail).ledger, ← ((reads_checkWord? _).of_ok check).ledger]

theorem reads_among (owner : String) (ids : List Int) : Reads (among owner ids) :=
  (respects_forM fun id _ => reads_checkWord id).bind fun _ =>
    respects_ledger.bind fun _ => respects_pure _

/-- Accounts are looked up where all numbers fit into 64 bits. -/
theorem among_eq_ok_iff {owner : String} {ids : List Int} {accounts : List Account} :
    among owner ids world = .ok accounts after ↔
      (∀ id ∈ ids, Integer.isWord id = true) ∧ after = world
      ∧ accounts = world.ledger.accounts.filter fun account =>
          ids.contains account.id ∧ account.owner = owner := by
  have words : ∀ {checked : World}, ids.forM checkWord world = .ok ⟨⟩ checked ↔
      (∀ id ∈ ids, Integer.isWord id = true) ∧ checked = world := by
    intro checked
    induction ids with
    | nil =>
        constructor
        · rintro ⟨⟩
          exact ⟨by simp, rfl⟩
        · rintro ⟨-, rfl⟩
          rfl
    | cons id rest ih =>
        change (checkWord id >>= fun _ => rest.forM checkWord) world = _ ↔ _
        rw [bind_eq_ok_iff, List.forall_mem_cons]
        constructor
        · rintro ⟨_, middle, first, others⟩
          rcases checkWord_eq_ok_iff.mp first with ⟨word, rfl⟩
          rcases ih.mp others with ⟨later, rfl⟩
          exact ⟨⟨word, later⟩, rfl⟩
        · rintro ⟨⟨word, later⟩, rfl⟩
          exact ⟨(), checked, checkWord_eq_ok_iff.mpr ⟨word, rfl⟩, ih.mpr ⟨later, rfl⟩⟩
  constructor
  · intro run
    rcases bind_eq_ok_iff.mp run with ⟨_, checked, check, rest⟩
    rcases words.mp check with ⟨all_words, rfl⟩
    cases rest
    exact ⟨all_words, rfl, rfl⟩
  · rintro ⟨all_words, rfl, rfl⟩
    rw [among, bind_of_ok (words.mpr ⟨all_words, rfl⟩), bind_of_ok (ledger_apply _)]
    rfl

theorem among_of_words {source target : Int} (source_word : Integer.isWord source = true)
    (target_word : Integer.isWord target = true) (owner : String) (world : World) :
    among owner [source, target] world
      = .ok (world.ledger.accounts.filter fun account =>
          [source, target].contains account.id ∧ account.owner = owner) world :=
  among_eq_ok_iff.mpr ⟨by simp [source_word, target_word], rfl, rfl⟩

/-- Accounts with numbers that do not fit into 64 bits are not looked up. -/
theorem among_of_not_words {source target : Int}
    (large : ¬(Integer.isWord source = true ∧ Integer.isWord target = true)) (owner : String)
    (world : World) : among owner [source, target] world = .error .idTooLarge world := by
  refine bind_of_error ?_
  change (checkWord source >>= fun _ => [target].forM checkWord) world = _
  cases first : Integer.isWord source with
  | false => exact bind_of_error (checkWord_of_not_isWord first)
  | true =>
      have second : Integer.isWord target = false :=
        eq_false_of_ne_true fun second => large ⟨first, second⟩
      rw [bind_of_ok (checkWord_eq_ok_iff.mpr ⟨first, rfl⟩)]
      exact bind_of_error (checkWord_of_not_isWord second)

end Account

theorem Card.reads_find (owner : String) (id : Int) : Reads (Card.find owner id) :=
  (reads_checkWord _).bind fun _ => respects_ledger.bind fun _ => respects_pure _

theorem Category.reads_list (owner : String) : Reads (Category.list owner) :=
  respects_ledger.bind fun _ => respects_pure _

theorem OwnerContext.reads_load (owner : String) : Reads (OwnerContext.load owner) :=
  (Account.reads_list _ _).bind fun _ => (Category.reads_list _).bind fun _ => respects_pure _

/-- What is at hand are an owner's first active accounts and all categories. -/
theorem OwnerContext.load_eq_ok {owner : String} {context : OwnerContext}
    (run : OwnerContext.load owner world = .ok context after) :
    context = ⟨owner, Account.limited (some pageSize) (Account.activeOf world.ledger owner),
      Category.allOf world.ledger owner⟩ := by
  rcases bind_eq_ok_iff.mp run with ⟨accounts, listed, list, rest⟩
  cases rest
  rw [Account.list_eq_ok list, ← ((Account.reads_list _ _).of_ok list).ledger]

/-! ## Transfers -/

namespace Movement

variable {owner : String} {source target : Int} {description : Option String} {id : Int}

theorem reads_checkAmount (amount : Decimal) : Reads (checkAmount amount) :=
  (reads_ofArithmetic _).bind fun _ => .ite (respects_throw _)
    (.ite (respects_throw _) (respects_pure _))

theorem reads_checkAccounts (movement : Movement) : Reads movement.checkAccounts := by
  refine .ite (respects_throw _) ?_
  refine (Account.reads_among _ _).bind fun accounts => .ite (respects_throw _) ?_
  split
  · exact respects_throw _
  · exact (reads_ofArithmetic _).bind fun _ => .ite (respects_throw _) (respects_pure _)

/-- What is checked before a transfer is written. -/
def validate (movement : Movement) : Call Unit := do
  checkAmount movement.amount
  movement.checkAccounts

theorem reads_validate (movement : Movement) : Reads movement.validate :=
  (reads_checkAmount _).bind fun _ => reads_checkAccounts movement

/-- A request with an amount is a check and a transfer. -/
theorem requestWith_eq (execute : Movement → Call Int) (amount : Decimal) :
    requestWith execute owner source target (some amount) = (do
      let movement : Movement := ⟨owner, source, target, amount⟩
      movement.validate
      execute movement) := by
  unfold requestWith validate
  simp only [bind_assoc]

theorem request_eq (amount : Decimal) :
    request owner source target (some amount) description = (do
      let movement : Movement := ⟨owner, source, target, amount⟩
      movement.validate
      let world ← get
      Transfer.execute movement (describe description) world.today) :=
  requestWith_eq _ amount

theorem requestTorn_eq (amount : Decimal) :
    requestTorn owner source target (some amount) = (do
      let movement : Movement := ⟨owner, source, target, amount⟩
      movement.validate
      Transfer.executeTorn movement) :=
  requestWith_eq _ amount

theorem atomic_requestWith {execute : Movement → Call Int}
    (atomic : ∀ movement, Atomic (execute movement)) (owner : String) (source target : Int)
    (amount : Option Decimal) : Atomic (requestWith execute owner source target amount) := by
  cases amount with
  | none => exact Reads.atomic (respects_throw _)
  | some amount =>
      rw [requestWith_eq]
      exact (reads_validate _).bind_atomic fun _ => atomic _

theorem atomic_request (owner : String) (source target : Int) (amount : Option Decimal)
    (description : Option String) : Atomic (request owner source target amount description) :=
  atomic_requestWith (fun _ => Reads.bind_atomic respects_get fun _ =>
    Transfer.atomic_execute _ _ _) owner source target amount

theorem atomic_requestTorn (owner : String) (source target : Int) (amount : Option Decimal) :
    Atomic (requestTorn owner source target amount) :=
  atomic_requestWith Transfer.atomic_executeTorn owner source target amount

/-- A request that has passed its checks is a transfer. -/
theorem request_of_validate {amount : Decimal}
    (passes : validate ⟨owner, source, target, amount⟩ world = .ok () after) :
    request owner source target (some amount) description world
      = Transfer.execute ⟨owner, source, target, amount⟩ (describe description) after.today
        after := by
  rw [request_eq, bind_of_ok passes, bind_of_ok (get_apply _)]

/-- A request is a check and a transfer of the current day. -/
theorem request_apply (amount : Decimal) (world : World) :
    request owner source target (some amount) description world
      = (validate ⟨owner, source, target, amount⟩ >>= fun _ =>
        Transfer.execute ⟨owner, source, target, amount⟩ (describe description) world.today)
          world := by
  cases check : validate ⟨owner, source, target, amount⟩ world with
  | ok _ after =>
      rw [request_of_validate check, bind_of_ok check, ((reads_validate _).of_ok check).today]
  | error failure after =>
      rw [request_eq, bind_of_error check, bind_of_error check]

/-- A request that succeeds had an amount and passed its checks. -/
theorem request_eq_ok {amount : Option Decimal}
    (run : request owner source target amount description world = .ok id after) :
    ∃ given middle, amount = some given
      ∧ validate ⟨owner, source, target, given⟩ world = .ok () middle
      ∧ Transfer.execute ⟨owner, source, target, given⟩ (describe description) middle.today middle
        = .ok id after := by
  cases amount with
  | none => cases run
  | some given =>
      rw [request_eq] at run
      rcases bind_eq_ok_iff.mp run with ⟨_, middle, check, rest⟩
      rw [bind_of_ok (get_apply _)] at rest
      exact ⟨given, middle, rfl, check, rest⟩

/-- A request with a torn description is never done. -/
theorem requestTorn_ne_ok {amount : Option Decimal} (raceless : world.IsRaceless) :
    requestTorn owner source target amount world ≠ .ok id after := by
  intro run
  cases amount with
  | none => cases run
  | some given =>
      rw [requestTorn_eq] at run
      rcases bind_eq_ok_iff.mp run with ⟨_, middle, check, rest⟩
      exact Transfer.executeTorn_ne_ok
        (((reads_validate _).of_ok check).isRaceless raceless) rest

/-- An amount that passes the check is greater than zero and has whole cents. -/
theorem checkAmount_eq_ok {amount : Decimal} (run : checkAmount amount world = .ok () after) :
    after = world ∧ amount.isNotPositive = .ok false ∧ isWholeCents amount = true := by
  rcases bind_eq_ok_iff.mp run with ⟨refuses, middle, compared, rest⟩
  rcases ofArithmetic_eq_ok_iff.mp compared with ⟨positive, rfl⟩
  cases refuses with
  | true => cases rest
  | false =>
      cases whole : isWholeCents amount with
      | true =>
          simp only [whole] at rest
          cases rest
          exact ⟨rfl, positive, rfl⟩
      | false =>
          simp only [whole] at rest
          cases rest

/-- What is known once the accounts of a movement have passed their check. -/
structure IsAdmitted (movement : Movement) (ledger : Ledger) : Prop where
  apart : movement.source ≠ movement.target
  source_word : Integer.isWord movement.source = true
  target_word : Integer.isWord movement.target = true
  both : (ledger.accounts.filter fun account =>
    [movement.source, movement.target].contains account.id
      ∧ account.owner = movement.owner).length = 2
  shown : ∃ account order, ledger.account? movement.owner movement.source = some account
    ∧ account.balance.toDecimal.compareValues movement.amount = .ok order ∧ order ≠ .lt

/-- Among the accounts with one of two numbers, the source is the one that its number finds. -/
theorem find?_filter_eq_account? (movement : Movement) (ledger : Ledger) :
    ((ledger.accounts.filter fun account =>
        [movement.source, movement.target].contains account.id
          ∧ account.owner = movement.owner).find? fun account => account.id = movement.source)
      = ledger.account? movement.owner movement.source := by
  rw [List.find?_filter, Ledger.account?]
  congr 1
  funext account
  by_cases here : account.id = movement.source <;> simp [here]

theorem checkAccounts_eq_ok {movement : Movement}
    (run : movement.checkAccounts world = .ok () after) :
    after = world ∧ movement.IsAdmitted world.ledger := by
  by_cases same : movement.source = movement.target
  · rw [checkAccounts, if_pos same] at run
    cases run
  · rw [checkAccounts, if_neg same] at run
    rcases bind_eq_ok_iff.mp run with ⟨accounts, middle, look, rest⟩
    rcases Account.among_eq_ok_iff.mp look with ⟨words, rfl, accounts_eq⟩
    by_cases missing : accounts.length ≠ 2
    · rw [if_pos missing] at rest
      cases rest
    · rw [if_neg missing] at rest
      rw [accounts_eq, find?_filter_eq_account?] at rest
      cases found : middle.ledger.account? movement.owner movement.source with
      | none =>
          simp only [found] at rest
          cases rest
      | some account =>
          simp only [found] at rest
          rcases bind_eq_ok_iff.mp rest with ⟨order, checked, compared, last⟩
          rcases ofArithmetic_eq_ok_iff.mp compared with ⟨order_eq, rfl⟩
          by_cases short : order = .lt
          · rw [if_pos short] at last
            cases last
          · rw [if_neg short] at last
            cases last
            refine ⟨rfl, same, words _ (by simp), words _ (by simp), ?_, account, order, found,
              order_eq, short⟩
            rw [← accounts_eq]
            exact not_not.mp missing

/-- What has passed the checks has changed nothing. -/
theorem validate_eq_ok {movement : Movement} (run : movement.validate world = .ok () after) :
    after = world ∧ movement.amount.isNotPositive = .ok false
      ∧ isWholeCents movement.amount = true ∧ movement.IsAdmitted world.ledger := by
  rcases bind_eq_ok_iff.mp run with ⟨_, middle, amount, accounts⟩
  rcases checkAmount_eq_ok amount with ⟨rfl, positive, whole⟩
  rcases checkAccounts_eq_ok accounts with ⟨rfl, admitted⟩
  exact ⟨rfl, positive, whole, admitted⟩

end Movement

/-! ## Drafts -/

namespace EntryDraft

theorem reads_check (draft : EntryDraft) : Reads draft.check :=
  (reads_ofArithmetic _).bind fun _ => .ite (respects_throw _) <|
    .ite (respects_throw _) (.ite (respects_throw _) (respects_pure _))

theorem reads_accountFor (draft : EntryDraft) (context : OwnerContext) :
    Reads (draft.accountFor context) := by
  unfold accountFor
  split
  · refine (Account.reads_find _ _).bind fun account => ?_
    cases account with
    | none => exact respects_throw _
    | some account => exact respects_pure _
  · exact respects_pure _
  · split
    · exact respects_pure _
    · exact respects_throw _

theorem reads_checkCard (draft : EntryDraft) (owner : String) : Reads (draft.checkCard owner) := by
  unfold checkCard
  split
  · exact (Card.reads_find _ _).bind fun _ => .ite (respects_throw _) (respects_pure _)
  · exact respects_pure _

theorem reads_nameGroup : Reads nameGroup :=
  fun _ => ⟨⟨rfl, rfl, fun fault armed => ⟨fault, armed, rfl, rfl⟩, Nat.le_succ _⟩, rfl⟩

theorem reads_rows (draft : EntryDraft) (owner : String) (account : Option Int) :
    Reads (draft.rows owner account) := by
  have scheduled : ∀ group, Reads (do
      let world ← get
      ofCalendar (draft.schedule owner account group world.today)) :=
    fun group => respects_get.bind fun _ => reads_ofCalendar _
  exact .ite ((reads_nameGroup.map _).bind scheduled) ((respects_pure none).bind scheduled)

/-- A series fails as a whole. -/
theorem atomic_recordSeries (owner : String) (rows : List NewEntry) :
    Atomic (recordSeries Entry.record owner rows) := by
  refine ((Entry.atomic_record rows).map _).tryCatch fun failure => ?_
  split
  · exact respects_throw _
  · exact respects_throw _

theorem atomic_post (draft : EntryDraft) (context : OwnerContext) :
    Atomic (draft.post context) := by
  refine (reads_check draft).bind_atomic fun _ => (reads_accountFor _ _).bind_atomic fun account =>
    (reads_checkCard _ _).bind_atomic fun _ => (reads_rows _ _ _).bind_atomic fun rows => ?_
  split_ifs
  · exact (atomic_recordSeries _ _).bind_pure _
  · exact ((Entry.atomic_record _).map _).bind_pure _

/-- A draft with a torn description changes nothing. -/
theorem reads_postTorn (draft : EntryDraft) (context : OwnerContext) :
    Reads (draft.postTorn context) := by
  have written : ∀ rows, Reads (discard (Entry.recordTorn rows)) :=
    fun rows => (Entry.reads_recordTorn rows).map _
  have series : ∀ rows, Reads (recordSeries Entry.recordTorn context.owner rows) := by
    refine fun rows => (written rows).tryCatch fun failure => ?_
    split
    · exact respects_throw _
    · exact respects_throw _
  exact (reads_check draft).bind fun _ => (reads_accountFor _ _).bind fun account =>
    (reads_checkCard _ _).bind fun _ => (reads_rows _ _ _).bind fun rows =>
      .ite ((series rows).bind fun _ => respects_pure _)
        ((written rows).bind fun _ => respects_pure _)

/-- A draft with a torn description is never posted. -/
theorem postTorn_ne_ok {draft : EntryDraft} {context : OwnerContext} {text : String} :
    draft.postTorn context world ≠ .ok text after := by
  have unwritten : ∀ {rows begun ended}, (discard (Entry.recordTorn rows) : Call Unit) begun
      ≠ .ok () ended := by
    intro rows begun ended run
    rcases map_eq_ok_iff.mp run with ⟨ids, done, -⟩
    exact Entry.recordTorn_ne_ok done
  intro run
  rcases bind_eq_ok_iff.mp run with ⟨_, _, -, accounts⟩
  rcases bind_eq_ok_iff.mp accounts with ⟨account, _, -, cards⟩
  rcases bind_eq_ok_iff.mp cards with ⟨_, _, -, listing⟩
  rcases bind_eq_ok_iff.mp listing with ⟨rows, begun, -, writing⟩
  split_ifs at writing
  · rcases bind_eq_ok_iff.mp writing with ⟨_, _, series, -⟩
    rw [recordSeries, tryCatch_apply] at series
    split at series
    next done =>
      cases series
      exact unwritten done
    next => split at series <;> cases series
  · rcases bind_eq_ok_iff.mp writing with ⟨_, _, single, -⟩
    exact unwritten single

end EntryDraft

/-- Once a transfer is written, its accounts are found, so the confirmation cannot fail. -/
theorem TransferDraft.atomic_post (draft : TransferDraft) (context : OwnerContext) :
    Atomic (draft.post context) := by
  have proceeds : Proceeds (draft.post context) :=
    (Movement.atomic_request _ _ _ _ _).proceeds.bind fun _ =>
      (Account.reads_among _ _).proceeds.bind fun _ => respects_pure _
  refine ⟨proceeds, ?_⟩
  intro world failure after raceless run
  rcases bind_eq_error_iff.mp run with refused | ⟨id, middle, done, rest⟩
  · exact (Movement.atomic_request _ _ _ _ _).ledger_of_error raceless refused
  · exfalso
    rcases Movement.request_eq_ok done with ⟨given, checked, given_eq, valid, -⟩
    rcases Movement.validate_eq_ok valid with ⟨-, -, -, admitted⟩
    rw [bind_of_ok (Account.among_of_words admitted.source_word admitted.target_word ..)] at rest
    cases rest

theorem Draft.atomic_post (draft : Draft) (context : OwnerContext) :
    Atomic (draft.post context) := by
  cases draft with
  | entry draft => exact draft.atomic_post context
  | transfer draft => exact draft.atomic_post context

end Cashbook
