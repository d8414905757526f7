import Cashbook.Ledger.Transfers
import Cashbook.Proofs.Calls.Failing
import Cashbook.Proofs.Ledger.Tables

/-!
# What a transfer does

A transfer that succeeds takes its amount from one balance, adds it to another one, and appends two
entries and one record.  It succeeds exactly when the source covers the amount and both results can
be stored, unless storage fails or another transfer slips in.
-/

namespace Cashbook.Transfer

open Call Money

variable {movement : Movement} {description : String} {date : Date} {id : Int} {ledger : Ledger}
  {world after : World}

/-! ## The two balances -/

theorem proceeds_debit (movement : Movement) : Proceeds (debit movement) := by
  refine (reads_checkWord _).proceeds.bind fun _ => respects_ledger.bind fun current => ?_
  split
  · exact respects_throw _
  · split
    · exact respects_throw _
    · exact .ite ((reads_storedResult _ _).proceeds.bind fun _ => proceeds_putLedger _)
        (respects_throw _)

theorem proceeds_credit (movement : Movement) : Proceeds (credit movement) := by
  refine (reads_checkWord _).proceeds.bind fun _ => respects_ledger.bind fun current => ?_
  split
  · exact respects_throw _
  · exact (reads_storable _ _).proceeds.bind fun _ =>
      (reads_storedResult _ _).proceeds.bind fun _ => proceeds_putLedger _

/-- The amount is taken from a source that covers it. -/
theorem debit_eq_ok_iff :
    debit movement world = .ok () after ↔
      Integer.isWord movement.source = true ∧ ∃ source amount left,
        world.ledger.account? movement.owner movement.source = some source
        ∧ Stored.ofDecimal? movement.amount = some amount
        ∧ source.balance.covers amount = true
        ∧ source.balance.sub? amount = some left
        ∧ after = { world with
            ledger := world.ledger.setBalance movement.owner movement.source left } := by
  constructor
  · intro run
    rcases bind_eq_ok_iff.mp run with ⟨_, checked, check, rest⟩
    rcases checkWord_eq_ok_iff.mp check with ⟨word, rfl⟩
    rw [bind_of_ok (ledger_apply _)] at rest
    cases found : checked.ledger.account? movement.owner movement.source with
    | none =>
        simp only [found] at rest
        cases rest
    | some source =>
        simp only [found] at rest
        cases stored : Stored.ofDecimal? movement.amount with
        | none =>
            simp only [stored] at rest
            cases rest
        | some amount =>
            simp only [stored] at rest
            by_cases covered : source.balance.covers amount = true
            · rw [if_pos covered] at rest
              rcases bind_eq_ok_iff.mp rest with ⟨left, _, subtract, write⟩
              rcases storedResult_eq_ok_iff.mp subtract with ⟨left_eq, rfl⟩
              cases write
              exact ⟨word, source, amount, left, rfl, rfl, covered, left_eq, rfl⟩
            · rw [if_neg covered] at rest
              cases rest
  · rintro ⟨word, source, amount, left, found, stored, covered, left_eq, rfl⟩
    rw [debit, bind_of_ok (checkWord_eq_ok_iff.mpr ⟨word, rfl⟩), bind_of_ok (ledger_apply _)]
    simp only [found, stored, covered, if_true]
    rw [bind_of_ok (storedResult_eq_ok_iff.mpr ⟨left_eq, rfl⟩)]
    rfl

/-- The amount is added to the target. -/
theorem credit_eq_ok_iff :
    credit movement world = .ok () after ↔
      Integer.isWord movement.target = true ∧ ∃ target amount gained,
        world.ledger.account? movement.owner movement.target = some target
        ∧ Stored.ofDecimal? movement.amount = some amount
        ∧ target.balance.add? amount = some gained
        ∧ after = { world with
            ledger := world.ledger.setBalance movement.owner movement.target gained } := by
  constructor
  · intro run
    rcases bind_eq_ok_iff.mp run with ⟨_, checked, check, rest⟩
    rcases checkWord_eq_ok_iff.mp check with ⟨word, rfl⟩
    rw [bind_of_ok (ledger_apply _)] at rest
    cases found : checked.ledger.account? movement.owner movement.target with
    | none =>
        simp only [found] at rest
        cases rest
    | some target =>
        simp only [found] at rest
        rcases bind_eq_ok_iff.mp rest with ⟨amount, _, store, sum⟩
        rcases storable_eq_ok_iff.mp store with ⟨stored, rfl⟩
        rcases bind_eq_ok_iff.mp sum with ⟨gained, _, add, write⟩
        rcases storedResult_eq_ok_iff.mp add with ⟨gained_eq, rfl⟩
        cases write
        exact ⟨word, target, amount, gained, rfl, stored, gained_eq, rfl⟩
  · rintro ⟨word, target, amount, gained, found, stored, gained_eq, rfl⟩
    rw [credit, bind_of_ok (checkWord_eq_ok_iff.mpr ⟨word, rfl⟩), bind_of_ok (ledger_apply _)]
    simp only [found]
    rw [bind_of_ok (storable_eq_ok_iff.mpr ⟨stored, rfl⟩),
      bind_of_ok (storedResult_eq_ok_iff.mpr ⟨gained_eq, rfl⟩)]
    rfl

/-! ## Rows -/

/-- A ledger with the entries and the record of a transfer. -/
def withRows (movement : Movement) (amount : Stored) (description : String) (date : Date)
    (ledger : Ledger) : Ledger :=
  let outgoing := Ledger.nextId (ledger.entries.map Entry.id)
  { ledger with
    entries := ledger.entries ++
      [side outgoing movement amount description date movement.source (some movement.target),
       side (outgoing + 1) movement amount description date movement.target none]
    transfers := ledger.transfers ++
      [⟨Ledger.nextId (ledger.transfers.map Transfer.id), movement.owner, movement.source,
        movement.target, amount, outgoing, outgoing + 1, date⟩] }

theorem proceeds_writeRows (movement : Movement) (description : String) (date : Date) :
    Proceeds (writeRows movement description date) :=
  (reads_storable _ _).proceeds.bind fun _ => respects_ledger.bind fun _ =>
    (proceeds_putLedger _).bind fun _ => (reads_failAt _ _).proceeds.bind fun _ =>
      respects_ledger.bind fun _ => (proceeds_putLedger _).bind fun _ => respects_pure _

theorem writeRows_eq_ok (run : writeRows movement description date world = .ok id after) :
    ∃ amount, Stored.ofDecimal? movement.amount = some amount
      ∧ id = Ledger.nextId (world.ledger.transfers.map Transfer.id)
      ∧ after.ledger = withRows movement amount description date world.ledger := by
  rcases bind_eq_ok_iff.mp run with ⟨amount, same, store, rest⟩
  rcases storable_eq_ok_iff.mp store with ⟨stored, rfl⟩
  rw [bind_of_ok (ledger_apply _), bind_of_ok (putLedger_apply _ _)] at rest
  rcases bind_eq_ok_iff.mp rest with ⟨_, shown, step, last⟩
  have rests := (reads_failAt _ _).of_ok step
  rw [bind_of_ok (ledger_apply _), bind_of_ok (putLedger_apply _ _)] at last
  cases last
  refine ⟨amount, stored, ?_, ?_⟩ <;> rw [rests.ledger]
  rfl

theorem writeRows_of_faultless {amount : Stored}
    (stored : Stored.ofDecimal? movement.amount = some amount) (faultless : world.fault = none) :
    writeRows movement description date world
      = .ok (Ledger.nextId (world.ledger.transfers.map Transfer.id))
          { world with ledger := withRows movement amount description date world.ledger } := by
  have unshown : ∀ written : Ledger,
      failAt .transferRecord (.writeFailed .insideUnit) { world with ledger := written }
        = .ok () { world with ledger := written } := by
    intro written
    apply failAt_of_faultless
    exact faultless
  rw [writeRows, bind_of_ok (storable_eq_ok_iff.mpr ⟨stored, rfl⟩), bind_of_ok (ledger_apply _),
    bind_of_ok (putLedger_apply _ _), bind_of_ok (unshown _)]
  rfl

/-! ## The whole transfer -/

/-- What a transfer does to a ledger: a debit, a credit, two entries and a record. -/
inductive Effect (movement : Movement) (description : String) (date : Date) (before : Ledger) :
    Int → Ledger → Prop where
  | intro {source target : Account} {amount left gained : Stored}
      (source_found : before.account? movement.owner movement.source = some source)
      (stored : Stored.ofDecimal? movement.amount = some amount)
      (covered : source.balance.covers amount = true)
      (debited : source.balance.sub? amount = some left)
      (target_found : (before.setBalance movement.owner movement.source left).account?
        movement.owner movement.target = some target)
      (credited : target.balance.add? amount = some gained) :
      Effect movement description date before
        (Ledger.nextId (before.transfers.map Transfer.id))
        (withRows movement amount description date
          ((before.setBalance movement.owner movement.source left).setBalance movement.owner
            movement.target gained))

/-- A transfer leaves the accounts as they are but for what they hold. -/
theorem Effect.emptied_eq {before after : Ledger}
    (effect : Effect movement description date before id after) :
    after.emptied = before.emptied := by
  cases effect
  exact (Ledger.emptied_setBalance ..).trans (Ledger.emptied_setBalance ..)

/-- What a transfer makes of the balance of one account. -/
inductive Leg (movement : Movement) (amount : Stored) (owner : String) (account : Int) :
    Stored → Stored → Prop where
  | aside {balance : Stored} (not_source : ¬(owner = movement.owner ∧ account = movement.source))
      (not_target : ¬(owner = movement.owner ∧ account = movement.target)) :
      Leg movement amount owner account balance balance
  | outgoing {balance left : Stored} (source : owner = movement.owner ∧ account = movement.source)
      (not_target : ¬(owner = movement.owner ∧ account = movement.target))
      (debited : balance.sub? amount = some left) : Leg movement amount owner account balance left
  | incoming {balance gained : Stored}
      (not_source : ¬(owner = movement.owner ∧ account = movement.source))
      (target : owner = movement.owner ∧ account = movement.target)
      (credited : balance.add? amount = some gained) :
      Leg movement amount owner account balance gained
  | both {balance left gained : Stored}
      (source : owner = movement.owner ∧ account = movement.source)
      (target : owner = movement.owner ∧ account = movement.target)
      (debited : balance.sub? amount = some left) (credited : left.add? amount = some gained) :
      Leg movement amount owner account balance gained

section Leg

variable {before later : Ledger} {record : Int} {owner : String} {number : Int} {account : Account}

/-- A transfer changes nothing about an account but its balance, and that by its legs. -/
theorem Effect.exists_leg (effect : Effect movement description date before record later)
    (found : before.account? owner number = some account) :
    ∃ amount balance, Stored.ofDecimal? movement.amount = some amount
      ∧ later.account? owner number = some { account with balance := balance }
      ∧ Leg movement amount owner number account.balance balance := by
  cases effect with
  | @intro source target amount left gained source_found stored covered debited target_found
      credited =>
    have later_eq : (withRows movement amount description date ((before.setBalance movement.owner
          movement.source left).setBalance movement.owner movement.target gained)).account? owner
          number
        = some { account with balance :=
            if owner = movement.owner ∧ number = movement.target then gained
            else if owner = movement.owner ∧ number = movement.source then left
            else account.balance } := by
      change ((before.setBalance movement.owner movement.source left).setBalance movement.owner
        movement.target gained).account? owner number = _
      rw [Ledger.account?_setBalance, Ledger.account?_setBalance, found]
      split_ifs <;> rfl
    refine ⟨amount, _, stored, later_eq, ?_⟩
    by_cases source_here : owner = movement.owner ∧ number = movement.source
    · have same_source : account = source := by
        rw [source_here.1, source_here.2, source_found] at found
        exact (Option.some.inj found).symm
      subst same_source
      by_cases target_here : owner = movement.owner ∧ number = movement.target
      · have one : movement.source = movement.target := source_here.2.symm.trans target_here.2
        rw [← one, Ledger.account?_setBalance_self, source_found] at target_found
        obtain rfl := Option.some.inj target_found
        rw [if_pos target_here]
        exact .both source_here target_here debited credited
      · rw [if_neg target_here, if_pos source_here]
        exact .outgoing source_here target_here debited
    · by_cases target_here : owner = movement.owner ∧ number = movement.target
      · have same_target : account = target := by
          have found_later : (before.setBalance movement.owner movement.source left).account? owner
              number = some target := by
            rw [target_here.1, target_here.2]
            exact target_found
          rw [Ledger.account?_setBalance_of_ne source_here, found] at found_later
          exact Option.some.inj found_later
        subst same_target
        rw [if_pos target_here]
        exact .incoming source_here target_here credited
      · rw [if_neg target_here, if_neg source_here]
        exact .aside source_here target_here

/-- A transfer makes no account and has none to do with that is not there. -/
theorem Effect.account?_eq_none (effect : Effect movement description date before record later)
    (missing : before.account? owner number = none) :
    later.account? owner number = none ∧ ¬(owner = movement.owner ∧ number = movement.source)
      ∧ ¬(owner = movement.owner ∧ number = movement.target) := by
  cases effect with
  | @intro source target amount left gained source_found stored covered debited target_found
      credited =>
    refine ⟨?_, ?_, ?_⟩
    · change ((before.setBalance movement.owner movement.source left).setBalance movement.owner
        movement.target gained).account? owner number = none
      rw [Ledger.account?_setBalance, Ledger.account?_setBalance, missing]
      rfl
    · rintro ⟨rfl, rfl⟩
      rw [source_found] at missing
      cases missing
    · rintro ⟨rfl, rfl⟩
      rw [Ledger.account?_setBalance, missing] at target_found
      cases target_found

end Leg

theorem proceeds_performWith {write : Call Int} (writes : Proceeds write) (movement : Movement) :
    Proceeds (performWith write movement) :=
  proceeds_atomically <| (reads_checkQuiet _).proceeds.bind fun _ =>
    (proceeds_debit _).bind fun _ => (proceeds_credit _).bind fun _ => writes

/-- A transfer whose rows cannot be written is never done. -/
theorem performWith_throw_ne_ok {failure : Failure} :
    performWith (throw failure) movement world ≠ .ok id after := by
  intro run
  rcases atomically_eq_ok run with ⟨ended, work, -⟩
  rcases bind_eq_ok_iff.mp work with ⟨_, quiet, -, debits⟩
  rcases bind_eq_ok_iff.mp debits with ⟨_, debited, -, credits⟩
  rcases bind_eq_ok_iff.mp credits with ⟨_, credited, -, last⟩
  cases last

theorem reads_performWith_throw (failure : Failure) (movement : Movement) :
    Reads (performWith (throw failure) movement) :=
  reads_atomically ((reads_checkQuiet _).proceeds.bind fun _ => (proceeds_debit _).bind fun _ =>
    (proceeds_credit _).bind fun _ => respects_throw _) fun _ _ _ => performWith_throw_ne_ok

theorem proceeds_perform (movement : Movement) (description : String) (date : Date) :
    Proceeds (perform movement description date) :=
  proceeds_performWith (proceeds_writeRows _ _ _) movement

/-- A transfer that is committed has done all of its work. -/
theorem effect_of_perform_eq_ok (run : perform movement description date world = .ok id after) :
    Effect movement description date world.ledger id after.ledger := by
  rcases atomically_eq_ok run with ⟨ended, work, committed⟩
  rw [committed.ledger]
  rcases bind_eq_ok_iff.mp work with ⟨_, quiet, check, rest⟩
  rcases checkQuiet_eq_ok_iff.mp check with ⟨-, rfl⟩
  rcases bind_eq_ok_iff.mp rest with ⟨_, debited, debit, later⟩
  obtain ⟨-, source, amount, left, found, stored, covered, left_eq, rfl⟩ :=
    debit_eq_ok_iff.mp debit
  rcases bind_eq_ok_iff.mp later with ⟨_, credited, credit, last⟩
  obtain ⟨-, target, same, gained, target_found, same_stored, gained_eq, rfl⟩ :=
    credit_eq_ok_iff.mp credit
  obtain rfl : amount = same := Option.some.inj (stored.symm.trans same_stored)
  rcases writeRows_eq_ok last with ⟨written, written_stored, rfl, ledger_eq⟩
  obtain rfl : amount = written := Option.some.inj (stored.symm.trans written_stored)
  rw [ledger_eq]
  exact .intro found stored covered left_eq target_found gained_eq

/-- An amount that can be stored refuses no operation. -/
theorem isSignaling_of_ofDecimal? {amount : Decimal} {stored : Stored}
    (stored_eq : Stored.ofDecimal? amount = some stored) : amount.isSignaling = false := by
  cases amount with
  | finite => rfl
  | infinite => rfl
  | notNumber => simp [Stored.ofDecimal?, Binary64.ofDecimal, Stored.ofBinary?] at stored_eq

/-- A transfer that can be done takes and adds its amount before its rows are written. -/
theorem Effect.exchanges (effect : Effect movement description date world.ledger id ledger)
    (source_word : Integer.isWord movement.source = true)
    (target_word : Integer.isWord movement.target = true) :
    ∃ amount moved, Stored.ofDecimal? movement.amount = some amount
      ∧ (debit movement >>= fun _ => credit movement) world
        = .ok () { world with ledger := moved }
      ∧ id = Ledger.nextId (moved.transfers.map Transfer.id)
      ∧ ledger = withRows movement amount description date moved := by
  cases effect with
  | @intro source target amount left gained source_found stored covered debited target_found
      credited =>
    have debit_run : debit movement world = .ok () { world with
        ledger := world.ledger.setBalance movement.owner movement.source left } :=
      debit_eq_ok_iff.mpr
        ⟨source_word, source, amount, left, source_found, stored, covered, debited, rfl⟩
    refine ⟨amount, (world.ledger.setBalance movement.owner movement.source left).setBalance
      movement.owner movement.target gained, stored, ?_, rfl, rfl⟩
    rw [bind_of_ok debit_run]
    exact credit_eq_ok_iff.mpr
      ⟨target_word, target, amount, gained, target_found, stored, credited, rfl⟩

/-- The work of a transfer whose debit and credit are done ends as the writing of its rows does. -/
theorem work_of_exchanged {write : Call Int} {amount : Stored} {moved : World}
    (stored : Stored.ofDecimal? movement.amount = some amount)
    (exchanged : (debit movement >>= fun _ => credit movement) world = .ok () moved) :
    (do
      checkQuiet movement.amount
      debit movement
      credit movement
      write : Call Int) world = write moved := by
  rcases bind_eq_ok_iff.mp exchanged with ⟨_, debited, debit_run, credit_run⟩
  rw [bind_of_ok (checkQuiet_eq_ok_iff.mpr ⟨isSignaling_of_ofDecimal? stored, rfl⟩),
    bind_of_ok debit_run, bind_of_ok credit_run]

theorem proceeds_performRival (rival : Option Movement) : Proceeds (performRival rival) := by
  cases rival with
  | none => exact respects_pure _
  | some movement =>
      exact respects_get.bind fun world => (proceeds_perform _ _ _).bind fun _ => respects_pure _

theorem proceeds_executeWith {write : Call Int} (writes : Proceeds write) (movement : Movement) :
    Proceeds (executeWith write movement) := by
  refine (reads_failAt _ _).proceeds.bind fun _ => (reads_failAt _ _).proceeds.bind fun _ =>
    (reads_visit _).proceeds.bind fun shown => ?_
  cases shown with
  | none => exact proceeds_performWith writes _
  | some fault => exact (proceeds_performRival _).bind fun _ => proceeds_performWith writes _

/-- A transfer that no other one slips in before. -/
theorem executeWith_of_isRaceless {write : Call Int} (raceless : world.IsRaceless) :
    executeWith write movement world = (do
      failAt .transferWriting (.writeFailed .onEntry)
      failAt .transferCrash .crash
      performWith write movement : Call Int) world := by
  unfold executeWith
  cases first : failAt .transferWriting (.writeFailed .onEntry) world with
  | error failure middle => rw [bind_of_error first, bind_of_error first]
  | ok _ middle =>
      have follows := (reads_failAt _ _).of_ok first
      rw [bind_of_ok first, bind_of_ok first]
      cases second : failAt .transferCrash .crash middle with
      | error failure last => rw [bind_of_error second, bind_of_error second]
      | ok _ last =>
          have later := ((reads_failAt _ _).of_ok second).isRaceless (follows.isRaceless raceless)
          rw [bind_of_ok second, bind_of_ok second,
            bind_of_ok (visit_race_of_isRaceless later)]

/-- A transfer is done as a whole, whatever writes its rows. -/
theorem atomic_executeWith {write : Call Int} (writes : Proceeds write) (movement : Movement) :
    Atomic (executeWith write movement) := by
  refine ⟨proceeds_executeWith writes _, ?_⟩
  intro world failure after raceless run
  rw [executeWith_of_isRaceless raceless] at run
  have atomic : Atomic (do
      failAt .transferWriting (.writeFailed .onEntry)
      failAt .transferCrash .crash
      performWith write movement : Call Int) :=
    (reads_failAt _ _).bind_atomic fun _ => (reads_failAt _ _).bind_atomic fun _ =>
      ⟨proceeds_performWith writes _, fun _ => ledger_of_atomically_error⟩
  exact atomic.ledger_of_error raceless run

theorem atomic_execute (movement : Movement) (description : String) (date : Date) :
    Atomic (execute movement description date) :=
  atomic_executeWith (proceeds_writeRows _ _ _) movement

theorem atomic_executeTorn (movement : Movement) : Atomic (executeTorn movement) :=
  atomic_executeWith (respects_throw _) movement

theorem effect_of_execute_eq_ok (raceless : world.IsRaceless)
    (run : execute movement description date world = .ok id after) :
    Effect movement description date world.ledger id after.ledger := by
  rw [execute, executeWith_of_isRaceless raceless] at run
  rcases bind_eq_ok_iff.mp run with ⟨_, middle, first, rest⟩
  rcases bind_eq_ok_iff.mp rest with ⟨_, begun, second, work⟩
  rw [← ((reads_failAt _ _).of_ok first).ledger, ← ((reads_failAt _ _).of_ok second).ledger]
  exact effect_of_perform_eq_ok work

/-- A transfer with a torn description is never done. -/
theorem executeTorn_ne_ok (raceless : world.IsRaceless) :
    executeTorn movement world ≠ .ok id after := by
  intro run
  rw [executeTorn, executeWith_of_isRaceless raceless] at run
  rcases bind_eq_ok_iff.mp run with ⟨_, middle, first, rest⟩
  rcases bind_eq_ok_iff.mp rest with ⟨_, begun, second, work⟩
  exact performWith_throw_ne_ok work

/-- Without a fault, a transfer is nothing but its unit of work. -/
theorem executeWith_eq_performWith {write : Call Int} (faultless : world.fault = none) :
    executeWith write movement world = performWith write movement world := by
  rw [executeWith_of_isRaceless (World.point_ne_of_faultless faultless _),
    bind_of_ok (failAt_of_faultless faultless _ _), bind_of_ok (failAt_of_faultless faultless _ _)]

/-- Without a fault, a transfer does its work if it can. -/
theorem execute_of_faultless (effect : Effect movement description date world.ledger id ledger)
    (faultless : world.fault = none) (source_word : Integer.isWord movement.source = true)
    (target_word : Integer.isWord movement.target = true) :
    execute movement description date world = .ok id { world with ledger := ledger } := by
  rcases effect.exchanges source_word target_word with ⟨amount, moved, stored, exchanged, rfl, rfl⟩
  rw [execute, executeWith_eq_performWith faultless]
  refine atomically_of_faultless ?_ faultless
  rw [work_of_exchanged stored exchanged]
  exact writeRows_of_faultless stored faultless

/-- Without a fault, a transfer with a torn description comes to the writing of its rows if it can,
and is undone. -/
theorem executeTorn_of_faultless (effect : Effect movement description date world.ledger id ledger)
    (faultless : world.fault = none) (source_word : Integer.isWord movement.source = true)
    (target_word : Integer.isWord movement.target = true) :
    executeTorn movement world = .error .tornText world := by
  rcases effect.exchanges source_word target_word with ⟨amount, moved, stored, exchanged, -, -⟩
  have undone :=
    atomically_of_error ((work_of_exchanged stored exchanged).trans (throw_apply .tornText _))
  rw [executeTorn, executeWith_eq_performWith faultless]
  exact undone

section Refused

variable {source : Account} {amount : Stored} {write : Call Int}

/-- Without a fault, a transfer whose debit or credit is refused changes nothing. -/
theorem executeWith_of_error {failure : Failure} (faultless : world.fault = none)
    (stored : Stored.ofDecimal? movement.amount = some amount)
    (refused : (debit movement >>= fun _ => credit movement) world = .error failure after) :
    executeWith write movement world = .error failure { after with ledger := world.ledger } := by
  have quiet : checkQuiet movement.amount world = .ok () world :=
    checkQuiet_eq_ok_iff.mpr ⟨isSignaling_of_ofDecimal? stored, rfl⟩
  rw [executeWith_eq_performWith faultless]
  apply atomically_of_error
  rw [bind_of_ok quiet]
  rcases bind_eq_error_iff.mp refused with early | ⟨_, middle, debited, late⟩
  · exact bind_of_error early
  · rw [bind_of_ok debited]
    exact bind_of_error late

/-- Without a fault, a transfer from an account that the owner does not have is refused. -/
theorem execute_of_source_missing (faultless : world.fault = none)
    (source_word : Integer.isWord movement.source = true)
    (stored : Stored.ofDecimal? movement.amount = some amount)
    (missing : world.ledger.account? movement.owner movement.source = none) :
    execute movement description date world = .error .accountsNotOwned world := by
  have refused : debit movement world = .error .accountsNotOwned world := by
    rw [debit, bind_of_ok (checkWord_eq_ok_iff.mpr ⟨source_word, rfl⟩), bind_of_ok (ledger_apply _)]
    simp only [missing]
    rfl
  exact executeWith_of_error faultless stored (bind_of_error refused)

/-- Without a fault, a transfer that the source does not cover is refused and changes nothing. -/
theorem executeWith_of_not_covers (faultless : world.fault = none)
    (source_word : Integer.isWord movement.source = true)
    (source_found : world.ledger.account? movement.owner movement.source = some source)
    (stored : Stored.ofDecimal? movement.amount = some amount)
    (short : source.balance.covers amount = false) :
    executeWith write movement world = .error (.insufficientFunds none) world := by
  have refused : debit movement world = .error (.insufficientFunds none) world := by
    rw [debit, bind_of_ok (checkWord_eq_ok_iff.mpr ⟨source_word, rfl⟩), bind_of_ok (ledger_apply _)]
    simp only [source_found, stored, short, Bool.false_eq_true, if_false]
    rfl
  exact executeWith_of_error faultless stored (bind_of_error refused)

/-- Without a fault, a transfer to an account that the owner does not have is refused after the
debit, which is undone. -/
theorem execute_of_target_missing {left : Stored} (faultless : world.fault = none)
    (source_word : Integer.isWord movement.source = true)
    (target_word : Integer.isWord movement.target = true)
    (source_found : world.ledger.account? movement.owner movement.source = some source)
    (stored : Stored.ofDecimal? movement.amount = some amount)
    (covered : source.balance.covers amount = true)
    (debited : source.balance.sub? amount = some left)
    (missing : world.ledger.account? movement.owner movement.target = none) :
    execute movement description date world = .error .accountsNotOwned world := by
  have debit_run := debit_eq_ok_iff.mpr
    ⟨source_word, source, amount, left, source_found, stored, covered, debited, rfl⟩
  have still_missing : (world.ledger.setBalance movement.owner movement.source left).account?
      movement.owner movement.target = none := by
    rw [Ledger.account?_setBalance, missing, Option.map_none]
  have refused : (debit movement >>= fun _ => credit movement) world
      = .error .accountsNotOwned { world with
        ledger := world.ledger.setBalance movement.owner movement.source left } := by
    rw [bind_of_ok debit_run, credit, bind_of_ok (checkWord_eq_ok_iff.mpr ⟨target_word, rfl⟩),
      bind_of_ok (ledger_apply _)]
    simp only [still_missing]
    rfl
  rw [execute, executeWith_of_error faultless stored refused]

end Refused

end Cashbook.Transfer
