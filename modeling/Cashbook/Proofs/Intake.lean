import Cashbook.Proofs.Chat.Confirmation
import Cashbook.Proofs.Ledger.Changes
import Cashbook.Proofs.Money.Reading
import Cashbook.Proofs.Operations

/-!
# Money that comes in

Money comes in with the balance of a new account, the limit of a new card, an expense told in a
chat, an entry or a transfer added at the command line, and a transfer that is asked for.  Where an
amount is reported as written, each column that it went to has been rounded once, so whether it is
read as it was written depends on the amount alone.  Entries and transfers are of whole cents, and
those are read as they were written as long as they are below `2 ^ 46`; balances and limits may be
of less than a cent.
-/

namespace Cashbook

open Call Money

/-! ## Accepted amounts -/

theorem Money.isFinite_of_isWholeCents {amount : Decimal} (whole : isWholeCents amount = true) :
    amount.isFinite = true := by
  rcases exists_isCents_of_isWholeCents whole with ⟨cents, counted, -⟩
  exact counted.1

theorem Money.isFinite_of_readAmount {text : List Char} {amount : Decimal}
    (read : readAmount text = .ok amount) : amount.isFinite = true := by
  unfold readAmount at read
  split_ifs at read with blank
  dsimp only at read
  split at read
  next number numeral =>
    split_ifs at read with finite
    obtain rfl := Except.ok.inj read
    exact finite
  next => cases read

theorem eq_ok_of_toOption {Error Value : Type} {result : Except Error Value} {value : Value}
    (some_value : result.toOption = some value) : result = .ok value := by
  cases result with
  | error error => cases some_value
  | ok same => exact congrArg Except.ok (Option.some.inj some_value)

/-! ## New amounts -/

namespace Ledger

variable {before after : Ledger} {amount : Decimal}

/-- The amounts in the rows that a ledger has beyond those of an earlier one. -/
def newAmounts (before after : Ledger) : List Stored :=
  (after.accounts.drop before.accounts.length).flatMap
      (fun account => [account.balance, account.opening])
    ++ (after.cards.drop before.cards.length).map Card.limit
    ++ (after.entries.drop before.entries.length).map Entry.amount
    ++ (after.transfers.drop before.transfers.length).map Transfer.amount

/-- Is there an amount in new rows and no other, and is it of whole cents if that is checked? -/
structure TakesIn (checked : Prop) (amount : Decimal) (before after : Ledger) : Prop where
  finite : amount.isFinite = true
  some_new : before.newAmounts after ≠ []
  stored : ∀ column ∈ before.newAmounts after, Stored.ofDecimal? amount = some column
  whole : checked → isWholeCents amount = true

/-- Entries and transfers add their amounts, whatever becomes of balances. -/
theorem newAmounts_of_emptied {rows : List Entry} {moved : List Transfer}
    (kept : after.emptied = before.emptied) (cards : after.cards = before.cards)
    (entries : after.entries = before.entries ++ rows)
    (transfers : after.transfers = before.transfers ++ moved) :
    before.newAmounts after = rows.map Entry.amount ++ moved.map Transfer.amount := by
  have same_length : after.accounts.length = before.accounts.length := by
    simpa [emptied] using congrArg List.length kept
  simp [newAmounts, same_length, cards, entries, transfers, List.drop_of_length_le]

theorem takesIn_recorded {entries : List NewEntry} {ids : List Int}
    (written : Entry.Recorded entries ids before after) (some_entry : entries ≠ [])
    (same : ∀ entry ∈ entries, entry.amount = amount) (whole : isWholeCents amount = true) :
    before.TakesIn True amount after := by
  rcases written.rows with ⟨rows, of_entries, -, entries_eq⟩
  have amounts := newAmounts_of_emptied written.kept (by rw [written.frame]) entries_eq
    (by rw [written.frame, List.append_nil])
  rw [List.map_nil, List.append_nil] at amounts
  refine ⟨isFinite_of_isWholeCents whole, ?_, ?_, fun _ => whole⟩
  · rw [amounts]
    intro none
    rw [List.map_eq_nil_iff] at none
    subst none
    cases of_entries
    exact some_entry rfl
  · rw [amounts, List.forall_mem_map]
    refine Entry.forall_mem_rows of_entries fun entry member row of_entry => ?_
    rcases of_entry with ⟨id, stored, stored_eq, rfl⟩
    rwa [same entry member] at stored_eq

theorem takesIn_moved {movement : Movement} {description : String} {date : Date} {id : Int}
    (effect : Transfer.Effect movement description date before id after)
    (whole : isWholeCents movement.amount = true) :
    before.TakesIn True movement.amount after := by
  cases effect with
  | @intro source target amount left gained source_found stored covered debited target_found
      credited =>
    have kept : (Transfer.withRows movement amount description date
        ((before.setBalance movement.owner movement.source left).setBalance movement.owner
          movement.target gained)).emptied = before.emptied :=
      (emptied_setBalance ..).trans (emptied_setBalance ..)
    have amounts := @newAmounts_of_emptied before _ [_, _] [_] kept rfl rfl rfl
    refine ⟨isFinite_of_isWholeCents whole, ?_, ?_, fun _ => whole⟩
    · simp [amounts]
    · simpa [amounts, Transfer.side] using stored

end Ledger

/-! ## Reports -/

namespace Call

variable {Answer Next : Type} {reports : Answer → Prop} {done : Ledger → Ledger → Prop}
  {call : Call Answer} {next : Next → Call Answer}

/-- A call that has done something to the ledger whenever its answer reports so, where no other
transfer slips in. -/
def Reports (reports : Answer → Prop) (done : Ledger → Ledger → Prop) (call : Call Answer) : Prop :=
  ∀ world answer after, world.IsRaceless → call world = .ok answer after → reports answer →
    done world.ledger after.ledger

theorem reports_pure {answer : Answer} (silent : ¬reports answer) :
    Reports reports done (pure answer) := by
  rintro world _ _ - ⟨⟩ reported
  exact absurd reported silent

theorem reports_throw (failure : Failure) : Reports reports done (throw failure : Call Answer) := by
  rintro world _ _ - ⟨⟩

theorem Reports.ite {condition : Prop} [Decidable condition] {other : Call Answer}
    (first : Reports reports done call) (second : Reports reports done other) :
    Reports reports done (if condition then call else other) := by
  split_ifs
  · exact first
  · exact second

theorem Reads.bind_reports {first : Call Next} (reads : Reads first)
    (rest : ∀ answer, Reports reports done (next answer)) :
    Reports reports done (first >>= next) := by
  intro world answer after raceless run reported
  rcases bind_eq_ok_iff.mp run with ⟨value, middle, step, last⟩
  have rests := reads.of_ok step
  rw [← rests.ledger]
  exact rest value _ _ _ (rests.toFollows.isRaceless raceless) last reported

/-- What a call has done is done as well where its answer is only read further. -/
theorem Reports.bind_reads {first : Call Next} (has_done : Reports (fun _ => True) done first)
    (reads : ∀ answer, Reads (next answer)) : Reports reports done (first >>= next) := by
  intro world answer after raceless run _
  rcases bind_eq_ok_iff.mp run with ⟨value, middle, step, last⟩
  rw [((reads value).of_ok last).ledger]
  exact has_done _ _ _ raceless step trivial

theorem Reports.map {first : Call Next} {answered : Next → Prop}
    (has_done : Reports answered done first) (change : Next → Answer)
    (implies : ∀ answer, reports (change answer) → answered answer) :
    Reports reports done (change <$> first) := by
  intro world answer after raceless run reported
  rcases map_eq_ok_iff.mp run with ⟨value, step, rfl⟩
  exact has_done _ _ _ raceless step (implies value reported)

/-- What goes wrong is answered without a report, or not at all. -/
theorem Reports.orAnswered {refuse : Failure → Answer} (has_done : Reports reports done call)
    (silent : ∀ failure, ¬reports (refuse failure)) :
    Reports reports done (tryCatch call fun failure =>
      match failure.family with
      | .internal => throw failure
      | _ => return refuse failure) := by
  intro world answer after raceless run reported
  rw [tryCatch_apply] at run
  cases step : call world with
  | ok value ended =>
      rw [step] at run
      cases run
      exact has_done _ _ _ raceless step reported
  | error failure ended =>
      rw [step] at run
      cases family : failure.family with
      | internal =>
          simp only [family] at run
          cases run
      | refusal | storage | installments =>
          simp only [family] at run
          cases run
          exact absurd reported (silent failure)

end Call

/-! ## Writes -/

theorem Account.reports_create {opening : Decimal} (finite : opening.isFinite = true)
    (owner name : String) (kind : AccountKind) :
    Reports (fun _ => True) (Ledger.TakesIn False opening)
      (Account.create owner name kind opening) := by
  intro world id after _ run _
  rcases create_eq_ok run with ⟨-, amount, stored, ledger_eq⟩
  rw [ledger_eq]
  exact ⟨finite, by simp [Ledger.newAmounts], by simpa [Ledger.newAmounts] using stored,
    False.elim⟩

theorem Card.reports_create {limit : Decimal} (finite : limit.isFinite = true)
    (owner name brand : String) (closingDay dueDay : Int) :
    Reports (fun _ => True) (Ledger.TakesIn False limit)
      (Card.create owner name brand limit closingDay dueDay) := by
  intro world id after _ run _
  rcases create_eq_ok run with ⟨-, amount, stored, ledger_eq⟩
  rw [ledger_eq]
  exact ⟨finite, by simp [Ledger.newAmounts], by simpa [Ledger.newAmounts] using stored,
    False.elim⟩

theorem EntryDraft.reports_post (draft : EntryDraft) (context : OwnerContext) :
    Reports (fun _ => True) (Ledger.TakesIn True draft.amount) (draft.post context) := by
  intro world text after _ run _
  obtain ⟨account, entries, ids, passes, scheduled, record, -⟩ := post_eq_ok run
  have written := Entry.recorded_of_record_eq_ok record
  rw [ledger_named] at written
  have some_entry : entries ≠ [] := by
    have length := length_of_schedule scheduled
    have positive := passes.some_entry
    rintro rfl
    rw [List.length_nil] at length
    omega
  exact Ledger.takesIn_recorded written some_entry
    (forall_mem_schedule scheduled fun _ _ _ _ => rfl) passes.whole

theorem Movement.reports_request (owner : String) (source target : Int) (amount : Decimal)
    (description : Option String) :
    Reports (fun _ => True) (Ledger.TakesIn True amount)
      (Movement.request owner source target (some amount) description) := by
  intro world id after raceless run _
  rcases request_eq_ok run with ⟨given, middle, given_eq, valid, execute⟩
  cases given_eq
  rcases validate_eq_ok valid with ⟨rfl, -, whole, -⟩
  exact Ledger.takesIn_moved (Transfer.effect_of_execute_eq_ok raceless execute) whole

theorem TransferDraft.reports_post (draft : TransferDraft) (context : OwnerContext) :
    Reports (fun _ => True) (Ledger.TakesIn True draft.amount) (draft.post context) :=
  (Movement.reports_request _ _ _ _ _).bind_reads fun _ =>
    (Account.reads_among _ _).bind fun _ => respects_pure _

/-! ## The command line -/

namespace CommandLine

variable {done : Ledger → Ledger → Prop} {Answer : Type} {amount : Decimal}

/-- Has a command done what it was asked for? -/
def Ending.IsDone (ending : Ending) : Prop :=
  ending.exitCode = 0

theorem not_isDone_refused (complaint : String) : ¬(Ending.refused complaint).IsDone :=
  Nat.one_ne_zero

theorem isLenient_reports : IsLenient (Reports Ending.IsDone done) :=
  ⟨Reads.bind_reports, fun complaint => reports_pure (not_isDone_refused complaint),
    reports_throw⟩

theorem reports_said {work : Call Answer} (has_done : Reports (fun _ => True) done work)
    (line : Answer → Ending) :
    Reports Ending.IsDone done (orRefused (work >>= fun answer => pure (line answer))) :=
  (has_done.bind_reads fun _ => respects_pure _).orAnswered fun _ => not_isDone_refused _

/-- The amount that a command asks to be written. -/
def Command.amount? : Command → Option Decimal
  | createAccount _ _ balance => (readAmount balance.toList).toOption
  | createCard _ _ limit _ _ => (readAmount limit.toList).toOption
  | addEntry words => (readAmount words.amount.toList).toOption
  | _ => none

/-- Does a command post to accounts or cards? -/
def Command.IsPosting : Command → Prop
  | addEntry _ => True
  | _ => False

theorem reports_addEntry (owner : String) {words : EntryWords}
    (read : readAmount words.amount.toList = .ok amount) :
    Reports Ending.IsDone (Ledger.TakesIn True amount) (addEntry owner words) := by
  unfold addEntry
  simp only [read]
  refine isLenient_reports.withDate fun date => (Account.reads_list _ _).bind_reports fun _ =>
    (Category.reads_list _).bind_reports fun _ => .ite ?_ ?_
  · refine isLenient_reports.addTransfer fun draft same => ?_
    rw [← same]
    exact reports_said (draft.reports_post _) _
  · refine isLenient_reports.addSingle fun draft same _ => ?_
    rw [← same]
    exact reports_said (draft.reports_post _) _

theorem reports_runInvocation {invocation : Invocation} (environment : Environment) (site : Site)
    (asks : invocation.command.amount? = some amount) :
    Reports Ending.IsDone (Ledger.TakesIn invocation.command.IsPosting amount)
      (invocation.run environment site) := by
  rcases invocation with ⟨owner, databaseUrl, command⟩
  cases command with
  | createAccount name kind balance =>
      have read := eq_ok_of_toOption asks
      refine isLenient_reports.withOwner fun owner => ?_
      unfold createAccount
      simp only [read]
      exact reports_said (Account.reports_create (isFinite_of_readAmount read) _ _ _) _
  | createCard name brand limit closingDay dueDay =>
      have read := eq_ok_of_toOption asks
      refine isLenient_reports.withOwner fun owner => ?_
      unfold createCard
      simp only [read]
      exact reports_said (Card.reports_create (isFinite_of_readAmount read) _ _ _ _ _) _
  | addEntry words =>
      exact isLenient_reports.withOwner fun owner =>
        reports_addEntry owner (eq_ok_of_toOption asks)
  | _ => cases asks

end CommandLine

/-! ## Chats -/

namespace Chat

variable {amount : Decimal}

/-- The amount of the expense that a message asks for. -/
def Intent.amount? : Intent → Option Decimal
  | addExpense amount _ _ => some amount
  | freeText text => (MoneyExpression.find? text).bind fun money => (amountOf money).toOption
  | _ => none

/-- Is an expense confirmed? -/
def Reply.IsConfirmed (reply : Reply) : Prop :=
  Wording.IsMarked reply.text

theorem reports_postDraft (context : OwnerContext) (draft : EntryDraft) :
    Reports Reply.IsConfirmed (Ledger.TakesIn True draft.amount) (postDraft context draft) :=
  ((draft.reports_post context).bind_reads fun _ => respects_pure _).orAnswered
    fun failure => Wording.not_isMarked_failure failure

theorem reports_answer {intent : Intent} (context : OwnerContext) (rules : List KeywordRule)
    (asks : intent.amount? = some amount) :
    Reports Reply.IsConfirmed (Ledger.TakesIn True amount) (answer context rules intent) := by
  cases intent with
  | addExpense given description hint =>
      cases asks
      exact reports_postDraft _ _
  | freeText text =>
      rcases Option.bind_eq_some_iff.mp asks with ⟨money, found, read⟩
      have same := eq_ok_of_toOption read
      simp only [answer, interpret, found, same, bind, Except.bind, pure, Except.pure]
      exact reports_postDraft _ _
  | _ => cases asks

theorem reports_handle {message : Message} (rules : List KeywordRule)
    (asks : (Intent.ofText message.trimmed).amount? = some amount) :
    Reports Reply.IsConfirmed (Ledger.TakesIn True amount) (handle message rules) := by
  have responds : Reports Reply.IsConfirmed (Ledger.TakesIn True amount)
      (respond message rules) := by
    refine .ite (reports_pure (Wording.not_isMarked_ofList_cons (by decide)))
      ((reads_bindingOf message).bind_reports fun binding => ?_)
    cases binding with
    | none => exact reports_pure (Wording.not_isMarked_ofList_cons (by decide))
    | some binding =>
        exact (OwnerContext.reads_load _).bind_reports fun context => reports_answer _ _ asks
  intro world reply after raceless run confirmed
  unfold handle orDefect at run
  rw [tryCatch_apply] at run
  cases step : respond message rules world with
  | ok told ended =>
      rw [step] at run
      cases run
      exact responds _ _ _ raceless step confirmed
  | error failure ended =>
      rw [step] at run
      cases run
      exact absurd confirmed (Wording.not_isMarked_ofList_cons (by decide))

end Chat

/-! ## Operations -/

/-- The amount that an operation asks to be written. -/
def Operation.amount? : Operation → Option Decimal
  | requestTransfer _ _ _ amount _ => amount
  | sendMessage message _ => (Chat.Intent.ofText message.trimmed).amount?
  | command environment _ words =>
      match CommandLine.Invocation.ofWords environment words with
      | .ok invocation => invocation.command.amount?
      | .error _ => none
  | _ => none

/-- Does an operation post to accounts or cards, rather than set them up? -/
def Operation.IsPosting : Operation → Prop
  | requestTransfer .. | sendMessage .. => True
  | command environment _ words =>
      match CommandLine.Invocation.ofWords environment words with
      | .ok invocation => invocation.command.IsPosting
      | .error _ => False
  | _ => False

/-- Does a reply report that what was asked for is written? -/
def Reply.IsReport : Reply → Prop
  | number _ => True
  | chat told => told.IsConfirmed
  | ending shown => shown.IsDone
  | _ => False

/-- Whatever is reported as written is in new rows. -/
theorem Operation.reports_call {operation : Operation} {amount : Decimal}
    (asks : operation.amount? = some amount) :
    Reports Reply.IsReport (Ledger.TakesIn operation.IsPosting amount) operation.call := by
  cases operation with
  | requestTransfer owner source target given description =>
      cases asks
      exact (Movement.reports_request _ _ _ _ _).map _ fun _ _ => trivial
  | sendMessage message rules =>
      exact (Chat.reports_handle rules asks).map _ fun _ confirmed => confirmed
  | command environment site words =>
      simp only [amount?, IsPosting] at asks ⊢
      cases understood : CommandLine.Invocation.ofWords environment words with
      | error interruption =>
          simp only [understood] at asks
          cases asks
      | ok invocation =>
          simp only [understood] at asks ⊢
          have runs := CommandLine.reports_runInvocation environment site asks
          refine Reports.map ?_ _ fun _ ended => ended
          unfold CommandLine.run
          simp only [understood]
          exact runs.map _ fun _ ended => ended
  | _ => cases asks

/-- Does an operation report in a world that what it asks for is written? -/
def Operation.IsReported (operation : Operation) (world : World) : Prop :=
  match operation.call.answer world with
  | .ok reply => reply.IsReport
  | .error _ => False

instance (reply : Reply) : Decidable reply.IsReport :=
  match reply with
  | .number _ => .isTrue trivial
  | .chat told => inferInstanceAs (Decidable (Wording.IsMarked told.text))
  | .ending shown => inferInstanceAs (Decidable (shown.exitCode = 0))
  | .done | .numbers _ | .binding _ | .account _ | .accounts _ | .card _ | .categories _
  | .entry _ | .entries _ | .transfer _ | .context _ | .report _ | .text _ | .response _ =>
      .isFalse id

instance (operation : Operation) (world : World) : Decidable (operation.IsReported world) :=
  match answered : operation.call.answer world with
  | .ok reply => decidable_of_iff reply.IsReport (by simp [Operation.IsReported, answered])
  | .error _ => .isFalse (by simp [Operation.IsReported, answered])

/-- An amount that is reported as written is in new rows, and it is read from all of them as it was
written exactly when it is a number of cents that its nearest binary number is rounded to.  Below
`2 ^ 46` this means that it is of whole cents, and what is posted always is. -/
theorem Operation.read_as_written_iff {operation : Operation} {amount : Decimal} {world : World}
    (raceless : world.IsRaceless) (asks : operation.amount? = some amount)
    (reported : operation.IsReported world) :
    let columns := world.ledger.newAmounts (operation.call.worldAfter world).ledger
    columns ≠ []
      ∧ (∀ column ∈ columns, amount.order? column.toDecimal = some .eq ↔ IsReadBack amount)
      ∧ (|amount.value| < 2 ^ 46 → ∀ column ∈ columns,
          amount.order? column.toDecimal = some .eq ↔ isWholeCents amount = true)
      ∧ (operation.IsPosting → isWholeCents amount = true) := by
  intro columns
  have taken : world.ledger.TakesIn operation.IsPosting amount
      (operation.call.worldAfter world).ledger := by
    unfold IsReported Call.answer at reported
    cases run : operation.call world with
    | ok reply after =>
        rw [run] at reported
        rw [worldAfter_of_ok run]
        exact reports_call asks world reply after raceless run reported
    | error failure after =>
        rw [run] at reported
        exact reported.elim
  have each : ∀ column ∈ columns,
      amount.order? column.toDecimal = some .eq ↔ IsReadBack amount :=
    fun column member => Stored.order?_toDecimal_eq_iff taken.finite (taken.stored column member)
  refine ⟨taken.some_new, each, fun small column member => ?_, taken.whole⟩
  rw [each column member, isReadBack_iff_of_small small]

/-- An account that is opened at the command line. -/
def Operation.opening (balance : String) : Operation :=
  .command [] ⟨none, "/home/ana"⟩
    ["--owner", "ana", "account", "create", "Carteira", "--balance", balance]

/-- Income that is added at the command line. -/
def Operation.sale (amount : String) : Operation :=
  .command [] ⟨none, "/home/ana"⟩
    ["--owner", "ana", "add", "--amount", amount, "--description", "Venda", "--type", "income"]

/-- A ledger with one account. -/
def World.opened : World :=
  (Operation.opening "0").call.worldAfter World.newYear

/-- The largest sale below `2 ^ 46` is read as it was written. -/
theorem Operation.read_as_written_iff_sale :
    let columns := World.opened.ledger.newAmounts
      ((sale "70368744177663.99").call.worldAfter World.opened).ledger
    columns ≠ [] ∧ ∀ column ∈ columns,
      (Decimal.ofCents false 7036874417766399).order? column.toDecimal = some .eq := by
  have faultless : World.opened.fault = none := by decide +kernel
  have raceless : World.opened.IsRaceless := by simp [World.IsRaceless, faultless]
  have small : |(Decimal.ofCents false 7036874417766399).value| < 2 ^ 46 := by
    rw [Decimal.abs_value_ofCents]
    norm_num
  have outcome := @read_as_written_iff (sale "70368744177663.99")
    (.ofCents false 7036874417766399) World.opened raceless (by decide +kernel)
    (by decide +kernel)
  exact ⟨outcome.1, fun column member =>
    (outcome.2.2.1 small column member).mpr (by decide +kernel)⟩

/-- Half a cent of a balance is rounded to a cent, and a cent of the smallest sale above `2 ^ 46` to
two, though both are reported as written. -/
theorem Operation.not_read_as_written :
    let balance := Decimal.finite false 10005 (-3)
    let opened := (opening "10.005").call.worldAfter World.newYear
    let amount := Decimal.ofCents false 7036874417766401
    let sold := (sale "70368744177664.01").call.worldAfter World.opened
    ((opening "10.005").amount? = some balance
      ∧ (opening "10.005").IsReported World.newYear
      ∧ (World.newYear.ledger.newAmounts opened.ledger).map Stored.toDecimal
        = [.ofCents false 1001, .ofCents false 1001]
      ∧ balance.order? (.ofCents false 1001) = some .lt)
    ∧ (sale "70368744177664.01").amount? = some amount
      ∧ (sale "70368744177664.01").IsReported World.opened
      ∧ (World.opened.ledger.newAmounts sold.ledger).map Stored.toDecimal
        = [.ofCents false 7036874417766402]
      ∧ amount.order? (.ofCents false 7036874417766402) = some .lt := by
  decide +kernel

end Cashbook
