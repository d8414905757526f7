import Cashbook.Proofs.Naming.Services
import Cashbook.Proofs.Services

/-!
# Operations that fail

Everything that can be asked for is an operation.  An operation that fails leaves no trace: the
tables are what they were, and whatever is asked for later is answered as if the operation had
never been asked for, up to the names that series are given.
-/

namespace Cashbook

open Call

/-! ## Operations and their replies -/

/-- What can be asked for. -/
inductive Operation where
  | bindChat (owner chat : String)
  | findBinding (chat : String)
  | deactivateBinding (id : Int)
  | createAccount (owner name : String) (kind : AccountKind) (opening : Decimal)
  | findAccount (owner : String) (id : Int)
  | listAccounts (owner : String) (limit : Option Int)
  | findAccounts (owner : String) (ids : List Int)
  | deactivateAccount (id : Int)
  | resolveAccount (owner text : String)
  | createCard (owner name brand : String) (limit : Decimal) (closingDay dueDay : Int)
  | findCard (owner : String) (id : Int)
  | createCategory (owner name : String) (kind : CategoryKind)
  | listCategories (owner : String)
  | record (entries : List NewEntry)
  | findEntry (id : Int)
  | listEntries (owner : String) (selection : Entry.Selection)
  | transfer (movement : Movement) (description : String) (date : Date)
  | findTransfer (id : Int)
  | requestTransfer (owner : String) (source target : Int) (amount : Option Decimal)
      (description : Option String)
  | loadContext (owner : String)
  | post (context : OwnerContext) (draft : Draft)
  | report (owner : String) (day : Date)
  | sendMessage (message : Chat.Message) (rules : List Chat.KeywordRule)
  | http (room : Nat) (tokens : ApiTokens) (request : Http.Request)
  | command (environment : Environment) (site : Site) (words : List String)

/-- What an operation answers. -/
inductive Reply where
  | done
  | number (id : Int)
  | numbers (ids : List Int)
  | binding (found : Option Binding)
  | account (found : Option Account)
  | accounts (found : List Account)
  | card (found : Option Card)
  | categories (found : List Category)
  | entry (found : Option Entry)
  | entries (found : List Entry)
  | transfer (found : Option Transfer)
  | context (found : OwnerContext)
  | report (report : MonthlyReport)
  | text (text : String)
  | chat (reply : Chat.Reply)
  | response (response : Http.Response)
  | ending (ending : CommandLine.Ending)

namespace Operation

/-- The call that an operation makes. -/
def call : Operation → Call Reply
  | bindChat owner chat => .number <$> Binding.assign owner chat
  | findBinding chat => .binding <$> Binding.find chat
  | deactivateBinding id => (fun _ => .done) <$> Binding.deactivate id
  | createAccount owner name kind opening => .number <$> Account.create owner name kind opening
  | findAccount owner id => .account <$> Account.find owner id
  | listAccounts owner limit => .accounts <$> Account.list owner limit
  | findAccounts owner ids => .accounts <$> Account.among owner ids
  | deactivateAccount id => (fun _ => .done) <$> Account.deactivate id
  | resolveAccount owner text => .number <$> Account.resolve owner text
  | createCard owner name brand limit closingDay dueDay =>
      .number <$> Card.create owner name brand limit closingDay dueDay
  | findCard owner id => .card <$> Card.find owner id
  | createCategory owner name kind => .number <$> Category.create owner name kind
  | listCategories owner => .categories <$> Category.list owner
  | record entries => .numbers <$> Entry.record entries
  | findEntry id => .entry <$> Entry.find id
  | listEntries owner selection => .entries <$> Entry.list owner selection
  | transfer movement description date => .number <$> Transfer.execute movement description date
  | findTransfer id => .transfer <$> Transfer.find id
  | requestTransfer owner source target amount description =>
      .number <$> Movement.request owner source target amount description
  | loadContext owner => .context <$> OwnerContext.load owner
  | post context draft => .text <$> draft.post context
  | report owner day => .report <$> MonthlyReport.load owner day
  | sendMessage message rules => .chat <$> Chat.handle message rules
  | http room tokens request => .response <$> Http.answer room tokens request
  | command environment site words => .ending <$> CommandLine.run environment site words

/-- Every operation is done as a whole or not at all. -/
theorem atomic_call (operation : Operation) : Atomic operation.call := by
  cases operation with
  | bindChat owner chat => exact (Binding.atomic_assign _ _).map _
  | findBinding chat => exact (Binding.reads_find _).atomic.map _
  | deactivateBinding id => exact (Binding.atomic_deactivate _).map _
  | createAccount owner name kind opening => exact (Account.atomic_create _ _ _ _).map _
  | findAccount owner id => exact (Account.reads_find _ _).atomic.map _
  | listAccounts owner limit => exact (Account.reads_list _ _).atomic.map _
  | findAccounts owner ids => exact (Account.reads_among _ _).atomic.map _
  | deactivateAccount id => exact (Account.atomic_deactivate _).map _
  | resolveAccount owner text => exact (Account.reads_resolve _ _).atomic.map _
  | createCard owner name brand limit closingDay dueDay =>
      exact (Card.atomic_create _ _ _ _ _ _).map _
  | findCard owner id => exact (Card.reads_find _ _).atomic.map _
  | createCategory owner name kind => exact (Category.atomic_create _ _ _).map _
  | listCategories owner => exact (Category.reads_list _).atomic.map _
  | record entries => exact (Entry.atomic_record _).map _
  | findEntry id => exact (Entry.reads_find _).atomic.map _
  | listEntries owner selection => exact (Entry.reads_list _ _).atomic.map _
  | transfer movement description date => exact (Transfer.atomic_execute _ _ _).map _
  | findTransfer id => exact (Transfer.reads_find _).atomic.map _
  | requestTransfer owner source target amount description =>
      exact (Movement.atomic_request _ _ _ _ _).map _
  | loadContext owner => exact (OwnerContext.reads_load _).atomic.map _
  | post context draft => exact (draft.atomic_post context).map _
  | report owner day => exact (MonthlyReport.reads_load _ _).atomic.map _
  | sendMessage message rules => exact (Chat.atomic_handle _ _).map _
  | http room tokens request => exact (Http.atomic_answer _ _ _).map _
  | command environment site words => exact (CommandLine.atomic_run _ _ _).map _

end Operation

/-- What happens to a world, one after another. -/
inductive Step where
  /-- The clock is set, and storage is about to fail somewhere or nowhere. -/
  | wait (today : Date) (now : Instant) (fault : Option Fault)
  /-- Something is asked for. -/
  | ask (operation : Operation)

/-- The call that a step makes. -/
def Step.call : Step → Call Reply
  | wait today now fault => do
      modify fun world => { world with today := today, now := now, fault := fault }
      return .done
  | ask operation => operation.call

/-- What steps answer, one after another; a step that fails does not stop the others. -/
def World.replies (world : World) : List Step → List (Except Failure Reply)
  | [] => []
  | step :: rest => step.call.answer world :: (step.call.worldAfter world).replies rest

/-! ## Names in operations -/

namespace Renaming

variable {first shift : Nat} (exchange : Renaming first shift)

/-- The operation with the new names. -/
def operation : Operation → Operation
  | .record entries => .record (entries.map exchange.newEntry)
  | .listEntries owner selection => .listEntries owner (exchange.selection selection)
  | operation => operation

/-- The step with the new names. -/
def step : Step → Step
  | .wait today now fault => .wait today now fault
  | .ask operation => .ask (exchange.operation operation)

/-- The reply with the new names. -/
def reply : Reply → Reply
  | .entry found => .entry (found.map exchange.entry)
  | .entries found => .entries (found.map exchange.entry)
  | reply => reply

variable {exchange}

/-- A reply without names stays. -/
theorem Matches.reply {Answer : Type} {call other : Call Answer} {reply : Answer → Reply}
    (same : exchange.Matches id call other)
    (nameless : ∀ answer, exchange.reply (reply answer) = reply answer) :
    exchange.Matches exchange.reply (reply <$> call) (reply <$> other) :=
  same.map fun answer => (nameless answer).symm

/-- Every operation does the same up to names. -/
theorem matches_operation (operation : Operation) :
    exchange.Matches exchange.reply operation.call (exchange.operation operation).call := by
  cases operation with
  | bindChat owner chat => exact (ignores_assign _ _).reply fun _ => rfl
  | findBinding chat => exact (ignores_findBinding _).reply fun _ => rfl
  | deactivateBinding id => exact (ignores_deactivateBinding _).reply fun _ => rfl
  | createAccount owner name kind opening =>
      exact (ignores_createAccount _ _ _ _).reply fun _ => rfl
  | findAccount owner id => exact (ignores_findAccount _ _).reply fun _ => rfl
  | listAccounts owner limit => exact (ignores_listAccounts _ _).reply fun _ => rfl
  | findAccounts owner ids => exact (ignores_among _ _).reply fun _ => rfl
  | deactivateAccount id => exact (ignores_deactivateAccount _).reply fun _ => rfl
  | resolveAccount owner text => exact (ignores_resolve _ _).reply fun _ => rfl
  | createCard owner name brand limit closingDay dueDay =>
      exact (ignores_createCard _ _ _ _ _ _).reply fun _ => rfl
  | findCard owner id => exact (ignores_findCard _ _).reply fun _ => rfl
  | createCategory owner name kind => exact (ignores_createCategory _ _ _).reply fun _ => rfl
  | listCategories owner => exact (ignores_listCategories _).reply fun _ => rfl
  | record entries => exact (matches_record entries).reply fun _ => rfl
  | findEntry id => exact (matches_findEntry _).map fun _ => rfl
  | listEntries owner selection => exact (matches_listEntries _ _).map fun _ => rfl
  | transfer movement description date => exact (ignores_execute _ _ _).reply fun _ => rfl
  | findTransfer id => exact (ignores_findTransfer _).reply fun _ => rfl
  | requestTransfer owner source target amount description =>
      exact (ignores_request _ _ _ _ _).reply fun _ => rfl
  | loadContext owner => exact (ignores_loadContext _).reply fun _ => rfl
  | post context draft => exact (ignores_post _ _).reply fun _ => rfl
  | report owner day => exact (ignores_report _ _).reply fun _ => rfl
  | sendMessage message rules => exact (ignores_handle _ _).reply fun _ => rfl
  | http room tokens request => exact (ignores_httpAnswer _ _ _).reply fun _ => rfl
  | command environment site words => exact (ignores_runWords _ _ _).reply fun _ => rfl

theorem matches_step (step : Step) :
    exchange.Matches exchange.reply step.call (exchange.step step).call := by
  cases step with
  | wait today now fault => exact fun _ started => ⟨rfl, started⟩
  | ask operation => exact matches_operation operation

/-- Steps with the new names are answered with the new names. -/
theorem replies_world (world : World) (started : first ≤ world.groupsNamed) (steps : List Step) :
    (exchange.world world).replies (steps.map exchange.step)
      = (world.replies steps).map (Except.map exchange.reply) := by
  induction steps generalizing world with
  | nil => rfl
  | cons step rest ih =>
      rcases matches_step step world started with ⟨same, later⟩
      have answer_eq : (exchange.step step).call.answer (exchange.world world)
          = Except.map exchange.reply (step.call.answer world) := by
        unfold Call.answer
        rw [same]
        cases step.call world <;> rfl
      have after_eq : (exchange.step step).call.worldAfter (exchange.world world)
          = exchange.world (step.call.worldAfter world) := by
        unfold worldAfter
        rw [same]
        cases step.call world <;> rfl
      rw [List.map_cons, World.replies, World.replies, List.map_cons, answer_eq, after_eq,
        ih _ later]

end Renaming

/-! ## Operations that fail -/

/-- Are the names that are still to be drawn new ones? -/
def World.IsFresh (world : World) : Prop :=
  ∀ entry ∈ world.ledger.entries, ∀ name, entry.installment.group = some name →
    ¬IsComing world.groupsNamed name

namespace Operation

variable {operation : Operation} {world after : World} {failure : Failure}

/-- An operation that fails leaves all tables and the clock as they were.  However storage fails
later, whatever is asked for later is answered as if the operation had never been asked for, but
for names of series that it drew: names drawn later are moved on, and all others are kept. -/
theorem no_trace_of_failure (raceless : world.IsRaceless)
    (run : operation.call world = .error failure after) :
    after = { world with fault := after.fault, groupsNamed := after.groupsNamed }
    ∧ ((world.groupsNamed < after.groupsNamed → world.IsFresh) →
      ∃ shift, ∃ exchange : Renaming world.groupsNamed shift,
        ∀ (fault : Option Fault) (steps : List Step),
          World.replies { after with fault := fault } (steps.map exchange.step)
            = (World.replies { world with fault := fault } steps).map
                (Except.map exchange.reply)) := by
  have atomic := operation.atomic_call
  have follows := atomic.proceeds.of_error run
  have kept_ledger := atomic.ledger_of_error raceless run
  have same : after = { world with fault := after.fault, groupsNamed := after.groupsNamed } := by
    rw [← kept_ledger, ← follows.today, ← follows.now]
  refine ⟨same, fun fresh => ?_⟩
  rcases Nat.exists_eq_add_of_le follows.groupsNamed with ⟨shift, count⟩
  rcases nonempty_renaming world.groupsNamed shift with ⟨exchange⟩
  have names_kept : exchange.ledger world.ledger = world.ledger := by
    apply exchange.ledger_eq
    intro entry member name group
    cases shift with
    | zero => exact exchange.rename_of_zero name
    | succ shift =>
        exact exchange.rename_of_not_coming name (fresh (by omega) entry member name group)
  refine ⟨shift, exchange, fun fault steps => ?_⟩
  have start : exchange.world { world with fault := fault } = { after with fault := fault } := by
    rw [same, count, Renaming.world, names_kept]
  rw [← start]
  exact Renaming.replies_world { world with fault := fault } le_rfl steps

/-- A sofa is to be paid for in two installments. -/
def sofa : Operation :=
  .post { owner := "ana" } (.entry {
    amount := .ofCents false 5000
    description := "Sofá"
    category := none
    installments := 2
    account := some 1 })

/-- The account is there, but the next unit of work cannot be committed. -/
def beforeSofa : World :=
  World.newYear.run
    [.create "ana" "Carteira" .wallet (.ofCents false 20000),
     .wait World.newYear.today World.newYear.now (some { point := .commit })]

/-- The series has drawn a name when its commit fails, and leaves no other trace. -/
theorem no_trace_of_failure_sofa :
    ∃ failure after, sofa.call beforeSofa = .error failure after
      ∧ after = { beforeSofa with fault := none, groupsNamed := 1 }
      ∧ ∃ shift, ∃ exchange : Renaming beforeSofa.groupsNamed shift,
        ∀ (fault : Option Fault) (steps : List Step),
          World.replies { after with fault := fault } (steps.map exchange.step)
            = (World.replies { beforeSofa with fault := fault } steps).map
                (Except.map exchange.reply) := by
  have raceless : beforeSofa.IsRaceless := by
    rintro fault armed
    cases armed
    decide
  have fresh : beforeSofa.IsFresh := by
    have unwritten : beforeSofa.ledger.entries = [] := by decide +kernel
    simp [World.IsFresh, unwritten]
  have failed : (sofa.call.answer beforeSofa).isOk = false := by decide +kernel
  have left : sofa.call.worldAfter beforeSofa
      = { beforeSofa with fault := none, groupsNamed := 1 } := by decide +kernel
  cases run : sofa.call beforeSofa with
  | ok reply after => simp [Call.answer, run, Except.isOk, Except.toBool] at failed
  | error failure after =>
      rw [worldAfter_of_error run] at left
      exact ⟨failure, after, rfl, left, (no_trace_of_failure raceless run).2 fun _ => fresh⟩

end Operation

end Cashbook
