import Cashbook.Proofs.Chat.Confirmation
import Cashbook.Proofs.Ledger.Changes
import Cashbook.Proofs.Operations
import Cashbook.Proofs.Posting.Drafts

/-!
# What all services keep

Services write in three ways: they set up accounts, cards, categories and bindings, they post
drafts with accounts and categories of the owner, and they move money that has passed its checks.
What these three ways keep is kept by whatever is asked for in a chat, over the network or at the
command line.  Bindings are set apart, for what is steady but for them.
-/

namespace Cashbook

open Call

/-! ## Properties that are kept -/

/-- Does a property that held before still hold? -/
def World.Maintains (holds : World → Prop) (before after : World) : Prop :=
  holds before → holds after

instance (holds : World → Prop) : World.IsKept (World.Maintains holds) :=
  ⟨fun _ started => started, fun first second started => second (first started)⟩

namespace Call

variable {Answer Next : Type} {call : Call Answer} {next : Answer → Call Next}
  {holds : World → Prop} {ledger : Ledger}

/-- A call after which a property still holds. -/
abbrev Maintains (holds : World → Prop) (call : Call Answer) : Prop :=
  Respects (World.Maintains holds) call

/-- A call after which a property still holds if it starts with a certain ledger. -/
def MaintainsOn (ledger : Ledger) (holds : World → Prop) (call : Call Answer) : Prop :=
  ∀ world, world.ledger = ledger → holds world → holds (call.worldAfter world)

theorem Maintains.on (maintains : Maintains holds call) : MaintainsOn ledger holds call :=
  fun world _ => maintains world

theorem maintains_of_on (maintains : ∀ ledger, MaintainsOn ledger holds call) :
    Maintains holds call :=
  fun world => maintains world.ledger world rfl

theorem MaintainsOn.bind (first : MaintainsOn ledger holds call)
    (second : ∀ answer, Maintains holds (next answer)) :
    MaintainsOn ledger holds (call >>= next) := by
  intro world same started
  have kept := first world same started
  unfold worldAfter at kept ⊢
  cases step : call world with
  | ok answer middle =>
      rw [step] at kept
      rw [bind_of_ok step]
      exact second answer middle kept
  | error failure middle =>
      rw [step] at kept
      rw [bind_of_error step]
      exact kept

theorem MaintainsOn.tryCatch {handler : Failure → Call Answer}
    (first : MaintainsOn ledger holds call)
    (second : ∀ failure, Maintains holds (handler failure)) :
    MaintainsOn ledger holds (tryCatch call handler) := by
  intro world same started
  have kept := first world same started
  unfold worldAfter at kept ⊢
  rw [tryCatch_apply]
  cases step : call world with
  | ok answer middle =>
      rw [step] at kept
      exact kept
  | error failure middle =>
      rw [step] at kept
      exact second failure middle kept

theorem MaintainsOn.ite {condition : Prop} [Decidable condition] {other : Call Answer}
    (first : MaintainsOn ledger holds call) (second : MaintainsOn ledger holds other) :
    MaintainsOn ledger holds (if condition then call else other) := by
  split_ifs
  · exact first
  · exact second

end Call

/-! ## Invariants -/

/-- A property of worlds that posting drafts, moving money in fair ways and setting up what is no
binding keep. -/
structure IsSteady (holds : World → Prop) (fair : Movement → Prop) : Prop where
  furnishes : ∀ {before after}, World.Furnishes before after → holds before → holds after
  posts : ∀ {draft : EntryDraft} {context : OwnerContext} {ledger : Ledger},
    context.IsDrawnFrom ledger →
    (∀ category, draft.category = some category → category ∈ context.categories) →
    MaintainsOn ledger holds (draft.post context)
  moves : ∀ {movement description date}, fair movement →
    Maintains holds (Transfer.perform movement description date)
  rivals : ∀ {world fault rival}, holds world → world.fault = some fault →
    fault.rival = some rival → fair rival
  requests : ∀ {movement : Movement} {world after}, movement.validate world = .ok () after →
    fair movement

/-- A property of worlds that each of the three ways of writing keeps, where money moves in fair
ways only. -/
structure IsInvariant (holds : World → Prop) (fair : Movement → Prop) : Prop extends
    IsSteady holds fair where
  prepares : ∀ {before after}, World.Prepares before after → holds before → holds after
  furnishes := fun furnished started => prepares furnished.toPrepares started

variable {holds : World → Prop} {fair : Movement → Prop} {Answer Next : Type}

theorem IsInvariant.of_prepares (invariant : IsInvariant holds fair) {call : Call Answer}
    (prepares : Prepares call) : Maintains holds call :=
  fun world => invariant.prepares (prepares world)

namespace IsSteady

variable (steady : IsSteady holds fair)

include steady

theorem of_furnishes {call : Call Answer} (furnishes : Furnishes call) : Maintains holds call :=
  fun world => steady.furnishes (furnishes world)

theorem of_reads {call : Call Answer} (reads : Reads call) : Maintains holds call :=
  steady.of_furnishes reads.furnishes

/-- What is read first is known to come from the ledger that the rest starts with. -/
theorem bind_on {call : Call Answer} {next : Answer → Call Next} {ledger : Ledger}
    (reads : Reads call)
    (rest : ∀ answer, (∃ world after, world.ledger = ledger ∧ call world = .ok answer after) →
      MaintainsOn ledger holds (next answer)) : MaintainsOn ledger holds (call >>= next) := by
  intro world same started
  have kept := steady.of_reads reads world started
  unfold worldAfter at kept ⊢
  cases step : call world with
  | ok answer middle =>
      rw [step] at kept
      rw [bind_of_ok step]
      have read := reads.of_ok step
      exact rest answer ⟨world, middle, same, step⟩ middle (read.ledger.trans same) kept
  | error failure middle =>
      rw [step] at kept
      rw [bind_of_error step]
      exact kept

/-! ## Moving money -/

/-- A transfer keeps the property if its unit of work does, whatever transfer slips in. -/
theorem maintains_executeWith {movement : Movement} {write : Call Int}
    (moves : Maintains holds (Transfer.performWith write movement)) :
    Maintains holds (Transfer.executeWith write movement) := by
  refine (steady.of_reads (reads_failAt _ _)).bind fun _ =>
    (steady.of_reads (reads_failAt _ _)).bind fun _ => ?_
  intro world started
  have visited := steady.of_reads (reads_visit .race) world started
  cases step : visit .race world with
  | error failure middle =>
      rw [worldAfter_of_error (bind_of_error step)]
      rwa [worldAfter_of_error step] at visited
  | ok shown middle =>
      rw [worldAfter_of_ok step] at visited
      unfold worldAfter
      rw [bind_of_ok step]
      cases shown with
      | none => exact moves middle visited
      | some fault =>
          have rival : Maintains holds (Transfer.performRival fault.rival) := by
            cases slipping : fault.rival with
            | none => exact respects_pure ()
            | some rival =>
                have armed := (fault_of_visit_eq_ok step).1
                have fairly := steady.rivals started armed slipping
                exact respects_get.bind fun _ => (steady.moves fairly).bind fun _ =>
                  respects_pure ()
          exact rival.bind (fun _ => moves) middle visited

theorem maintains_execute {movement : Movement} (fairly : fair movement) (description : String)
    (date : Date) : Maintains holds (Transfer.execute movement description date) :=
  steady.maintains_executeWith (steady.moves fairly)

/-- A transfer that cannot be written keeps the property, fair or not. -/
theorem maintains_executeTorn (movement : Movement) :
    Maintains holds (Transfer.executeTorn movement) :=
  steady.maintains_executeWith (steady.of_reads (Transfer.reads_performWith_throw _ movement))

theorem maintains_request (owner : String) (source target : Int) (amount : Option Decimal)
    (description : Option String) :
    Maintains holds (Movement.request owner source target amount description) := by
  cases amount with
  | none => exact respects_throw _
  | some amount =>
      apply maintains_of_on
      intro ledger
      rw [Movement.request_eq]
      refine steady.bind_on (Movement.reads_validate _) fun _ valid => ?_
      rcases valid with ⟨world, after, -, valid⟩
      exact Maintains.on (respects_get.bind fun _ =>
        steady.maintains_execute (steady.requests valid) _ _)

theorem maintains_requestTorn (owner : String) (source target : Int) (amount : Option Decimal) :
    Maintains holds (Movement.requestTorn owner source target amount) := by
  cases amount with
  | none => exact respects_throw _
  | some amount =>
      rw [Movement.requestTorn_eq]
      exact (steady.of_reads (Movement.reads_validate _)).bind fun _ =>
        steady.maintains_executeTorn _

/-! ## Posting drafts -/

/-- A draft is posted for what is at hand: its category, if it has one, is among the categories. -/
theorem maintainsOn_post {context : OwnerContext} {ledger : Ledger}
    (drawn : context.IsDrawnFrom ledger) (draft : Draft)
    (sorted : ∀ entry, draft = .entry entry → ∀ category, entry.category = some category →
      category ∈ context.categories) : MaintainsOn ledger holds (draft.post context) := by
  cases draft with
  | entry draft => exact steady.posts drawn (sorted draft rfl)
  | transfer draft =>
      exact Maintains.on ((steady.maintains_request _ _ _ _ _).bind fun _ =>
        (steady.of_reads (Account.reads_among _ _)).bind fun _ => respects_pure _)

end IsSteady

/-! ## Chats -/

namespace Chat

section

variable (steady : IsSteady holds fair)

include steady

theorem maintainsOn_answer {context : OwnerContext} {ledger : Ledger}
    (drawn : context.IsDrawnFrom ledger) (rules : List KeywordRule) (intent : Intent) :
    MaintainsOn ledger holds (answer context rules intent) := by
  have post : ∀ draft, intent.draft? context.categories rules = some draft →
      MaintainsOn ledger holds (postDraft context draft) := by
    intro draft asked
    have sorted := (Intent.draft?_spec asked).2
    refine MaintainsOn.tryCatch ((steady.posts drawn fun category chosen =>
      (sorted category chosen).1).bind fun _ => respects_pure _) fun failure => ?_
    split
    · exact respects_throw _
    · exact respects_pure _
  cases intent with
  | addExpense amount description hint => exact post _ rfl
  | balance =>
      exact Maintains.on (steady.of_reads ((reads_ofArithmetic _).bind fun _ =>
        respects_pure _))
  | report =>
      exact Maintains.on (steady.of_reads (respects_get.bind fun _ =>
        (MonthlyReport.reads_load _ _).bind fun _ => (reads_ofArithmetic _).bind fun _ =>
          respects_pure _))
  | help => exact Maintains.on (respects_pure _)
  | malformed complaint => exact Maintains.on (respects_pure _)
  | freeText text =>
      simp only [answer]
      split
      next draft read =>
        refine post draft ?_
        rw [Intent.draft?, read]
        rfl
      next => exact Maintains.on (respects_pure _)

theorem maintainsOn_answerTorn {context : OwnerContext} {ledger : Ledger}
    (drawn : context.IsDrawnFrom ledger) (rules : List KeywordRule) (intent other : Intent) :
    MaintainsOn ledger holds (answerTorn context rules intent other) := by
  have torn : ∀ draft : EntryDraft, MaintainsOn ledger holds (orTold (draft.postTorn context)) :=
    fun draft => Maintains.on (steady.of_reads (reads_orTold (draft.reads_postTorn context)))
  unfold answerTorn
  split
  · exact .ite (maintainsOn_answer steady drawn _ _) (torn _)
  · split
    · exact torn _
    · exact Maintains.on (respects_pure _)
  · exact maintainsOn_answer steady drawn _ _

/-- What answers a text keeps for the owner of a chat, answering the chat keeps. -/
theorem maintains_respondWith {text : List Char} {bound : Call (Option Binding)}
    {answer : OwnerContext → Call Reply} (reads : Reads bound)
    (answers : ∀ {context ledger}, OwnerContext.IsDrawnFrom context ledger →
      MaintainsOn ledger holds (answer context)) :
    Maintains holds (respondWith text bound answer) := by
  refine .ite (respects_pure _) ((steady.of_reads reads).bind fun binding => ?_)
  cases binding with
  | none => exact respects_pure _
  | some binding =>
      apply maintains_of_on
      intro ledger
      refine steady.bind_on (OwnerContext.reads_load _) fun context loaded => ?_
      rcases loaded with ⟨world, after, rfl, run⟩
      exact answers (OwnerContext.isDrawnFrom_of_load_eq_ok run).2

theorem maintains_handle (message : Message) (rules : List KeywordRule) :
    Maintains holds (handle message rules) :=
  Respects.tryCatch (maintains_respondWith steady (reads_bindingOf message) fun drawn =>
    maintainsOn_answer steady drawn _ _) fun _ => respects_pure _

theorem maintains_handleLoose (message : LooseMessage) (rules : List KeywordRule) :
    Maintains holds (handleLoose message rules) := by
  unfold handleLoose
  split
  · exact maintains_handle steady _ _
  · exact Respects.tryCatch (maintains_respondWith steady message.reads_bindingOf fun drawn =>
      maintainsOn_answerTorn steady drawn _ _ _) fun _ => respects_pure _

end

end Chat

/-! ## The service -/

namespace Http

section

variable (steady : IsSteady holds fair)

include steady

theorem maintains_withinDeadline {work : Call Answer} (maintains : Maintains holds work) :
    Maintains holds (withinDeadline work) := by
  have abandoned : Maintains holds (abandoned work) :=
    (maintains.map _).tryCatch fun _ => respects_pure _
  exact (steady.of_reads (reads_failAt _ _)).bind fun _ =>
    (steady.of_reads (reads_visit _)).bind fun _ =>
      .ite (abandoned.bind fun _ => respects_pure _) (maintains.bind fun _ => respects_pure _)

theorem maintains_receiveMessage (room : Nat) (request : Request) :
    Maintains holds (receiveMessage room request) := by
  have replied : ∀ message, Maintains holds (replyTo message) := by
    intro message
    exact ((maintains_withinDeadline steady (Chat.maintains_handleLoose steady _ _)).bind fun _ =>
      respects_pure _).tryCatch fun _ => respects_pure _
  exact (steady.of_reads (reads_bodyOf room request)).bind fun body =>
    (replied _).bind fun _ => respects_pure _

theorem maintains_moveFor (owner : String) (body : TransferBody) :
    Maintains holds (moveFor owner body) := by
  unfold moveFor
  split
  · exact steady.maintains_request _ _ _ _ _
  · exact steady.maintains_requestTorn _ _ _ _

theorem maintains_requestTransfer (room : Nat) (tokens : ApiTokens) (request : Request) :
    Maintains holds (requestTransfer room tokens request) := by
  have transferred : ∀ owner body, Maintains holds (transferFor owner body) := by
    intro owner body
    refine Respects.tryCatch ((maintains_withinDeadline steady
      (maintains_moveFor steady owner body)).bind fun id => ?_) fun _ => respects_pure _
    cases id with
    | none => exact respects_pure _
    | some id => exact respects_pure _
  refine (steady.of_reads (reads_bodyOf room request)).bind fun body => ?_
  split
  · exact respects_pure _
  · refine (steady.of_reads (reads_ofArithmetic _)).bind fun _ =>
      .ite (respects_pure _) (.ite (respects_pure _) ?_)
    split
    · exact respects_pure _
    · exact transferred _ _

theorem maintains_answer (room : Nat) (tokens : ApiTokens) (request : Request) :
    Maintains holds (answer room tokens request) :=
  .ite (respects_pure _) <| .ite (respects_pure _) <| .ite (respects_pure _) <|
    .ite (maintains_receiveMessage steady _ _) (maintains_requestTransfer steady _ _ _)

end

end Http

/-! ## The command line -/

namespace CommandLine

theorem maintains_orRefused {work : Call Ending} (maintains : Maintains holds work) :
    Maintains holds (orRefused work) := by
  refine maintains.tryCatch fun failure => ?_
  split
  · exact respects_throw _
  · exact respects_pure _

theorem maintains_said {work : Call Answer} (maintains : Maintains holds work)
    (line : Answer → Ending) :
    Maintains holds (orRefused (work >>= fun answer => pure (line answer))) :=
  maintains_orRefused (maintains.bind fun _ => respects_pure _)

/-- The owner and the chat that a command binds. -/
def Invocation.binds? (invocation : Invocation) : Option (String × String) :=
  match invocation.command, invocation.owner.filter (· ≠ "") with
  | .bindChat chat, some owner => some (owner, chat)
  | _, _ => none

/-- The owner and the chat that words bind. -/
def binds? (environment : Environment) (words : List String) : Option (String × String) :=
  (Invocation.ofWords environment words).toOption.bind Invocation.binds?

theorem isLenient_maintains (steady : IsSteady holds fair) : IsLenient (Maintains holds) :=
  ⟨fun reads rest => (steady.of_reads reads).bind rest, fun _ => respects_pure _,
    fun _ => respects_throw _⟩

theorem isLenient_maintainsOn (steady : IsSteady holds fair) (ledger : Ledger) :
    IsLenient (MaintainsOn ledger holds) :=
  ⟨fun reads rest => steady.bind_on reads fun answer _ => rest answer,
    fun _ => Maintains.on (respects_pure _), fun _ => Maintains.on (respects_throw _)⟩

section

variable (steady : IsSteady holds fair) {ledger : Ledger}

include steady

theorem maintainsOn_postDraft {context : OwnerContext} (drawn : context.IsDrawnFrom ledger)
    (draft : Draft)
    (sorted : ∀ entry, draft = .entry entry → ∀ category, entry.category = some category →
      category ∈ context.categories) : MaintainsOn ledger holds (postDraft context draft) := by
  refine MaintainsOn.tryCatch ((steady.maintainsOn_post drawn draft sorted).bind fun _ =>
    respects_pure _) fun failure => ?_
  split
  · exact respects_throw _
  · exact respects_pure _

theorem maintains_addEntry (owner : String) (words : EntryWords) :
    Maintains holds (addEntry owner words) := by
  unfold addEntry
  split
  · exact respects_pure _
  · refine (isLenient_maintains steady).withDate fun date => maintains_of_on fun ledger => ?_
    refine steady.bind_on (Account.reads_list _ _) fun accounts listed => ?_
    refine steady.bind_on (Category.reads_list _) fun categories all => ?_
    rcases listed with ⟨world, after, same, list⟩
    rcases all with ⟨other, ended, other_same, all⟩
    have drawn : OwnerContext.IsDrawnFrom ⟨owner, accounts, categories⟩ ledger :=
      ⟨same ▸ Account.mem_of_list_eq_ok list, other_same ▸ Category.mem_of_list_eq_ok all⟩
    have lenient := isLenient_maintainsOn steady ledger
    refine .ite (lenient.addTransfer fun draft _ => ?_) (lenient.addSingle fun draft _ member => ?_)
    · exact maintainsOn_postDraft steady drawn _ (by simp)
    · apply maintainsOn_postDraft steady drawn
      rintro _ ⟨⟩
      exact member

/-- What is kept when chats are bound is kept by every command. -/
theorem maintains_runInvocation (environment : Environment) (site : Site)
    {invocation : Invocation}
    (binds : ∀ owner chat, invocation.binds? = some (owner, chat) →
      Maintains holds (Binding.assign owner chat)) :
    Maintains holds (invocation.run environment site) := by
  have lenient := isLenient_maintains steady
  rcases invocation with ⟨owner, databaseUrl, command⟩
  cases command with
  | createAccount name kind balance =>
      refine lenient.withOwner fun owner => ?_
      unfold createAccount
      split
      · exact respects_pure _
      · exact maintains_said (steady.of_furnishes (Account.furnishes_create _ _ _ _)) _
  | listAccounts =>
      refine lenient.withOwner fun owner =>
        (steady.of_reads (Account.reads_list _ _)).bind fun accounts => ?_
      cases accounts with
      | nil => exact respects_pure _
      | cons account rest => exact respects_pure _
  | createCategory name kind =>
      exact lenient.withOwner fun owner =>
        maintains_said (steady.of_furnishes (Category.furnishes_create _ _ _)) _
  | listCategories =>
      refine lenient.withOwner fun owner =>
        (steady.of_reads (Category.reads_list _)).bind fun categories => ?_
      cases categories with
      | nil => exact respects_pure _
      | cons category rest => exact respects_pure _
  | createCard name brand limit closingDay dueDay =>
      refine lenient.withOwner fun owner => ?_
      unfold createCard
      split
      · exact respects_pure _
      · exact maintains_said (steady.of_furnishes (Card.furnishes_create _ _ _ _ _ _)) _
  | bindChat chat =>
      simp only [Invocation.run, withOwner]
      cases named : owner.filter (· ≠ "") with
      | none => exact respects_pure _
      | some owner =>
          exact maintains_said (binds owner chat (by simp only [Invocation.binds?, named])) _
  | sendMessage text chat =>
      exact (Chat.maintains_handle steady _ _).bind fun _ => respects_pure _
  | addEntry words => exact lenient.withOwner fun owner => maintains_addEntry steady _ _
  | serve host socket =>
      simp only [Invocation.run, serve]
      split
      · exact respects_pure _
      · exact .ite (respects_throw _) (respects_pure _)

theorem maintains_run (site : Site) {environment : Environment} {words : List String}
    (binds : ∀ owner chat, binds? environment words = some (owner, chat) →
      Maintains holds (Binding.assign owner chat)) :
    Maintains holds (run environment site words) := by
  unfold run
  split
  next invocation read =>
    refine (maintains_runInvocation steady _ _ fun owner chat bound => ?_).map _
    exact binds owner chat (by rw [binds?, read]; exact bound)
  · exact respects_pure _
  · exact respects_pure _

end

end CommandLine

/-! ## Operations -/

namespace Operation

/-- Is the operation a service, rather than a write that a service makes with data of its own? -/
def IsService : Operation → Prop
  | .record _ | .transfer .. | .post .. => False
  | _ => True

/-- The owner and the chat that an operation binds. -/
def binds? : Operation → Option (String × String)
  | .bindChat owner chat => some (owner, chat)
  | .command environment _ words => CommandLine.binds? environment words
  | _ => none

/-- The number of the binding that an operation switches off. -/
def releases? : Operation → Option Int
  | .deactivateBinding id => some id
  | _ => none

end Operation

section

variable {operation : Operation}

/-- What is kept by posting, moving and setting up, and when chats are bound and bindings switched
off, every service keeps. -/
theorem IsSteady.maintains_call (steady : IsSteady holds fair)
    (binds : ∀ owner chat, operation.binds? = some (owner, chat) →
      Maintains holds (Binding.assign owner chat))
    (releases : ∀ id, operation.releases? = some id → Maintains holds (Binding.deactivate id))
    (service : operation.IsService) : Maintains holds operation.call := by
  have furnished : ∀ {Answer : Type} {call : Call Answer} (reply : Answer → Reply),
      Furnishes call → Maintains holds (reply <$> call) :=
    fun reply furnishes => (steady.of_furnishes furnishes).map reply
  have read : ∀ {Answer : Type} {call : Call Answer} (reply : Answer → Reply),
      Reads call → Maintains holds (reply <$> call) :=
    fun reply reads => furnished reply reads.furnishes
  cases operation with
  | bindChat owner chat => exact (binds owner chat rfl).map _
  | findBinding chat => exact read _ (Binding.reads_find _)
  | deactivateBinding id => exact (releases id rfl).map _
  | createAccount owner name kind opening => exact furnished _ (Account.furnishes_create _ _ _ _)
  | findAccount owner id => exact read _ (Account.reads_find _ _)
  | listAccounts owner limit => exact read _ (Account.reads_list _ _)
  | findAccounts owner ids => exact read _ (Account.reads_among _ _)
  | deactivateAccount id => exact furnished _ (Account.furnishes_deactivate _)
  | resolveAccount owner text => exact read _ (Account.reads_resolve _ _)
  | createCard owner name brand limit closingDay dueDay =>
      exact furnished _ (Card.furnishes_create _ _ _ _ _ _)
  | findCard owner id => exact read _ (Card.reads_find _ _)
  | createCategory owner name kind => exact furnished _ (Category.furnishes_create _ _ _)
  | listCategories owner => exact read _ (Category.reads_list _)
  | record entries => exact service.elim
  | findEntry id => exact read _ (Entry.reads_find _)
  | listEntries owner selection => exact read _ (Entry.reads_list _ _)
  | transfer movement description date => exact service.elim
  | findTransfer id => exact read _ (Transfer.reads_find _)
  | requestTransfer owner source target amount description =>
      exact (steady.maintains_request _ _ _ _ _).map _
  | loadContext owner => exact read _ (OwnerContext.reads_load _)
  | post context draft => exact service.elim
  | report owner day => exact read _ (MonthlyReport.reads_load _ _)
  | sendMessage message rules => exact (Chat.maintains_handle steady _ _).map _
  | http room tokens request => exact (Http.maintains_answer steady _ _ _).map _
  | command environment site words => exact (CommandLine.maintains_run steady _ binds).map _

/-- Where all money moves in fair ways and all drafts may be posted, every operation keeps what a
batch of entries keeps that is recorded without a draft. -/
theorem IsSteady.maintains_operation (steady : IsSteady holds fun _ => True)
    (binds : ∀ owner chat, operation.binds? = some (owner, chat) →
      Maintains holds (Binding.assign owner chat))
    (releases : ∀ id, operation.releases? = some id → Maintains holds (Binding.deactivate id))
    (records : ∀ entries, operation = .record entries → Maintains holds (Entry.record entries))
    (posts : ∀ (draft : EntryDraft) context, Maintains holds (draft.post context)) :
    Maintains holds operation.call := by
  by_cases service : operation.IsService
  · exact steady.maintains_call binds releases service
  · cases operation with
    | record entries => exact (records entries rfl).map _
    | transfer movement description date =>
        exact (steady.maintains_execute trivial description date).map _
    | post context draft =>
        cases draft with
        | entry draft => exact (posts draft context).map _
        | transfer draft =>
            exact ((steady.maintains_request _ _ _ _ _).bind fun _ =>
              (steady.of_reads (Account.reads_among _ _)).bind fun _ => respects_pure _).map _
    | _ => exact absurd trivial service

/-- What the three ways of writing keep, every service keeps. -/
theorem IsInvariant.maintains_call (invariant : IsInvariant holds fair)
    (service : operation.IsService) : Maintains holds operation.call :=
  invariant.toIsSteady.maintains_call
    (fun _ _ _ => invariant.of_prepares (Binding.prepares_assign _ _))
    (fun _ _ => invariant.of_prepares (Binding.prepares_deactivate _)) service

theorem IsInvariant.maintains_operation (invariant : IsInvariant holds fun _ => True)
    (records : ∀ entries, operation = .record entries → Maintains holds (Entry.record entries))
    (posts : ∀ (draft : EntryDraft) context, Maintains holds (draft.post context)) :
    Maintains holds operation.call :=
  invariant.toIsSteady.maintains_operation
    (fun _ _ _ => invariant.of_prepares (Binding.prepares_assign _ _))
    (fun _ _ => invariant.of_prepares (Binding.prepares_deactivate _)) records posts

end

end Cashbook
