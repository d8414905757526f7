import Cashbook.CommandLine.Run
import Cashbook.Proofs.Ledger.Events
import Cashbook.Proofs.Posting.Requests
import Cashbook.Service.Endpoints

/-!
# What services do

Whatever is asked for, in a chat, over the network or at the command line, is done as a whole, or
fails and leaves the ledger as it was.
-/

namespace Cashbook

open Call

/-! ## The tables of a ledger -/

theorem Binding.reads_find (chat : String) : Reads (Binding.find chat) :=
  (reads_failAt _ _).bind fun _ => respects_ledger.bind fun _ => respects_pure _

theorem Binding.atomic_assign (owner chat : String) : Atomic (Binding.assign owner chat) :=
  atomic_atomically <| respects_ledger.bind fun _ => (proceeds_putLedger _).bind fun _ =>
    respects_pure _

/-- What is found is the active binding of the chat. -/
theorem Binding.find_eq_ok {world after : World} {chat : String} {bound : Option Binding}
    (run : Binding.find chat world = .ok bound after) :
    bound = world.ledger.bindings.find? fun binding => binding.chat = chat ∧ binding.active := by
  rcases bind_eq_ok_iff.mp run with ⟨_, shown, fail, rest⟩
  cases rest
  rw [← ((reads_failAt _ _).of_ok fail).ledger]

/-- Changing the ledger cannot fail. -/
theorem atomic_changeLedger (change : Ledger → Ledger) : Atomic (changeLedger change) := by
  refine ⟨proceeds_changeLedger change, ?_⟩
  rintro world failure after - ⟨⟩

theorem Binding.atomic_deactivate (id : Int) : Atomic (Binding.deactivate id) :=
  (reads_checkWord _).bind_atomic fun _ => atomic_changeLedger _

theorem Account.atomic_deactivate (id : Int) : Atomic (Account.deactivate id) :=
  (reads_checkWord _).bind_atomic fun _ => atomic_changeLedger _

theorem Card.atomic_create (owner name brand : String) (limit : Decimal)
    (closingDay dueDay : Int) : Atomic (Card.create owner name brand limit closingDay dueDay) :=
  atomic_atomically <| (reads_checkQuiet _).proceeds.bind fun _ =>
    (reads_checkWord _).proceeds.bind fun _ => (reads_checkWord _).proceeds.bind fun _ =>
      (reads_storable _ _).proceeds.bind fun _ => respects_ledger.bind fun _ =>
        (proceeds_putLedger _).bind fun _ => respects_pure _

theorem Category.atomic_create (owner name : String) (kind : CategoryKind) :
    Atomic (Category.create owner name kind) :=
  atomic_atomically <| respects_ledger.bind fun _ => (proceeds_putLedger _).bind fun _ =>
    respects_pure _

theorem Entry.reads_find (id : Int) : Reads (Entry.find id) :=
  (reads_checkWord _).bind fun _ => respects_ledger.bind fun _ => respects_pure _

theorem Entry.reads_list (owner : String) (selection : Entry.Selection) :
    Reads (Entry.list owner selection) :=
  (reads_failAt _ _).bind fun _ => respects_ledger.bind fun _ => respects_pure _

theorem Transfer.reads_find (id : Int) : Reads (Transfer.find id) :=
  (reads_checkWord _).bind fun _ => respects_ledger.bind fun _ => respects_pure _

theorem Account.reads_resolve (owner text : String) : Reads (Account.resolve owner text) := by
  unfold Account.resolve
  split
  · exact (Account.reads_find _ _).bind fun _ => .ite (respects_throw _) (respects_pure _)
  · refine (Account.reads_list _ _).bind fun accounts => ?_
    split
    · exact respects_pure _
    · exact respects_throw _

theorem MonthlyReport.reads_load (owner : String) (day : Date) :
    Reads (MonthlyReport.load owner day) := by
  refine (reads_ofCalendar _).bind fun range => ?_
  exact (Entry.reads_list _ _).bind fun _ => (reads_ofArithmetic _).bind fun _ =>
    (reads_ofArithmetic _).bind fun _ => respects_pure _

/-! ## Chats -/

namespace Chat

theorem atomic_orTold {post : Call String} (atomic : Atomic post) : Atomic (orTold post) := by
  refine Atomic.tryCatch (atomic.bind_pure _) fun failure => ?_
  split
  · exact respects_throw _
  · exact respects_pure _

theorem reads_orTold {post : Call String} (reads : Reads post) : Reads (orTold post) := by
  refine Respects.tryCatch (reads.bind fun _ => respects_pure _) fun failure => ?_
  split
  · exact respects_throw _
  · exact respects_pure _

theorem atomic_answer (context : OwnerContext) (rules : List KeywordRule) (intent : Intent) :
    Atomic (answer context rules intent) := by
  have post : ∀ draft, Atomic (postDraft context draft) :=
    fun draft => atomic_orTold (draft.atomic_post context)
  have report : Reads (do
      let report ← MonthlyReport.load context.owner (← get).today
      return ({ text := ← ofArithmetic (Wording.monthlyReport report.income report.expenses) }
        : Reply)) :=
    respects_get.bind fun _ => (MonthlyReport.reads_load _ _).bind fun _ =>
      (reads_ofArithmetic _).bind fun _ => respects_pure _
  cases intent with
  | addExpense amount description hint => exact post _
  | balance =>
      exact Reads.atomic ((reads_ofArithmetic _).bind fun _ => respects_pure _)
  | report => exact report.atomic
  | help => exact Reads.atomic (respects_pure _)
  | malformed complaint => exact Reads.atomic (respects_pure _)
  | freeText text =>
      simp only [answer]
      split
      · exact post _
      · exact Reads.atomic (respects_pure _)

theorem reads_bindingOf (message : Message) : Reads (bindingOf message) := by
  unfold bindingOf
  split
  · exact .ite (respects_pure _) (Binding.reads_find _)
  · exact respects_pure _

theorem LooseMessage.reads_bindingOf (message : LooseMessage) : Reads message.bindingOf := by
  unfold bindingOf
  split
  · exact Chat.reads_bindingOf _
  · exact (reads_failAt _ _).bind fun _ => respects_throw _

/-- Where a text has halves, an entry is posted as a whole, or not written at all. -/
theorem atomic_answerTorn (context : OwnerContext) (rules : List KeywordRule)
    (intent other : Intent) : Atomic (answerTorn context rules intent other) := by
  have torn : ∀ draft : EntryDraft, Atomic (orTold (draft.postTorn context)) :=
    fun draft => (reads_orTold (draft.reads_postTorn context)).atomic
  unfold answerTorn
  split
  · exact .ite (atomic_answer _ _ _) (torn _)
  · split
    · exact torn _
    · exact Reads.atomic (respects_pure _)
  · exact atomic_answer _ _ _

theorem atomic_respondWith {text : List Char} {bound : Call (Option Binding)}
    {answer : OwnerContext → Call Reply} (reads : Reads bound)
    (atomic : ∀ context, Atomic (answer context)) : Atomic (respondWith text bound answer) := by
  refine .ite (Reads.atomic (respects_pure _)) (reads.bind_atomic fun binding => ?_)
  cases binding with
  | none => exact Reads.atomic (respects_pure _)
  | some binding => exact (OwnerContext.reads_load _).bind_atomic fun _ => atomic _

theorem atomic_handle (message : Message) (rules : List KeywordRule) :
    Atomic (handle message rules) :=
  (atomic_respondWith (reads_bindingOf message) fun _ => atomic_answer _ _ _).tryCatch fun _ =>
    respects_pure _

theorem atomic_handleLoose (message : LooseMessage) (rules : List KeywordRule) :
    Atomic (handleLoose message rules) := by
  unfold handleLoose
  split
  · exact atomic_handle _ _
  · exact (atomic_respondWith message.reads_bindingOf fun _ =>
      atomic_answerTorn _ _ _ _).tryCatch fun _ => respects_pure _

end Chat

/-! ## The service -/

namespace Http

theorem reads_bodyOf (room : Nat) (request : Request) : Reads (bodyOf room request) := by
  unfold bodyOf
  split
  · exact respects_pure _
  · exact respects_pure _
  · exact respects_throw _

theorem atomic_withinDeadline {Answer : Type} {work : Call Answer} (atomic : Atomic work) :
    Atomic (withinDeadline work) := by
  have abandoned : Atomic (abandoned work) :=
    (atomic.map _).tryCatch fun _ => respects_pure _
  exact (reads_failAt _ _).bind_atomic fun _ => (reads_visit _).bind_atomic fun _ =>
    .ite (abandoned.bind_pure _) (atomic.bind_pure _)

/-- The response to a message never fails, and what it tells of is done as a whole. -/
theorem atomic_receiveMessage (room : Nat) (request : Request) :
    Atomic (receiveMessage room request) := by
  refine (reads_bodyOf room request).bind_atomic fun body => Atomic.bind_pure ?_ _
  exact Atomic.tryCatch ((atomic_withinDeadline (Chat.atomic_handleLoose _ _)).bind_pure _)
    fun _ => respects_pure _

theorem atomic_moveFor (owner : String) (body : TransferBody) : Atomic (moveFor owner body) := by
  unfold moveFor
  split
  · exact Movement.atomic_request _ _ _ _ _
  · exact Movement.atomic_requestTorn _ _ _ _

theorem atomic_transferFor (owner : String) (body : TransferBody) :
    Atomic (transferFor owner body) := by
  have moved := atomic_withinDeadline (atomic_moveFor owner body)
  refine Atomic.tryCatch (moved.bind_sure fun id => ?_) fun _ => respects_pure _
  cases id with
  | none => exact ⟨_, rfl⟩
  | some id => exact ⟨_, rfl⟩

theorem atomic_answer (room : Nat) (tokens : ApiTokens) (request : Request) :
    Atomic (answer room tokens request) := by
  have known : ∀ response, Atomic (pure response : Call Response) :=
    fun response => Reads.atomic (respects_pure response)
  have asked : Atomic (requestTransfer room tokens request) := by
    refine (reads_bodyOf room request).bind_atomic fun body => ?_
    split
    · exact known _
    · refine (reads_ofArithmetic _).bind_atomic fun _ => .ite (known _) (.ite (known _) ?_)
      split
      · exact known _
      · exact atomic_transferFor _ _
  exact .ite (known _) <| .ite (known _) <| .ite (known _) <|
    .ite (atomic_receiveMessage _ _) asked

end Http

/-! ## The command line -/

namespace CommandLine

theorem atomic_orRefused {work : Call Ending} (atomic : Atomic work) :
    Atomic (orRefused work) := by
  refine atomic.tryCatch fun failure => ?_
  split
  · exact respects_throw _
  · exact respects_pure _

/-- A line about what is done is printed without fail. -/
theorem atomic_said {Answer : Type} {work : Call Answer} (atomic : Atomic work)
    (line : Answer → Ending) : Atomic (orRefused (work >>= fun answer => pure (line answer))) :=
  atomic_orRefused (atomic.bind_pure line)

/-- A property of commands that is kept by reading first, and that refusals and failures have. -/
structure IsLenient (property : Call Ending → Prop) : Prop where
  reads : ∀ {Answer : Type} {call : Call Answer} {next : Answer → Call Ending}, Reads call →
    (∀ answer, property (next answer)) → property (call >>= next)
  refused : ∀ complaint, property (pure (.refused complaint))
  thrown : ∀ failure, property (throw failure)

namespace IsLenient

variable {property : Call Ending → Prop} (lenient : IsLenient property)

include lenient

theorem withOwner {owner : Option String} {andThen : String → Call Ending}
    (each : ∀ owner, property (andThen owner)) : property (withOwner owner andThen) := by
  unfold CommandLine.withOwner
  split
  · exact each _
  · exact lenient.refused _

theorem withDate {text : Option String} {andThen : Option Date → Call Ending}
    (each : ∀ date, property (andThen date)) : property (withDate text andThen) := by
  unfold CommandLine.withDate
  split
  · exact each none
  · refine lenient.reads respects_get fun world => ?_
    split
    · exact each _
    · exact lenient.refused _
    · exact lenient.thrown _
    · exact lenient.thrown _
    · exact lenient.thrown _

theorem withAccount {owner text : String} {andThen : Int → Call Ending}
    (each : ∀ id, property (andThen id)) : property (withAccount owner text andThen) := by
  have found : Reads (Except.ok (ε := Failure) <$> Account.resolve owner text) :=
    (Account.reads_resolve _ _).map _
  refine lenient.reads (found.tryCatch fun failure => ?_) fun account => ?_
  · split
    · exact respects_pure _
    · exact respects_pure _
    · exact respects_throw _
  · cases account with
    | ok id => exact each id
    | error failure => exact lenient.refused _

theorem withAccount? {owner : String} {text : Option String} {andThen : Option Int → Call Ending}
    (each : ∀ id, property (andThen id)) : property (withAccount? owner text andThen) := by
  unfold CommandLine.withAccount?
  split
  · exact lenient.withAccount fun id => each (some id)
  · exact each none

/-- A category that a text names is one of those at hand. -/
theorem withCategory {categories : List Category} {text : Option String}
    {andThen : Option Category → Call Ending}
    (each : ∀ category, (∀ chosen, category = some chosen → chosen ∈ categories) →
      property (andThen category)) : property (withCategory categories text andThen) := by
  unfold CommandLine.withCategory
  split
  · exact each none (by simp)
  · simp only
    split
    next category found =>
      refine each _ ?_
      rintro chosen ⟨⟩
      exact List.mem_of_find?_eq_some found
    next => exact lenient.refused _

/-- What is asked for as a transfer is posted as one. -/
theorem addTransfer {context : OwnerContext} {words : EntryWords} {amount : Decimal}
    (posts : ∀ draft : TransferDraft, draft.amount = amount →
      property (postDraft context (.transfer draft))) :
    property (addTransfer context words amount) := by
  unfold CommandLine.addTransfer
  split
  · split_ifs
    · exact lenient.refused _
    · exact lenient.withAccount fun _ => lenient.withAccount fun _ => posts _ rfl
  · exact lenient.refused _

/-- What is asked for as an entry is posted as one, with a category at hand. -/
theorem addSingle {context : OwnerContext} {words : EntryWords} {amount : Decimal}
    {date : Option Date}
    (posts : ∀ draft : EntryDraft, draft.amount = amount →
      (∀ category, draft.category = some category → category ∈ context.categories) →
      property (postDraft context (.entry draft))) :
    property (addSingle context words amount date) :=
  lenient.withAccount? fun _ => lenient.withCategory fun _ member => posts _ rfl member

end IsLenient

theorem isLenient_atomic : IsLenient Atomic :=
  ⟨Reads.bind_atomic, fun _ => Reads.atomic (respects_pure _),
    fun _ => Reads.atomic (respects_throw _)⟩

theorem atomic_addEntry (owner : String) (words : EntryWords) :
    Atomic (addEntry owner words) := by
  have posted : ∀ context draft, Atomic (postDraft context draft) :=
    fun context draft => atomic_said (draft.atomic_post context) _
  unfold addEntry
  split
  · exact Reads.atomic (respects_pure _)
  · exact isLenient_atomic.withDate fun _ => (Account.reads_list _ _).bind_atomic fun _ =>
      (Category.reads_list _).bind_atomic fun _ =>
        .ite (isLenient_atomic.addTransfer fun _ _ => posted _ _)
          (isLenient_atomic.addSingle fun _ _ _ => posted _ _)

theorem atomic_runInvocation (environment : Environment) (site : Site) (invocation : Invocation) :
    Atomic (invocation.run environment site) := by
  have ended : ∀ ending, Atomic (pure ending : Call Ending) :=
    fun ending => Reads.atomic (respects_pure ending)
  have owned : ∀ {owner : Option String} {andThen : String → Call Ending},
      (∀ owner, Atomic (andThen owner)) → Atomic (withOwner owner andThen) :=
    isLenient_atomic.withOwner
  rcases invocation with ⟨owner, databaseUrl, command⟩
  cases command with
  | createAccount name kind balance =>
      refine owned fun owner => ?_
      unfold createAccount
      split
      · exact ended _
      · exact atomic_said (Account.atomic_create _ _ _ _) _
  | listAccounts =>
      refine owned fun owner => (Account.reads_list _ _).bind_atomic fun accounts => ?_
      cases accounts with
      | nil => exact ended _
      | cons account rest => exact ended _
  | createCategory name kind =>
      exact owned fun owner => atomic_said (Category.atomic_create _ _ _) _
  | listCategories =>
      refine owned fun owner => (Category.reads_list _).bind_atomic fun categories => ?_
      cases categories with
      | nil => exact ended _
      | cons category rest => exact ended _
  | createCard name brand limit closingDay dueDay =>
      refine owned fun owner => ?_
      unfold createCard
      split
      · exact ended _
      · exact atomic_said (Card.atomic_create _ _ _ _ _ _) _
  | bindChat chat => exact owned fun owner => atomic_said (Binding.atomic_assign _ _) _
  | sendMessage text chat => exact (Chat.atomic_handle _ _).bind_pure _
  | addEntry words => exact owned fun owner => atomic_addEntry _ _
  | serve host socket =>
      simp only [Invocation.run, serve]
      split
      · exact ended _
      · exact .ite (Reads.atomic (respects_throw _)) (ended _)

theorem atomic_run (environment : Environment) (site : Site) (words : List String) :
    Atomic (run environment site words) := by
  unfold run
  split
  · exact (atomic_runInvocation _ _ _).map _
  · exact Reads.atomic (respects_pure _)
  · exact Reads.atomic (respects_pure _)

end CommandLine

end Cashbook
