import Cashbook.CommandLine.Run
import Cashbook.Proofs.Naming.Ledger
import Cashbook.Proofs.Posting.Requests
import Cashbook.Service.Endpoints

/-!
# Names of series in requests

A draft of a series is posted under the name that comes next.  Everything else that is asked for,
in a chat, over the network or at the command line, does the same whatever the names.
-/

namespace Cashbook.Renaming

open Call Money

variable {first shift : Nat} {exchange : Renaming first shift}

/-! ## Posting -/

theorem ignores_loadContext (owner : String) : exchange.Ignores (OwnerContext.load owner) :=
  (ignores_listAccounts _ _).bind fun _ => (ignores_listCategories _).bind fun _ => matches_pure _

theorem ignores_validate (movement : Movement) : exchange.Ignores movement.validate := by
  have amount : exchange.Ignores (Movement.checkAmount movement.amount) :=
    (ignores_ofArithmetic _).bind fun _ => .ite (matches_throw _)
      (.ite (matches_throw _) (matches_pure _))
  have accounts : exchange.Ignores movement.checkAccounts := by
    refine .ite (matches_throw _) <| (ignores_among _ _).bind fun accounts =>
      .ite (matches_throw _) ?_
    simp only [id_eq]
    split
    · exact matches_throw _
    · exact (ignores_ofArithmetic _).bind fun _ => .ite (matches_throw _) (matches_pure _)
  exact amount.bind fun _ => accounts

theorem ignores_requestWith {execute : Movement → Call Int}
    (executes : ∀ movement, exchange.Ignores (execute movement)) (owner : String)
    (source target : Int) (amount : Option Decimal) :
    exchange.Ignores (Movement.requestWith execute owner source target amount) := by
  cases amount with
  | none => exact matches_throw _
  | some amount =>
      rw [Movement.requestWith_eq]
      exact (ignores_validate _).bind fun _ => executes _

theorem ignores_request (owner : String) (source target : Int) (amount : Option Decimal)
    (description : Option String) :
    exchange.Ignores (Movement.request owner source target amount description) := by
  have executed : ∀ movement, exchange.Ignores (do
      let world ← get
      Transfer.execute movement (Movement.describe description) world.today) :=
    fun movement => matches_get.bind fun _ => ignores_execute movement _ _
  exact ignores_requestWith executed owner source target amount

theorem ignores_requestTorn (owner : String) (source target : Int) (amount : Option Decimal) :
    exchange.Ignores (Movement.requestTorn owner source target amount) :=
  ignores_requestWith (ignores_executeWith (matches_throw _)) owner source target amount

/-- The name that comes next is moved on with all names to come. -/
theorem matches_nameGroup :
    exchange.Matches exchange.rename EntryDraft.nameGroup EntryDraft.nameGroup := by
  intro world started
  have later : first < world.groupsNamed + 1 := by omega
  refine ⟨?_, later.le⟩
  have moved := exchange.rename_groupName _ later
  have count : world.groupsNamed + shift + 1 = world.groupsNamed + 1 + shift := by omega
  change EStateM.Result.ok (groupName (world.groupsNamed + shift + 1)) _
    = EStateM.Result.ok (exchange.rename (groupName (world.groupsNamed + 1))) _
  rw [moved, count]
  simp only [Renaming.world]
  rw [count]

/-- The entries of a draft have the name of their series. -/
theorem schedule_map (draft : EntryDraft) (owner : String) (account : Option Int)
    (group : Option String) (today : Date) :
    draft.schedule owner account (group.map exchange.rename) today
      = (draft.schedule owner account group today).map (List.map exchange.newEntry) := by
  unfold EntryDraft.schedule
  generalize draft.date.getD today = base
  generalize draft.installments.toNat = count
  generalize 1 = index
  induction count generalizing index with
  | zero => rfl
  | succ count ih =>
      have entry_eq : ∀ date,
          draft.entryAt owner account (group.map exchange.rename) today date index
          = exchange.newEntry (draft.entryAt owner account group today date index) := by
        intro date
        unfold EntryDraft.entryAt EntryDraft.placeOf Renaming.newEntry Renaming.installment
        split_ifs <;> rfl
      rw [EntryDraft.entriesFrom, EntryDraft.entriesFrom]
      cases base.addMonths (index - 1 : Int) with
      | error error => rfl
      | ok date =>
          simp only [bind, Except.bind, ih]
          cases draft.entriesFrom owner account group today base count (index + 1) with
          | error error => rfl
          | ok rest => simp only [Except.map, pure, Except.pure, entry_eq, List.map_cons]

theorem matches_rows (draft : EntryDraft) (owner : String) (account : Option Int) :
    exchange.Matches (List.map exchange.newEntry) (draft.rows owner account)
      (draft.rows owner account) := by
  have scheduled : ∀ group : Option String, exchange.Matches (List.map exchange.newEntry)
      (do
        let world ← get
        ofCalendar (draft.schedule owner account group world.today))
      (do
        let world ← get
        ofCalendar (draft.schedule owner account (group.map exchange.rename) world.today)) := by
    intro group
    refine matches_get.bind fun world => ?_
    rw [schedule_map]
    change exchange.Matches _ (ofCalendar (draft.schedule owner account group world.today))
      (ofCalendar ((draft.schedule owner account group world.today).map _))
    cases draft.schedule owner account group world.today with
    | ok rows => exact matches_pure _
    | error error => exact matches_throw _
  have named : exchange.Matches (Option.map exchange.rename) (some <$> EntryDraft.nameGroup)
      (some <$> EntryDraft.nameGroup) := matches_nameGroup.map fun _ => rfl
  have unnamed : exchange.Matches (Option.map exchange.rename) (pure none) (pure none) :=
    matches_pure none
  exact .ite (named.bind scheduled) (unnamed.bind scheduled)

/-- A draft is posted whatever the names when what writes it moves them on. -/
theorem ignores_postWith {record : List NewEntry → Call (List Int)}
    (records : ∀ entries, exchange.Matches id (record entries)
      (record (entries.map exchange.newEntry))) (draft : EntryDraft) (context : OwnerContext) :
    exchange.Ignores (draft.postWith record context) := by
  have check : exchange.Ignores draft.check :=
    (ignores_ofArithmetic _).bind fun _ => .ite (matches_throw _) <|
      .ite (matches_throw _) (.ite (matches_throw _) (matches_pure _))
  have account : exchange.Ignores (draft.accountFor context) := by
    unfold EntryDraft.accountFor
    split
    · refine (ignores_findAccount _ _).bind fun account => ?_
      cases account with
      | none => exact matches_throw _
      | some account => exact matches_pure _
    · exact matches_pure _
    · split
      · exact matches_pure _
      · exact matches_throw _
  have card : exchange.Ignores (draft.checkCard context.owner) := by
    unfold EntryDraft.checkCard
    split
    · exact (ignores_findCard _ _).bind fun _ => .ite (matches_throw _) (matches_pure _)
    · exact matches_pure _
  have written : ∀ rows, exchange.Matches id (discard (record rows))
      (discard (record (rows.map exchange.newEntry))) :=
    fun rows => (records rows).map fun _ => rfl
  have series : ∀ rows : List NewEntry, exchange.Matches id
      (EntryDraft.recordSeries record context.owner rows)
      (EntryDraft.recordSeries record context.owner (rows.map exchange.newEntry)) := by
    intro rows
    refine (written rows).tryCatch fun failure => ?_
    rw [List.length_map]
    split <;> exact matches_throw _
  exact check.bind fun _ => account.bind fun _ => card.bind fun _ => (matches_rows _ _ _).bind
    fun rows => .ite ((series rows).bind fun _ => matches_pure _)
      ((written rows).bind fun _ => matches_pure _)

theorem ignores_post (draft : Draft) (context : OwnerContext) :
    exchange.Ignores (draft.post context) := by
  cases draft with
  | entry draft => exact ignores_postWith matches_record draft context
  | transfer draft =>
      exact (ignores_request _ _ _ _ _).bind fun _ => (ignores_among _ _).bind fun _ =>
        matches_pure _

/-! ## Chats -/

theorem ignores_orTold {post : Call String} (same : exchange.Ignores post) :
    exchange.Ignores (Chat.orTold post) := by
  refine Matches.tryCatch (same.bind fun _ => matches_pure _) fun failure => ?_
  split
  · exact matches_throw _
  · exact matches_pure _

theorem ignores_answer (context : OwnerContext) (rules : List Chat.KeywordRule)
    (intent : Chat.Intent) : exchange.Ignores (Chat.answer context rules intent) := by
  have post : ∀ draft, exchange.Ignores (Chat.postDraft context draft) :=
    fun draft => ignores_orTold (ignores_postWith matches_record draft context)
  cases intent with
  | addExpense amount description hint => exact post _
  | balance => exact (ignores_ofArithmetic _).bind fun _ => matches_pure _
  | report =>
      exact matches_get.bind fun _ => (ignores_report _ _).bind fun _ =>
        (ignores_ofArithmetic _).bind fun _ => matches_pure _
  | help => exact matches_pure _
  | malformed complaint => exact matches_pure _
  | freeText text =>
      simp only [Chat.answer]
      split
      · exact post _
      · exact matches_pure _

theorem ignores_answerTorn (context : OwnerContext) (rules : List Chat.KeywordRule)
    (intent other : Chat.Intent) :
    exchange.Ignores (Chat.answerTorn context rules intent other) := by
  have torn : ∀ draft : EntryDraft, exchange.Ignores (Chat.orTold (draft.postTorn context)) :=
    fun draft => ignores_orTold (ignores_postWith matches_recordTorn draft context)
  unfold Chat.answerTorn
  split
  · exact .ite (ignores_answer _ _ _) (torn _)
  · split
    · exact torn _
    · exact matches_pure _
  · exact ignores_answer _ _ _

theorem ignores_bindingOf (message : Chat.Message) :
    exchange.Ignores (Chat.bindingOf message) := by
  unfold Chat.bindingOf
  split
  · exact .ite (matches_pure _) (ignores_findBinding _)
  · exact matches_pure _

theorem ignores_respondWith {text : List Char} {bound : Call (Option Binding)}
    {answer : OwnerContext → Call Chat.Reply} (looks : exchange.Ignores bound)
    (answers : ∀ context, exchange.Ignores (answer context)) :
    exchange.Ignores (Chat.respondWith text bound answer) := by
  refine .ite (matches_pure _) (looks.bind fun binding => ?_)
  cases binding with
  | none => exact matches_pure _
  | some binding => exact (ignores_loadContext _).bind fun _ => answers _

theorem ignores_handle (message : Chat.Message) (rules : List Chat.KeywordRule) :
    exchange.Ignores (Chat.handle message rules) :=
  (ignores_respondWith (ignores_bindingOf _) fun _ => ignores_answer _ _ _).tryCatch fun _ =>
    matches_pure _

theorem ignores_handleLoose (message : Chat.LooseMessage) (rules : List Chat.KeywordRule) :
    exchange.Ignores (Chat.handleLoose message rules) := by
  have bound : exchange.Ignores message.bindingOf := by
    unfold Chat.LooseMessage.bindingOf
    split
    · exact ignores_bindingOf _
    · exact (ignores_failAt _ _).bind fun _ => matches_throw _
  unfold Chat.handleLoose
  split
  · exact ignores_handle _ _
  · exact (ignores_respondWith bound fun _ => ignores_answerTorn _ _ _ _).tryCatch fun _ =>
      matches_pure _

/-! ## The service -/

theorem Matches.withinDeadline {Answer : Type} {work : Call Answer}
    (same : exchange.Ignores work) : exchange.Ignores (Http.withinDeadline work) := by
  have done : exchange.Ignores (discard work) := same.map fun _ => rfl
  exact (ignores_failAt _ _).bind fun _ => (ignores_visit _).bind fun _ =>
    .ite ((done.tryCatch fun _ => matches_pure _).bind fun _ => matches_pure _)
      (same.bind fun _ => matches_pure _)

theorem ignores_httpAnswer (room : Nat) (tokens : ApiTokens) (request : Http.Request) :
    exchange.Ignores (Http.answer room tokens request) := by
  have body : exchange.Ignores (Http.bodyOf room request) := by
    unfold Http.bodyOf
    split
    · exact matches_pure _
    · exact matches_pure _
    · exact matches_throw _
  have reply : ∀ message, exchange.Ignores (Http.replyTo message) := fun message =>
    Matches.tryCatch ((ignores_handleLoose _ _).withinDeadline.bind fun _ => matches_pure _)
      fun _ => matches_pure _
  have moved : ∀ owner body, exchange.Ignores (Http.moveFor owner body) := by
    intro owner body
    unfold Http.moveFor
    split
    · exact ignores_request _ _ _ _ _
    · exact ignores_requestTorn _ _ _ _
  have transfer : ∀ owner body, exchange.Ignores (Http.transferFor owner body) := by
    intro owner body
    refine Matches.tryCatch ((moved owner body).withinDeadline.bind fun id => ?_)
      fun _ => matches_pure _
    cases id with
    | none => exact matches_pure _
    | some id => exact matches_pure _
  have asked : exchange.Ignores (Http.requestTransfer room tokens request) := by
    refine body.bind fun value => ?_
    simp only [id_eq]
    split
    · exact matches_pure _
    · refine (ignores_ofArithmetic _).bind fun _ => .ite (matches_pure _)
        (.ite (matches_pure _) ?_)
      split
      · exact matches_pure _
      · exact transfer _ _
  exact .ite (matches_pure _) <| .ite (matches_pure _) <| .ite (matches_pure _) <|
    .ite (body.bind fun _ => (reply _).bind fun _ => matches_pure _) asked

/-! ## The command line -/

theorem Matches.orRefused {work : Call CommandLine.Ending} (same : exchange.Ignores work) :
    exchange.Ignores (CommandLine.orRefused work) := by
  refine same.tryCatch fun failure => ?_
  split
  · exact matches_throw _
  · exact matches_pure _

theorem ignores_withAccount {owner text : String} {andThen : Int → Call CommandLine.Ending}
    (same : ∀ id, exchange.Ignores (andThen id)) :
    exchange.Ignores (CommandLine.withAccount owner text andThen) := by
  have found : exchange.Ignores (Except.ok (ε := Failure) <$> Account.resolve owner text) :=
    (ignores_resolve _ _).map fun _ => rfl
  refine Matches.bind (found.tryCatch fun failure => ?_) fun account => ?_
  · split
    · exact matches_pure _
    · exact matches_pure _
    · exact matches_throw _
  · cases account with
    | ok id => exact same id
    | error failure => exact matches_pure _

theorem ignores_postDraft (context : OwnerContext) (draft : Draft) :
    exchange.Ignores (CommandLine.postDraft context draft) := by
  have said : exchange.Ignores (do
      return CommandLine.Ending.said (← draft.post context)) :=
    (ignores_post draft context).bind fun _ => matches_pure _
  exact said.orRefused

theorem ignores_addTransfer (context : OwnerContext) (words : CommandLine.EntryWords)
    (amount : Decimal) : exchange.Ignores (CommandLine.addTransfer context words amount) := by
  unfold CommandLine.addTransfer
  split
  · exact .ite (matches_pure _) <| ignores_withAccount fun _ => ignores_withAccount fun _ =>
      ignores_postDraft _ _
  · exact matches_pure _

theorem ignores_addSingle (context : OwnerContext) (words : CommandLine.EntryWords)
    (amount : Decimal) (date : Option Date) :
    exchange.Ignores (CommandLine.addSingle context words amount date) := by
  have posted : ∀ account, exchange.Ignores
      (CommandLine.withCategory context.categories words.category fun category =>
        CommandLine.postDraft context (.entry {
          amount := amount
          description := words.description
          category := category
          kind := words.kind
          date := date
          installments := words.installments
          account := account
          card := words.card })) := by
    intro account
    unfold CommandLine.withCategory
    split
    · exact ignores_postDraft _ _
    · simp only
      split
      · exact ignores_postDraft _ _
      · exact matches_pure _
  unfold CommandLine.addSingle CommandLine.withAccount?
  split
  · exact ignores_withAccount fun id => posted (some id)
  · exact posted none

theorem ignores_withDate {text : Option String} {andThen : Option Date → Call CommandLine.Ending}
    (same : ∀ date, exchange.Ignores (andThen date)) :
    exchange.Ignores (CommandLine.withDate text andThen) := by
  unfold CommandLine.withDate
  split
  · exact same none
  · refine matches_get.bind fun world => ?_
    rw [show (exchange.world world).today = world.today from rfl]
    split
    · exact same _
    · exact matches_pure _
    · exact matches_throw _
    · exact matches_throw _
    · exact matches_throw _

theorem ignores_addEntry (owner : String) (words : CommandLine.EntryWords) :
    exchange.Ignores (CommandLine.addEntry owner words) := by
  unfold CommandLine.addEntry
  split
  · exact matches_pure _
  · exact ignores_withDate fun _ => (ignores_listAccounts _ _).bind fun _ =>
      (ignores_listCategories _).bind fun _ =>
        .ite (ignores_addTransfer _ _ _) (ignores_addSingle _ _ _ _)

theorem ignores_runInvocation (environment : Environment) (site : Site)
    (invocation : CommandLine.Invocation) :
    exchange.Ignores (invocation.run environment site) := by
  have owned : ∀ {owner : Option String} {andThen : String → Call CommandLine.Ending},
      (∀ owner, exchange.Ignores (andThen owner)) →
        exchange.Ignores (CommandLine.withOwner owner andThen) := by
    intro owner andThen same
    unfold CommandLine.withOwner
    split
    · exact same _
    · exact matches_pure _
  rcases invocation with ⟨owner, databaseUrl, command⟩
  cases command with
  | createAccount name kind balance =>
      refine owned fun owner => ?_
      unfold CommandLine.createAccount
      split
      · exact matches_pure _
      · exact Matches.orRefused ((ignores_createAccount _ _ _ _).bind fun _ => matches_pure _)
  | listAccounts =>
      refine owned fun owner => (ignores_listAccounts _ _).bind fun accounts => ?_
      cases accounts with
      | nil => exact matches_pure _
      | cons account rest => exact matches_pure _
  | createCategory name kind =>
      exact owned fun owner =>
        Matches.orRefused ((ignores_createCategory _ _ _).bind fun _ => matches_pure _)
  | listCategories =>
      refine owned fun owner => (ignores_listCategories _).bind fun categories => ?_
      cases categories with
      | nil => exact matches_pure _
      | cons category rest => exact matches_pure _
  | createCard name brand limit closingDay dueDay =>
      refine owned fun owner => ?_
      unfold CommandLine.createCard
      split
      · exact matches_pure _
      · exact Matches.orRefused ((ignores_createCard _ _ _ _ _ _).bind fun _ => matches_pure _)
  | bindChat chat =>
      exact owned fun owner =>
        Matches.orRefused ((ignores_assign _ _).bind fun _ => matches_pure _)
  | sendMessage text chat => exact (ignores_handle _ _).bind fun _ => matches_pure _
  | addEntry words => exact owned fun owner => ignores_addEntry _ _
  | serve host socket =>
      simp only [CommandLine.Invocation.run, CommandLine.serve]
      split
      · exact matches_pure _
      · exact .ite (matches_throw _) (matches_pure _)

theorem ignores_runWords (environment : Environment) (site : Site)
    (words : List String) : exchange.Ignores (CommandLine.run environment site words) := by
  unfold CommandLine.run
  split
  · exact (ignores_runInvocation _ _ _).map fun _ => rfl
  · exact matches_pure _
  · exact matches_pure _

end Cashbook.Renaming
