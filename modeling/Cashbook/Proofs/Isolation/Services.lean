import Cashbook.Proofs.Chat.Confirmation
import Cashbook.Proofs.Ledger.Sharing
import Cashbook.Proofs.Service.TransferRequests

/-!
# Services on ledgers that share the rows of an owner

What an owner asks for, in a chat or by a request that bears the owner's token, is answered alike on
ledgers that share the owner's rows, because each step of the answer is.
-/

namespace Cashbook

open Call Money

variable {owner : String} {rows : Ledger → Ledger → Prop}

/-! ## Requests -/

namespace Movement

theorem keeps_validate (movement : Movement) :
    Keeps (World.Shares movement.owner) movement.validate := by
  have amount : Keeps (World.Shares movement.owner) (checkAmount movement.amount) :=
    (keeps_ofArithmetic _).bind_same fun _ => .ite (parallel_throw _)
      (.ite (parallel_throw _) (keeps_pure _))
  refine amount.bind_same fun _ => .ite (parallel_throw _) <|
    (Account.keeps_among _).bind_same fun accounts => .ite (parallel_throw _) ?_
  split
  · exact parallel_throw _
  · exact (keeps_ofArithmetic _).bind_same fun _ => .ite (parallel_throw _) (keeps_pure _)

/-- A transfer is done or refused alike, whatever number it is given. -/
theorem parallel_request (owner : String) (source target : Int) (amount : Option Decimal)
    (description : Option String) :
    Parallel (World.Shares owner) (fun _ _ => True) (World.Shares owner)
      (request owner source target amount description)
      (request owner source target amount description) := by
  cases amount with
  | none => exact parallel_throw _
  | some amount =>
      rw [request_eq]
      refine (keeps_validate ⟨owner, source, target, amount⟩).bind_same fun _ =>
        parallel_get.bind fun world other beside => ?_
      rw [beside.today]
      exact Transfer.parallel_executeWith _ (Transfer.parallel_writeRows _ _ _)

theorem parallel_requestTorn (owner : String) (source target : Int) (amount : Option Decimal) :
    Parallel (World.Shares owner) (fun _ _ => True) (World.Shares owner)
      (requestTorn owner source target amount) (requestTorn owner source target amount) := by
  cases amount with
  | none => exact parallel_throw _
  | some amount =>
      rw [requestTorn_eq]
      exact (keeps_validate ⟨owner, source, target, amount⟩).bind_same fun _ =>
        Transfer.parallel_executeWith _ (parallel_throw _)

end Movement

theorem OwnerContext.parallel_load
    (shares : ∀ ledger other, rows ledger other → ledger.Shares owner other) :
    Parallel (World.Beside rows) (fun context other => context = other ∧ context.owner = owner)
      (World.Beside rows)
      (OwnerContext.load owner) (OwnerContext.load owner) :=
  (Account.keeps_list shares _).bind_same fun _ => (Category.keeps_list shares).bind_same fun _ =>
    parallel_pure ⟨rfl, rfl⟩

namespace EntryDraft

/-- The entries of a draft are all of one owner. -/
theorem owner_of_schedule {draft : EntryDraft} {account : Option Int} {group : Option String}
    {today : Date} {entries : List NewEntry}
    (scheduled : draft.schedule owner account group today = .ok entries) :
    ∀ entry ∈ entries, entry.owner = owner := by
  unfold schedule at scheduled
  generalize draft.date.getD today = base, draft.installments.toNat = count, 1 = index at scheduled
  induction count generalizing index entries with
  | zero =>
      cases scheduled
      simp
  | succ count ih =>
      rw [entriesFrom] at scheduled
      cases date_eq : base.addMonths (index - 1 : Int) with
      | error error => simp [date_eq, bind, Except.bind] at scheduled
      | ok date =>
          cases rest_eq : draft.entriesFrom owner account group today base count (index + 1) with
          | error error => simp [date_eq, rest_eq, bind, Except.bind] at scheduled
          | ok rest =>
              simp only [date_eq, rest_eq, bind, Except.bind, pure, Except.pure,
                Except.ok.injEq] at scheduled
              subst scheduled
              rw [List.forall_mem_cons]
              exact ⟨rfl, ih _ rest_eq⟩

/-- A name for a series comes from the clock alone. -/
theorem keeps_nameGroup : Keeps (World.Beside rows) nameGroup := by
  intro first second beside
  have counted : second.groupsNamed = first.groupsNamed := by rw [beside.same]
  change EndsAlike Eq (World.Beside rows) (.ok ("group-" ++ Wording.number (first.groupsNamed + 1))
      { first with groupsNamed := first.groupsNamed + 1 })
    (.ok ("group-" ++ Wording.number (second.groupsNamed + 1))
      { second with groupsNamed := second.groupsNamed + 1 })
  rw [counted]
  refine .ok rfl ⟨beside.faultless, ?_, beside.rows⟩
  rw [beside.same]

theorem parallel_rows (draft : EntryDraft) (account : Option Int) :
    Parallel (World.Beside rows)
      (fun entries others => entries = others ∧ ∀ entry ∈ entries, entry.owner = owner)
      (World.Beside rows) (draft.rows owner account) (draft.rows owner account) := by
  have scheduled : ∀ group, Parallel (World.Beside rows)
      (fun entries others => entries = others ∧ ∀ entry ∈ entries, entry.owner = owner)
      (World.Beside rows)
      (do
        let world ← get
        ofCalendar (draft.schedule owner account group world.today))
      (do
        let world ← get
        ofCalendar (draft.schedule owner account group world.today)) := by
    intro group
    refine parallel_get.bind fun world other beside => ?_
    rw [beside.today]
    cases entries_eq : draft.schedule owner account group world.today with
    | ok entries => exact parallel_pure ⟨rfl, owner_of_schedule entries_eq⟩
    | error error => exact parallel_throw _
  have named : Keeps (World.Beside rows) (some <$> nameGroup) :=
    keeps_nameGroup.map fun _ _ => congrArg some
  exact .ite (named.bind_same scheduled) ((keeps_pure none).bind_same scheduled)

/-- A draft is posted or refused alike. -/
theorem keeps_post (draft : EntryDraft) (context : OwnerContext) :
    Keeps (World.Shares context.owner) (draft.post context) := by
  have check : Keeps (World.Shares context.owner) draft.check :=
    (keeps_ofArithmetic _).bind_same fun _ => .ite (parallel_throw _) <|
      .ite (parallel_throw _) (.ite (parallel_throw _) (keeps_pure _))
  have account : Keeps (World.Shares context.owner) (draft.accountFor context) := by
    unfold accountFor
    split
    · refine (Account.keeps_find _).bind_same fun account => ?_
      cases account with
      | none => exact parallel_throw _
      | some account => exact keeps_pure _
    · exact keeps_pure _
    · split
      · exact keeps_pure _
      · exact parallel_throw _
  have card : Keeps (World.Shares context.owner) (draft.checkCard context.owner) := by
    unfold checkCard
    split
    · exact (Card.keeps_find _).bind_same fun _ => .ite (parallel_throw _) (keeps_pure _)
    · exact keeps_pure _
  have written : ∀ entries : List NewEntry, (∀ entry ∈ entries, entry.owner = context.owner) →
      Keeps (World.Shares context.owner) (discard (Entry.record entries)) :=
    fun entries of_entries => (Entry.parallel_record of_entries).map fun _ _ _ => rfl
  refine check.bind_same fun _ => account.bind_same fun _ => card.bind_same fun _ =>
    (parallel_rows draft _).bind ?_
  rintro entries _ ⟨rfl, of_entries⟩
  refine .ite (Parallel.bind_same ?_ fun _ => keeps_pure _)
    ((written entries of_entries).bind_same fun _ => keeps_pure _)
  refine (written entries of_entries).tryCatch fun failure => ?_
  split
  · exact parallel_throw _
  · exact parallel_throw _

end EntryDraft

/-! ## Chats -/

namespace Chat

variable {message : Message} {rules : List KeywordRule} {context : OwnerContext} {world : World}

theorem keeps_postDraft (draft : EntryDraft) (context : OwnerContext) :
    Keeps (World.Shares context.owner) (postDraft context draft) := by
  refine ((draft.keeps_post context).bind_same fun _ => keeps_pure _).tryCatch fun failure => ?_
  split
  · exact parallel_throw _
  · exact keeps_pure _

/-- What a message asks for is answered alike where the owner's entries agree as well, since the
report sums them up. -/
theorem parallel_answer (context : OwnerContext) (rules : List KeywordRule) (intent : Intent) :
    Parallel (World.Agrees context.owner) Eq (World.Shares context.owner)
      (answer context rules intent) (answer context rules intent) := by
  have weaken : ∀ first second : World, first.Agrees context.owner second →
      first.Shares context.owner second :=
    fun _ _ beside => beside.mono fun _ _ agrees => agrees.toShares
  have said : ∀ {call : Call Reply}, Keeps (World.Shares context.owner) call →
      Parallel (World.Agrees context.owner) Eq (World.Shares context.owner) call call :=
    fun keeps => keeps.mono weaken fun _ _ together => together
  cases intent with
  | addExpense amount description hint => exact said (keeps_postDraft _ _)
  | balance => exact said ((keeps_ofArithmetic _).bind_same fun _ => keeps_pure _)
  | report =>
      -- Only here entries are read, so that sharing the other rows would not do.
      have reported : Keeps (World.Agrees context.owner) (answer context rules .report) := by
        refine parallel_get.bind fun world other beside => ?_
        rw [beside.today]
        exact (MonthlyReport.keeps_load _).bind_same fun _ =>
          (keeps_ofArithmetic _).bind_same fun _ => keeps_pure _
      exact reported.mono (fun _ _ together => together) weaken
  | help => exact said (keeps_pure _)
  | malformed complaint => exact said (keeps_pure _)
  | freeText text =>
      apply said
      simp only [answer]
      split
      · exact keeps_postDraft _ _
      · exact keeps_pure _

theorem bindingOf_of_faultless (faultless : world.fault = none) :
    bindingOf message world = .ok (message.binding? world.ledger) world := by
  unfold bindingOf Message.binding?
  cases message.chat with
  | none => rfl
  | some chat =>
      dsimp only
      by_cases nameless : chat = ""
      · rw [if_pos nameless]
        change _ = EStateM.Result.ok (if chat = "" then none else _) world
        rw [if_pos nameless]
        rfl
      · rw [if_neg nameless]
        change _ = EStateM.Result.ok (if chat = "" then none else _) world
        rw [if_neg nameless]
        exact bind_of_ok (failAt_of_faultless faultless _ _)

/-- Do two ledgers agree on the rows of an owner, and does a chat speak for this owner or for nobody
in both of them? -/
structure Message.Agrees (message : Message) (owner : String) (first second : Ledger) : Prop
    extends Ledger.Agrees owner first second where
  bound : message.binding? second = message.binding? first
  own : ∀ binding ∈ message.binding? first, binding.owner = owner

/-- A message is answered alike where the rows of its owner agree. -/
theorem parallel_respond (message : Message) (rules : List KeywordRule) :
    Parallel (World.Beside (message.Agrees owner)) Eq (World.Shares owner) (respond message rules)
      (respond message rules) := by
  have shares : ∀ ledger other, message.Agrees owner ledger other → ledger.Shares owner other :=
    fun _ _ agrees => agrees.toShares
  have weaken : ∀ first second : World, first.Beside (message.Agrees owner) second →
      first.Shares owner second := fun _ _ beside => beside.mono shares
  have found : Parallel (World.Beside (message.Agrees owner))
      (fun bound other => bound = other ∧ ∀ binding ∈ bound, binding.owner = owner)
      (World.Beside (message.Agrees owner)) (bindingOf message) (bindingOf message) := by
    intro first second beside
    rw [bindingOf_of_faultless beside.faultless, bindingOf_of_faultless beside.second_faultless]
    exact .ok ⟨beside.rows.bound.symm, beside.rows.own⟩ beside
  refine .ite ((keeps_pure _).mono (fun _ _ together => together) weaken)
    (found.bind_weaker weaken ?_)
  rintro bound _ ⟨rfl, own⟩
  cases bound with
  | none => exact (keeps_pure _).mono (fun _ _ together => together) weaken
  | some binding =>
      obtain rfl := own binding rfl
      refine (OwnerContext.parallel_load shares).bind_weaker weaken ?_
      rintro context _ ⟨rfl, own_context⟩
      rw [← own_context]
      refine (parallel_answer _ _ _).mono (fun _ _ beside => ?_) fun _ _ related => related
      exact beside.mono fun _ _ agrees => own_context ▸ agrees.toAgrees

theorem parallel_handle (message : Message) (rules : List KeywordRule) :
    Parallel (World.Beside (message.Agrees owner)) Eq (World.Shares owner) (handle message rules)
      (handle message rules) :=
  (parallel_respond message rules).tryCatch fun _ => keeps_pure _

end Chat

/-! ## Requests for transfers -/

namespace Http

variable {tokens : ApiTokens} {request : Request}

/-- Are two responses the same but for the numbers of the transfers that they tell of? -/
def SameButNumber (first second : Response) : Prop :=
  first = second ∨ ∃ id other, first = transferResponse id ∧ second = transferResponse other

/-- Work is done in time where nothing shows. -/
theorem parallel_withinDeadline {Answer : Type} {answers : Answer → Answer → Prop}
    {work : Call Answer}
    (same : Parallel (World.Beside rows) answers (World.Beside rows) work work) :
    Parallel (World.Beside rows)
      (fun done other => ∃ answer otherAnswer, done = some answer ∧ other = some otherAnswer
        ∧ answers answer otherAnswer)
      (World.Beside rows) (withinDeadline work) (withinDeadline work) := by
  refine (keeps_failAt _ _).bind_same fun _ => (parallel_visit _).bind ?_
  rintro _ _ ⟨rfl, rfl⟩
  exact same.bind fun _ _ together => parallel_pure ⟨_, _, rfl, rfl, together⟩

theorem parallel_transferFor (owner : String) (body : TransferBody) :
    Parallel (World.Shares owner) SameButNumber (World.Shares owner) (transferFor owner body)
      (transferFor owner body) := by
  have moved : Parallel (World.Shares owner) (fun _ _ => True) (World.Shares owner)
      (moveFor owner body) (moveFor owner body) := by
    unfold moveFor
    split
    · exact Movement.parallel_request _ _ _ _ _
    · exact Movement.parallel_requestTorn _ _ _ _
  refine Parallel.tryCatch ((parallel_withinDeadline moved).bind ?_) fun failure =>
    parallel_pure (.inl rfl)
  rintro _ _ ⟨id, other, rfl, rfl, -⟩
  exact parallel_pure (.inr ⟨id, other, rfl, rfl⟩)

/-- A request that bears the token of an owner is answered alike on ledgers that share the owner's
rows. -/
theorem parallel_requestTransfer (room : Nat) (bearer : authenticate tokens request = .ok owner) :
    Parallel (World.Shares owner) SameButNumber (World.Shares owner)
      (requestTransfer room tokens request) (requestTransfer room tokens request) := by
  have body : Keeps (World.Shares owner) (bodyOf room request) := by
    unfold bodyOf
    split
    · exact keeps_pure _
    · exact keeps_pure _
    · exact parallel_throw _
  -- The ledger is asked last: until then both runs decide by the request alone.
  refine body.bind_same fun value => ?_
  split
  · exact parallel_pure (.inl rfl)
  · refine (keeps_ofArithmetic _).bind_same fun _ => .ite (parallel_pure (.inl rfl))
      (.ite (parallel_pure (.inl rfl)) ?_)
    rw [bearer]
    exact parallel_transferFor _ _

end Http

end Cashbook
