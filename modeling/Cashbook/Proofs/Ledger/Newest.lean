import Cashbook.Proofs.CommandLine.Escapes
import Cashbook.Proofs.Ledger.Accounts
import Cashbook.Proofs.Posting.Outcome

/-!
# The newest accounts

An account is written behind all others, with a larger number and at the moment that the clock
shows.  So while the clock does not go back, the order of the table is the order of numbers and that
of age, whatever is asked for and wherever storage fails.  Listing therefore shows the accounts in
use by descending numbers; what is spent in a chat leaves the first of them, and the balances that a
chat shows are those of the first five.
-/

namespace Cashbook

open Call Money

namespace Ledger

variable {before after ledger : Ledger} {owner : String} {now later : Instant} {account : Account}

/-! ## Accounts in the order of their age -/

/-- Do the accounts of a ledger stand in the order of their numbers and of their age, with none from
after a moment? -/
structure IsChronological (ledger : Ledger) (now : Instant) : Prop where
  ordered : ledger.accounts.Pairwise fun older newer =>
    older.id < newer.id ∧ older.writtenAt.rank ≤ newer.writtenAt.rank
  past : ∀ account ∈ ledger.accounts, account.writtenAt.rank ≤ now.rank

theorem isChronological_empty (now : Instant) : empty.IsChronological now :=
  ⟨.nil, by simp [empty]⟩

/-- The order can be told from the origins of the accounts. -/
theorem isChronological_iff_origins :
    ledger.IsChronological now ↔
      (ledger.origins.Pairwise fun older newer =>
        older.1 < newer.1 ∧ older.2.rank ≤ newer.2.rank)
      ∧ ∀ origin ∈ ledger.origins, origin.2.rank ≤ now.rank := by
  rw [origins, List.pairwise_map, List.forall_mem_map]
  exact ⟨fun holds => ⟨holds.ordered, holds.past⟩, fun holds => ⟨holds.1, holds.2⟩⟩

/-- What is past stays so. -/
theorem IsChronological.mono (chronological : ledger.IsChronological now)
    (forward : now.rank ≤ later.rank) : ledger.IsChronological later :=
  ⟨chronological.ordered, fun account member =>
    (chronological.past account member).trans forward⟩

/-- New accounts with new numbers come last in either order. -/
theorem Opens.isChronological (opens : Opens now before after)
    (chronological : before.IsChronological now) : after.IsChronological now := by
  rcases opens with ⟨ids, new, origins_eq⟩
  rw [isChronological_iff_origins] at chronological ⊢
  rcases chronological with ⟨ordered, past⟩
  rw [origins_eq, List.pairwise_append, List.pairwise_map, List.forall_mem_append,
    List.forall_mem_map]
  refine ⟨⟨ordered, new.rising.imp fun less => ⟨less, le_rfl⟩, ?_⟩, past, fun _ _ => le_rfl⟩
  intro older member
  rw [List.forall_mem_map]
  exact fun id added =>
    ⟨new.above id added older.1 (List.mem_map_of_mem member), past older member⟩

theorem IsChronological.distinct (chronological : ledger.IsChronological now) :
    (ledger.accounts.map Account.id).Nodup := by
  rw [List.Nodup, List.pairwise_map]
  exact chronological.ordered.imp fun order => order.1.ne

/-! ## The newest first -/

/-- The accounts of an owner in use, in the reverse order of their creation. -/
def newestFirst (ledger : Ledger) (owner : String) : List Account :=
  (ledger.accounts.filter fun account => account.owner = owner ∧ account.active).reverse

theorem mem_newestFirst_iff : account ∈ ledger.newestFirst owner
    ↔ account ∈ ledger.accounts ∧ account.owner = owner ∧ account.active = true := by
  rw [newestFirst, List.mem_reverse, List.mem_filter, decide_eq_true_iff]

theorem IsChronological.pairwise_newestFirst (chronological : ledger.IsChronological now)
    (owner : String) :
    (ledger.newestFirst owner).Pairwise fun newer older =>
      older.id < newer.id ∧ older.writtenAt.rank ≤ newer.writtenAt.rank :=
  List.pairwise_reverse.mpr (chronological.ordered.sublist List.filter_sublist)

/-- Where the table is in order, listing turns it round. -/
theorem IsChronological.activeOf_eq (chronological : ledger.IsChronological now)
    (owner : String) : Account.activeOf ledger owner = ledger.newestFirst owner := by
  have descending := chronological.pairwise_newestFirst owner
  have sorted : (ledger.newestFirst owner).Pairwise fun newer older =>
      Account.listedBefore newer older = true := by
    refine descending.imp fun {newer older} order => ?_
    rw [Account.listedBefore_iff]
    exact (lt_or_eq_of_le order.2).imp_right fun same => ⟨same, order.1.le⟩
  have same_rows : (Account.activeOf ledger owner).Perm (ledger.newestFirst owner) :=
    (List.mergeSort_perm _ _).trans (List.reverse_perm _).symm
  refine same_rows.eq_of_pairwise ?_ (Account.pairwise_activeOf ledger owner) sorted
  intro first second first_member second_member former latter
  rw [Account.listedBefore_iff] at former latter
  have same_id : first.id = second.id := by
    unfold Account.IsNoNewerThan at former latter
    omega
  have first_stored := (Account.mem_activeOf_iff.mp first_member).1
  have second_stored := (mem_newestFirst_iff.mp second_member).1
  exact List.inj_on_of_nodup_map chronological.distinct first_stored second_stored same_id

end Ledger

/-! ## Steps -/

/-- A call that leaves the accounts as they are but for what they hold keeps them in order. -/
theorem maintains_isChronological {Answer : Type} {call : Call Answer} (proceeds : Proceeds call)
    (kept : ∀ world, (call.worldAfter world).ledger.emptied = world.ledger.emptied) :
    Maintains (fun world => world.ledger.IsChronological world.now) call := by
  intro world chronological
  rw [(proceeds world).now]
  have same := Ledger.origins_eq_of_emptied_eq (kept world)
  exact (Ledger.opens_of_origins_eq _ same).isChronological
    chronological

theorem EntryDraft.maintains_isChronological (draft : EntryDraft) (context : OwnerContext) :
    Maintains (fun world => world.ledger.IsChronological world.now) (draft.post context) := by
  refine Cashbook.maintains_isChronological (draft.atomic_post context).proceeds
    ((restores_post draft context).emptied_worldAfter fun world text after run => ?_)
  obtain ⟨account, entries, ids, -, -, record, -⟩ := post_eq_ok run
  rw [(Entry.recorded_of_record_eq_ok record).kept, ledger_named]

/-- Accounts are opened at the moment that the clock shows; all other writes leave them in order. -/
theorem isSteady_isChronological :
    IsSteady (fun world => world.ledger.IsChronological world.now) fun _ => True where
  furnishes furnished chronological := by
    rw [furnished.now]
    exact furnished.opens.isChronological chronological
  posts _ _ := (EntryDraft.maintains_isChronological _ _).on
  moves {movement description date} _ :=
    maintains_isChronological (Transfer.proceeds_perform movement description date)
      ((restores_atomically _).emptied_worldAfter fun world id after run =>
        (Transfer.effect_of_perform_eq_ok run).emptied_eq)
  rivals _ _ _ := trivial
  requests _ := trivial

theorem Operation.maintains_isChronological (operation : Operation) :
    Maintains (fun world => world.ledger.IsChronological world.now) operation.call := by
  have bindings_aside : ∀ change : Ledger → Ledger,
      (∀ current, (change current).emptied = current.emptied) →
      Maintains (fun world => world.ledger.IsChronological world.now) (changeLedger change) :=
    fun change kept =>
      Cashbook.maintains_isChronological (proceeds_changeLedger change) fun world =>
        kept world.ledger
  refine isSteady_isChronological.maintains_operation (fun owner chat _ => ?_) (fun id _ => ?_)
    (fun entries _ => ?_) EntryDraft.maintains_isChronological
  · refine Cashbook.maintains_isChronological (Binding.atomic_assign owner chat).proceeds
      ((restores_atomically _).emptied_worldAfter fun world id after run => ?_)
    rcases atomically_eq_ok run with ⟨ended, worked, committed⟩
    cases worked
    rw [committed.ledger]
    rfl
  · exact (isSteady_isChronological.of_reads (reads_checkWord id)).bind fun _ =>
      bindings_aside _ fun _ => rfl
  · exact Cashbook.maintains_isChronological (Entry.atomic_record entries).proceeds
      ((Entry.restores_record entries).emptied_worldAfter fun world ids after run =>
        (Entry.recorded_of_record_eq_ok run).kept)

/-- The moment that a step sets the clock to. -/
def Step.moment? : Step → Option Instant
  | wait _ now _ => some now
  | ask _ => none

/-- Does the clock never go back, from a moment on and through all steps? -/
def Step.RunForward (now : Instant) (steps : List Step) : Prop :=
  (now :: steps.filterMap moment?).Pairwise fun earlier later => earlier.rank ≤ later.rank

instance (now : Instant) (steps : List Step) : Decidable (Step.RunForward now steps) :=
  inferInstanceAs (Decidable (List.Pairwise _ _))

namespace World

/-- While the clock does not go back, the accounts stay in order. -/
theorem isChronological_later {world : World} {steps : List Step}
    (chronological : world.ledger.IsChronological world.now)
    (forward : Step.RunForward world.now steps) :
    (world.later steps).ledger.IsChronological (world.later steps).now := by
  induction steps generalizing world with
  | nil => exact chronological
  | cons step rest ih =>
      cases step with
      | wait today now fault =>
          obtain ⟨later, forward⟩ := List.pairwise_cons.mp forward
          refine @ih { world with today := today, now := now, fault := fault } ?_ forward
          exact chronological.mono (later now List.mem_cons_self)
      | ask operation =>
          refine ih (operation.maintains_isChronological world chronological) ?_
          have still : ((Step.ask operation).call.worldAfter world).now = world.now :=
            (operation.atomic_call.proceeds world).now
          change Step.RunForward ((Step.ask operation).call.worldAfter world).now rest
          rw [still]
          exact forward

end World

/-! ## Chats -/

namespace Chat

variable {message : Message} {rules : List KeywordRule} {binding : Binding} {draft : EntryDraft}
  {context : OwnerContext} {intent : Intent} {account : Account} {world : World}

/-- The owner of a chat is found where looking for it does not fail. -/
theorem bindingOf_of_findable
    (findable : ∀ fault, world.fault = some fault → fault.point ≠ .bindingLookup)
    (bound : message.binding? world.ledger = some binding) :
    bindingOf message world = .ok (some binding) world := by
  unfold Message.binding? at bound
  unfold bindingOf
  cases chat_eq : message.chat with
  | none =>
      rw [chat_eq] at bound
      cases bound
  | some chat =>
      rw [chat_eq] at bound
      change (if chat = "" then none else _) = _ at bound
      dsimp only
      by_cases nameless : chat = ""
      · rw [if_pos nameless] at bound
        cases bound
      · rw [if_neg nameless] at bound ⊢
        rw [Binding.find, bind_of_ok (failAt_of_point_ne findable .crash),
          bind_of_ok (ledger_apply world), bound]
        rfl

/-- A message with a text is answered for the owner that its chat speaks for. -/
theorem respond_eq_of_not_blank (text : message.trimmed ≠ []) :
    respond message rules = (do
      match ← bindingOf message with
      | none => return { text := Wording.notConfigured, status := 400 }
      | some binding =>
          let context ← OwnerContext.load binding.owner
          answer context rules (Intent.ofText message.trimmed)) :=
  if_neg text

/-- A message from a bound chat is answered with the newest accounts at hand. -/
theorem respond_of_bound
    (findable : ∀ fault, world.fault = some fault → fault.point ≠ .bindingLookup)
    (listable : ∀ fault, world.fault = some fault → fault.point ≠ .accountListing)
    (text : message.trimmed ≠ []) (bound : message.binding? world.ledger = some binding) :
    respond message rules world
      = answer ⟨binding.owner, (Account.activeOf world.ledger binding.owner).take 5,
          Category.allOf world.ledger binding.owner⟩ rules (Intent.ofText message.trimmed)
        world := by
  have loaded : OwnerContext.load binding.owner world
      = .ok ⟨binding.owner, (Account.activeOf world.ledger binding.owner).take 5,
          Category.allOf world.ledger binding.owner⟩ world := by
    have listed := @Account.list_of_listable world listable (some OwnerContext.pageSize)
      (by rintro _ ⟨⟩; decide) binding.owner
    rw [OwnerContext.load, bind_of_ok listed]
    rfl
  rw [respond_eq_of_not_blank text, bind_of_ok (bindingOf_of_findable findable bound)]
  exact bind_of_ok loaded

/-- The reply that shows balances, unless their sum is out of reach. -/
def balanceReply (accounts : List Account) : Reply :=
  match Wording.balanceSummary (accounts.map fun account =>
      (account.name, account.balance.toDecimal)) with
  | .ok text => { text := text }
  | .error _ => { text := Wording.internalError, status := 500 }

/-- A chat that asks for balances is shown those of the first five accounts. -/
theorem handle_of_balance
    (findable : ∀ fault, world.fault = some fault → fault.point ≠ .bindingLookup)
    (listable : ∀ fault, world.fault = some fault → fault.point ≠ .accountListing)
    (bound : message.binding? world.ledger = some binding)
    (asked : Intent.ofText message.trimmed = .balance) :
    handle message rules world
      = .ok (balanceReply ((Account.activeOf world.ledger binding.owner).take 5)) world := by
  have text : message.trimmed ≠ [] := by
    intro blank
    rw [blank] at asked
    cases asked
  have responded := @respond_of_bound message rules binding world findable listable text bound
  rw [asked] at responded
  unfold handle orDefect balanceReply
  rw [tryCatch_apply, responded, answer]
  dsimp only
  cases Wording.balanceSummary (((Account.activeOf world.ledger binding.owner).take 5).map
      fun account => (account.name, account.balance.toDecimal)) with
  | ok text => rfl
  | error error => rfl

/-- The answer to a message that asks for an expense is that of posting it. -/
theorem answer_eq_postDraft (asked : intent.draft? context.categories rules = some draft) :
    answer context rules intent = postDraft context draft := by
  cases intent with
  | addExpense amount description hint =>
      cases asked
      rfl
  | freeText text =>
      simp only [answer]
      rw [Intent.draft?_freeText_eq_some asked]
  | balance => cases asked
  | report => cases asked
  | help => cases asked
  | malformed complaint => cases asked

/-- Without faults, an expense of whole cents that a chat asks for is posted to the newest
account. -/
theorem exists_handle_eq_spent {now : Instant} (faultless : world.fault = none)
    (words : world.ledger.HasWords) (chronological : world.ledger.IsChronological now)
    (bound : message.binding? world.ledger = some binding)
    (asked : (Intent.ofText message.trimmed).draft?
      (Category.allOf world.ledger binding.owner) rules = some draft)
    (whole : isWholeCents draft.amount = true) (positive : 0 < draft.amount.value)
    (first : (Account.activeOf world.ledger binding.owner).head? = some account) :
    ∃ reply after, handle message rules world = .ok reply after
      ∧ draft.Spent binding.owner account world.today world.ledger after.ledger := by
  have text : message.trimmed ≠ [] := by
    intro blank
    rw [blank] at asked
    cases asked
  obtain ⟨simple, categories⟩ := Intent.draft?_spec asked
  set context : OwnerContext := ⟨binding.owner,
    (Account.activeOf world.ledger binding.owner).take 5,
    Category.allOf world.ledger binding.owner⟩ with context_eq
  have responded := @respond_of_bound message rules binding world
    (World.point_ne_of_faultless faultless _) (World.point_ne_of_faultless faultless _) text bound
  have ready : EntryDraft.IsReady context world.ledger :=
    ⟨⟨fun account member => Account.mem_of_activeOf (List.mem_of_mem_take member),
      fun category => Category.mem_of_allOf⟩, chronological.distinct, words.accounts⟩
  have at_hand : context.accounts.head? = some account := by
    rw [context_eq, List.head?_take, first]
    rfl
  rcases simple.exists_post_eq_ok ready faultless whole positive (fun category chosen =>
    words.categories category (Category.mem_of_allOf (categories category chosen).1).1) at_hand
    with ⟨confirmation, after, post⟩
  rcases simple.post_eq_ok post with ⟨cents, other, -, -, other_first, spent, -⟩
  obtain rfl : account = other := Option.some.inj (at_hand.symm.trans other_first)
  have posted : answer context rules (Intent.ofText message.trimmed) world
      = .ok { text := confirmation } after := by
    rw [answer_eq_postDraft asked, postDraft, orTold, tryCatch_apply, bind_of_ok post]
    rfl
  refine ⟨{ text := confirmation }, after, ?_, spent⟩
  rw [handle, orDefect, tryCatch_apply, responded, posted]

end Chat

/-! ## Runs -/

namespace World

/-- Are the newest accounts in use the first wherever accounts are listed, debited or shown? -/
structure ListsNewestFirst (world : World) : Prop where
  descending : ∀ owner, (world.ledger.newestFirst owner).Pairwise fun newer older =>
    older.id < newer.id ∧ older.writtenAt.rank ≤ newer.writtenAt.rank
  complete : ∀ owner account, account ∈ world.ledger.newestFirst owner
    ↔ account ∈ world.ledger.accounts ∧ account.owner = owner ∧ account.active = true
  listed : (∀ fault, world.fault = some fault → fault.point ≠ .accountListing) → ∀ owner,
    (Account.list owner none).answer world = .ok (world.ledger.newestFirst owner)
    ∧ ∀ limit : Int, 0 ≤ limit → limit < 2 ^ 63 →
      (Account.list owner (some limit)).answer world
        = .ok ((world.ledger.newestFirst owner).take limit.toNat)
  /-- Whatever a message changes, it spends from the newest account. -/
  debited : ∀ message rules reply after, Chat.handle message rules world = .ok reply after →
    after.ledger ≠ world.ledger →
    ∃ binding draft account, message.binding? world.ledger = some binding
      ∧ (Chat.Intent.ofText message.trimmed).draft? (Category.allOf world.ledger binding.owner)
        rules = some draft
      ∧ (world.ledger.newestFirst binding.owner).head? = some account
      ∧ draft.Spent binding.owner account world.today world.ledger after.ledger
  /-- An expense of whole cents is spent from it unless storage fails. -/
  spent : world.fault = none → world.ledger.HasWords → ∀ message rules binding draft account,
    message.binding? world.ledger = some binding →
    (Chat.Intent.ofText message.trimmed).draft? (Category.allOf world.ledger binding.owner) rules
      = some draft →
    isWholeCents draft.amount = true → 0 < draft.amount.value →
    (world.ledger.newestFirst binding.owner).head? = some account →
    ∃ reply after, Chat.handle message rules world = .ok reply after
      ∧ draft.Spent binding.owner account world.today world.ledger after.ledger
  shown : (∀ fault, world.fault = some fault →
      fault.point ≠ .bindingLookup ∧ fault.point ≠ .accountListing) →
    ∀ message rules binding, message.binding? world.ledger = some binding →
      Chat.Intent.ofText message.trimmed = .balance →
      (Chat.handle message rules).answer world
        = .ok (Chat.balanceReply ((world.ledger.newestFirst binding.owner).take 5))

/-- Where the accounts are in order, the newest are the first. -/
theorem listsNewestFirst_of_isChronological {world : World}
    (chronological : world.ledger.IsChronological world.now) : world.ListsNewestFirst where
  descending := chronological.pairwise_newestFirst
  complete owner account := Ledger.mem_newestFirst_iff
  listed listable owner := by
    constructor
    · rw [← chronological.activeOf_eq]
      exact answer_eq_ok_iff.mpr ⟨world, Account.list_of_listable listable (by simp) owner⟩
    · intro limit nonneg small
      have word : ∀ given, some limit = some given → Integer.isWord given = true := by
        rintro _ ⟨⟩
        rw [Integer.isWord, decide_eq_true_iff, Integer.wordLimit]
        omega
      rw [answer_eq_ok_iff.mpr ⟨world, Account.list_of_listable listable word owner⟩,
        Account.limited, if_neg (not_lt.mpr nonneg), chronological.activeOf_eq]
  debited message rules reply after run changed := by
    rcases Chat.posted_of_handle_eq_ok run changed with ⟨bound, asked, -, -, first, -, -, spent⟩
    rw [chronological.activeOf_eq] at first
    exact ⟨_, _, _, bound, asked, first, spent⟩
  spent faultless words message rules binding draft account bound asked whole positive first := by
    rw [← chronological.activeOf_eq] at first
    exact Chat.exists_handle_eq_spent faultless words chronological bound asked whole positive first
  shown unarmed message rules binding bound asked := by
    rw [← chronological.activeOf_eq]
    exact answer_eq_ok_iff.mpr ⟨world, Chat.handle_of_balance
      (fun fault armed => (unarmed fault armed).1) (fun fault armed => (unarmed fault armed).2)
      bound asked⟩

/-- Whatever happens to an empty ledger, whoever asks for it and wherever storage fails, the newest
accounts in use are the first wherever accounts are listed, debited or shown, as long as the clock
does not go back. -/
theorem listsNewestFirst_later (today : Date) (now : Instant) (steps : List Step)
    (forward : Step.RunForward now steps) :
    ((start today now).later steps).ListsNewestFirst :=
  listsNewestFirst_of_isChronological
    (isChronological_later (Ledger.isChronological_empty now) forward)

/-- Accounts of two owners are opened at one moment, one after a failure; later one more is opened,
and one is taken out of use. -/
def openings : List Step :=
  [.ask (.bindChat "ana" "7"), .ask (.createAccount "ana" "Carteira" .wallet (.ofCents false 5000)),
   .wait newYear.today newYear.now (some { point := .commit }),
   .ask (.createAccount "ana" "Cofre" .wallet .zero),
   .ask (.createAccount "bia" "Banco" .checking .zero),
   .ask (.createAccount "ana" "Poupança" .savings (.ofCents false 900)),
   .wait newYear.today ⟨newYear.today, 60000000⟩ none,
   .ask (.createAccount "ana" "Reserva" .savings .zero), .ask (.deactivateAccount 4)]

/-- The account that failed left its number to the next one, and the account out of use is passed
over: what is spent in the chat leaves the third account. -/
theorem listsNewestFirst_later_openings :
    let world := (start newYear.today newYear.now).later openings
    (∃ listed, (Account.list "ana" none).answer world = .ok listed
      ∧ listed.map Account.id = [3, 1])
    ∧ ∃ reply after draft account,
      Chat.handle ⟨some "7", some "/add 5.50 café"⟩ [] world = .ok reply after
        ∧ account.id = 3
        ∧ EntryDraft.Spent draft "ana" account world.today world.ledger after.ledger := by
  intro world
  have newest : world.ListsNewestFirst :=
    listsNewestFirst_later newYear.today newYear.now openings (by decide +kernel)
  have faultless : world.fault = none := by decide +kernel
  refine ⟨⟨_, (newest.listed (point_ne_of_faultless faultless _) "ana").1, by decide +kernel⟩, ?_⟩
  have asked : (Chat.Intent.ofText
      (Chat.Message.trimmed ⟨some "7", some "/add 5.50 café"⟩)).draft?
        (Category.allOf world.ledger "ana") []
      = some { amount := .finite false 550 (-2), description := "café", category := none } := by
    decide +kernel
  cases first : (world.ledger.newestFirst "ana").head? with
  | none =>
      have some_account : (world.ledger.newestFirst "ana").head? ≠ none := by decide +kernel
      exact absurd first some_account
  | some account =>
      have third : (world.ledger.newestFirst "ana").head?.map Account.id = some 3 := by
        decide +kernel
      rw [first] at third
      rcases newest.spent faultless ⟨by decide +kernel, by decide +kernel⟩ _ _
        ⟨1, "ana", "7", true⟩ _ account (by decide +kernel) asked (by decide +kernel)
        (by decide +kernel) first with ⟨reply, after, run, spent⟩
      exact ⟨reply, after, _, account, run, Option.some.inj third, spent⟩

end World

end Cashbook
