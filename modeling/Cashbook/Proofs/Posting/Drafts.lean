import Cashbook.Proofs.Naming
import Cashbook.Proofs.Posting.Requests
import Cashbook.Proofs.Posting.Schedule

/-!
# What a draft needs to be posted

Posting goes through the amount, the account, the card and the calendar, and then hands the whole
schedule to storage as one batch.  Each step is described by what it accepts, so a draft that is
posted is known to have met every condition.
-/

namespace Cashbook

open Call Money

/-- Are the accounts and categories at hand rows that the owner has in a ledger? -/
structure OwnerContext.IsDrawnFrom (context : OwnerContext) (ledger : Ledger) : Prop where
  accounts : ∀ account ∈ context.accounts,
    account ∈ ledger.accounts ∧ account.owner = context.owner
  categories : ∀ category ∈ context.categories,
    category ∈ ledger.categories ∧ category.owner = context.owner

theorem Account.mem_of_activeOf {ledger : Ledger} {owner : String} {account : Account}
    (member : account ∈ activeOf ledger owner) :
    account ∈ ledger.accounts ∧ account.owner = owner := by
  rw [activeOf, List.mem_mergeSort, List.mem_filter] at member
  rcases member with ⟨stored, admitted⟩
  exact ⟨stored, (of_decide_eq_true admitted).1⟩

theorem Account.mem_of_list_eq_ok {owner : String} {limit : Option Int} {accounts : List Account}
    {world after : World} (run : list owner limit world = .ok accounts after) :
    ∀ account ∈ accounts, account ∈ world.ledger.accounts ∧ account.owner = owner := by
  obtain rfl := list_eq_ok run
  intro account member
  apply mem_of_activeOf
  unfold limited at member
  split at member
  · exact member
  · split_ifs at member
    · exact member
    · exact List.mem_of_mem_take member

theorem Category.mem_of_allOf {ledger : Ledger} {owner : String} {category : Category}
    (member : category ∈ allOf ledger owner) :
    category ∈ ledger.categories ∧ category.owner = owner := by
  rw [allOf, List.mem_mergeSort, List.mem_filter] at member
  exact ⟨member.1, of_decide_eq_true member.2⟩

theorem Category.mem_of_list_eq_ok {owner : String} {categories : List Category}
    {world after : World} (run : list owner world = .ok categories after) :
    ∀ category ∈ categories, category ∈ world.ledger.categories ∧ category.owner = owner := by
  cases run
  exact fun category => mem_of_allOf

/-- What is at hand in a chat is drawn from the ledger. -/
theorem OwnerContext.isDrawnFrom_of_load_eq_ok {owner : String} {context : OwnerContext}
    {world after : World} (run : load owner world = .ok context after) :
    context.owner = owner ∧ context.IsDrawnFrom world.ledger := by
  rcases bind_eq_ok_iff.mp run with ⟨accounts, listed, list, rest⟩
  rcases bind_eq_ok_iff.mp rest with ⟨categories, ended, all, last⟩
  cases last
  refine ⟨rfl, Account.mem_of_list_eq_ok list, ?_⟩
  rw [← ((Account.reads_list _ _).of_ok list).ledger]
  exact Category.mem_of_list_eq_ok all

namespace EntryDraft

variable {draft : EntryDraft} {context : OwnerContext} {account : Option Account}
  {entries : List NewEntry} {owner text : String} {world after : World} {failure : Failure}

/-! ## Amount and count -/

theorem check_eq_ok_iff : draft.check world = .ok () after ↔
    after = world ∧ draft.amount.isNotPositive = .ok false ∧ isWholeCents draft.amount = true
      ∧ 1 ≤ draft.installments := by
  constructor
  · intro run
    rcases bind_eq_ok_iff.mp run with ⟨refuses, middle, compared, rest⟩
    rcases ofArithmetic_eq_ok_iff.mp compared with ⟨positive, rfl⟩
    cases refuses with
    | true => cases rest
    | false =>
        cases whole : isWholeCents draft.amount with
        | false =>
            simp only [whole] at rest
            cases rest
        | true =>
            simp only [whole] at rest
            by_cases few : draft.installments < 1
            · simp only [few] at rest
              cases rest
            · simp only [few] at rest
              cases rest
              exact ⟨rfl, positive, rfl, not_lt.mp few⟩
  · rintro ⟨rfl, positive, whole, some_entry⟩
    rw [check, bind_of_ok (ofArithmetic_eq_ok_iff.mpr ⟨positive, rfl⟩)]
    simp [whole, not_lt.mpr some_entry, pure_apply]

/-! ## Account -/

/-- The account that a draft is posted to in a ledger, or why there is none. -/
def accountIn (draft : EntryDraft) (context : OwnerContext) (ledger : Ledger) :
    Except Failure (Option Account) :=
  match draft.account, draft.card with
  | some id, _ =>
      match ledger.account? context.owner id with
      | some account => .ok (some account)
      | none => .error (.accountMissing id)
  | none, some _ => .ok none
  | none, none =>
      match context.accounts with
      | account :: _ => .ok (some account)
      | [] => .error .noAccount

theorem find_of_word {id : Int} (word : Integer.isWord id = true) (owner : String) :
    Account.find owner id world = .ok (world.ledger.account? owner id) world := by
  rw [Account.find, bind_of_ok (checkWord_eq_ok_iff.mpr ⟨word, rfl⟩)]
  rfl

/-- Looking for the account ends as the ledger tells. -/
theorem accountFor_eq (word : ∀ id, draft.account = some id → Integer.isWord id = true) :
    draft.accountFor context world =
      match draft.accountIn context world.ledger with
      | .ok account => .ok account world
      | .error failure => .error failure world := by
  unfold accountFor accountIn
  cases named : draft.account with
  | some id =>
      dsimp only
      rw [bind_of_ok (find_of_word (word id named) context.owner)]
      cases world.ledger.account? context.owner id <;> rfl
  | none =>
      cases draft.card with
      | some card => rfl
      | none => cases context.accounts <;> rfl

theorem accountFor_eq_ok (run : draft.accountFor context world = .ok account after) :
    after = world ∧ (∀ id, draft.account = some id → Integer.isWord id = true)
      ∧ draft.accountIn context world.ledger = .ok account := by
  have word : ∀ id, draft.account = some id → Integer.isWord id = true := by
    intro id named
    simp only [accountFor, named] at run
    rcases bind_eq_ok_iff.mp run with ⟨_, _, found, -⟩
    rcases bind_eq_ok_iff.mp found with ⟨_, _, checked, -⟩
    exact (checkWord_eq_ok_iff.mp checked).1
  rw [accountFor_eq word] at run
  split at run
  next found =>
    cases run
    exact ⟨rfl, word, found⟩
  next => cases run

/-- A draft is posted to an account of its owner. -/
theorem owner_of_accountIn {holder : Account} {ledger : Ledger}
    (drawn : context.IsDrawnFrom ledger)
    (found : draft.accountIn context ledger = .ok (some holder)) :
    holder ∈ ledger.accounts ∧ holder.owner = context.owner := by
  unfold accountIn at found
  split at found
  · split at found
    · cases found
      rename_i look
      rcases Ledger.account?_spec look with ⟨member, -, same⟩
      exact ⟨member, same⟩
    · cases found
  · cases found
  · split at found
    · cases found
      rename_i accounts
      exact drawn.accounts _ (by simp [accounts])
    · cases found

/-- A draft without an account has a card. -/
theorem card_of_accountIn {ledger : Ledger}
    (found : draft.accountIn context ledger = .ok none) : draft.card.isSome = true := by
  unfold accountIn at found
  split at found
  · split at found <;> cases found
  · rename_i card
    rw [card]
    rfl
  · split at found <;> cases found

/-! ## Card -/

theorem findCard_of_word {id : Int} (word : Integer.isWord id = true) (owner : String) :
    Card.find owner id world =
      .ok (world.ledger.cards.find? fun card => card.id = id ∧ card.owner = owner) world := by
  rw [Card.find, bind_of_ok (checkWord_eq_ok_iff.mpr ⟨word, rfl⟩)]
  rfl

theorem isSome_findCard_iff {ledger : Ledger} {id : Int} :
    (ledger.cards.find? fun card => card.id = id ∧ card.owner = owner).isSome = true
      ↔ ledger.HasCard owner id := by
  rw [List.find?_isSome, Ledger.HasCard]
  simp only [decide_eq_true_eq]

/-- A card is refused unless the owner has it. -/
theorem checkCard_eq (word : ∀ id, draft.card = some id → Integer.isWord id = true) :
    draft.checkCard owner world =
      match draft.card with
      | some id =>
          if world.ledger.HasCard owner id then .ok () world else .error (.cardMissing id) world
      | none => .ok () world := by
  unfold checkCard
  cases named : draft.card with
  | none => rfl
  | some id =>
      dsimp only
      rw [bind_of_ok (findCard_of_word (word id named) owner)]
      cases found : world.ledger.cards.find? fun card => card.id = id ∧ card.owner = owner with
      | none =>
          have missing : ¬world.ledger.HasCard owner id := by
            rw [← isSome_findCard_iff, found]
            exact Bool.false_ne_true
          rw [if_neg missing]
          rfl
      | some card =>
          have owned : world.ledger.HasCard owner id := by
            rw [← isSome_findCard_iff, found]
            rfl
          rw [if_pos owned]
          rfl

theorem checkCard_eq_ok (run : draft.checkCard owner world = .ok () after) :
    after = world ∧ ∀ id, draft.card = some id →
      Integer.isWord id = true ∧ world.ledger.HasCard owner id := by
  have word : ∀ id, draft.card = some id → Integer.isWord id = true := by
    intro id named
    simp only [checkCard, named] at run
    rcases bind_eq_ok_iff.mp run with ⟨_, _, found, -⟩
    rcases bind_eq_ok_iff.mp found with ⟨_, _, checked, -⟩
    exact (checkWord_eq_ok_iff.mp checked).1
  rw [checkCard_eq word] at run
  split at run
  next card named =>
    split_ifs at run with owned
    cases run
    refine ⟨rfl, fun id same => ?_⟩
    obtain rfl := Option.some.inj (named.symm.trans same)
    exact ⟨word card named, owned⟩
  next none =>
    cases run
    exact ⟨rfl, by simp [none]⟩

/-! ## Schedule -/

/-- The name that a draft in a world would give its series. -/
def groupIn (draft : EntryDraft) (world : World) : Option String :=
  if 1 < draft.installments then some (groupName (world.groupsNamed + 1)) else none

/-- The world once a draft has named its series. -/
def named (draft : EntryDraft) (world : World) : World :=
  if 1 < draft.installments then { world with groupsNamed := world.groupsNamed + 1 } else world

@[simp]
theorem ledger_named (draft : EntryDraft) (world : World) :
    (draft.named world).ledger = world.ledger := by
  unfold named
  split_ifs <;> rfl

@[simp]
theorem fault_named (draft : EntryDraft) (world : World) :
    (draft.named world).fault = world.fault := by
  unfold named
  split_ifs <;> rfl

/-- The rows of a draft are its schedule, with a new name for a series. -/
theorem rows_eq (draft : EntryDraft) (owner : String) (account : Option Int) (world : World) :
    draft.rows owner account world =
      match draft.schedule owner account (draft.groupIn world) world.today with
      | .ok entries => .ok entries (draft.named world)
      | .error error => .error (.calendar error) (draft.named world) := by
  have scheduled : ∀ group (named : World), named.today = world.today →
      (do
        let world ← get
        ofCalendar (draft.schedule owner account group world.today) : Call (List NewEntry)) named =
      match draft.schedule owner account group world.today with
      | .ok entries => .ok entries named
      | .error error => .error (.calendar error) named := by
    intro group named same
    rw [bind_of_ok (get_apply _), same]
    cases draft.schedule owner account group world.today <;> rfl
  unfold rows groupIn named
  split_ifs
  · exact (bind_of_ok rfl).trans (scheduled _ _ rfl)
  · exact (bind_of_ok rfl).trans (scheduled _ _ rfl)

/-! ## Posting -/

/-- What has been checked about a draft that is posted to an account, or to a card only. -/
structure Passes (draft : EntryDraft) (context : OwnerContext) (ledger : Ledger)
    (account : Option Account) : Prop where
  positive : draft.amount.isNotPositive = .ok false
  whole : isWholeCents draft.amount = true
  some_entry : 1 ≤ draft.installments
  account_word : ∀ id, draft.account = some id → Integer.isWord id = true
  account : draft.accountIn context ledger = .ok account
  card_word : ∀ id, draft.card = some id → Integer.isWord id = true
  card : ∀ id, draft.card = some id → ledger.HasCard context.owner id

/-- Writing the rows of a draft, a series as a whole. -/
def write (draft : EntryDraft) (owner : String) (entries : List NewEntry) : Call Unit :=
  if 1 < draft.installments then recordSeries Entry.record owner entries
  else discard (Entry.record entries)

/-- A draft that has passed its checks is written as one batch, unless it runs out of the
calendar. -/
theorem post_of_passes (passes : draft.Passes context world.ledger account) :
    draft.post context world =
      match draft.schedule context.owner (account.map Account.id) (draft.groupIn world)
          world.today with
      | .ok entries => (do
          draft.write context.owner entries
          return Wording.entryConfirmation draft.kind draft.amount draft.description
            (draft.category.map Category.name) (draft.placeName account) draft.installments)
          (draft.named world)
      | .error error => .error (.calendar error) (draft.named world) := by
  have checked : draft.check world = .ok () world :=
    check_eq_ok_iff.mpr ⟨rfl, passes.positive, passes.whole, passes.some_entry⟩
  have found : draft.accountFor context world = .ok account world := by
    rw [accountFor_eq passes.account_word, passes.account]
  have owned : draft.checkCard context.owner world = .ok () world := by
    rw [checkCard_eq passes.card_word]
    cases named : draft.card with
    | none => rfl
    | some id => exact if_pos (passes.card id named)
  have listed := draft.rows_eq context.owner (account.map Account.id) world
  rw [post, postWith, bind_of_ok checked, bind_of_ok found, bind_of_ok owned]
  cases scheduled : draft.schedule context.owner (account.map Account.id) (draft.groupIn world)
      world.today with
  | error error =>
      simp only [scheduled] at listed
      exact bind_of_error listed
  | ok entries =>
      simp only [scheduled] at listed
      rw [bind_of_ok listed]
      unfold write
      split_ifs <;> rfl

/-- How a failure to write so many entries is told: a series has failed as a whole. -/
def told (draft : EntryDraft) (owner : String) (count : Nat) : Failure → Failure
  | .writeFailed cause =>
      if 1 < draft.installments then .installmentsFailed count owner else .writeFailed cause
  | other => other

/-- Writing the rows of a draft ends as the batch does. -/
theorem write_eq (draft : EntryDraft) (owner : String) (entries : List NewEntry) (world : World) :
    draft.write owner entries world =
      match Entry.record entries world with
      | .ok _ after => .ok () after
      | .error failure after => .error (draft.told owner entries.length failure) after := by
  have discarded : (discard (Entry.record entries) : Call Unit) world =
      match Entry.record entries world with
      | .ok _ after => .ok () after
      | .error failure after => .error failure after := by
    change ((fun _ => ()) <$> Entry.record entries : Call Unit) world = _
    rw [map_eq_bind]
    cases record : Entry.record entries world with
    | ok ids after => rw [bind_of_ok record]; rfl
    | error failure after => rw [bind_of_error record]
  unfold write
  split_ifs with series
  · rw [recordSeries, tryCatch_apply, discarded]
    cases Entry.record entries world with
    | ok ids after => rfl
    | error failure after =>
        cases failure with
        | writeFailed cause => simp [told, series, throw_apply]
        | _ => rfl
  · rw [discarded]
    cases Entry.record entries world with
    | ok ids after => rfl
    | error failure after =>
        cases failure with
        | writeFailed cause => simp [told, series]
        | _ => rfl

/-- A draft that is posted has passed its checks, and its schedule is written as one batch. -/
theorem post_eq_ok (run : draft.post context world = .ok text after) :
    ∃ account entries ids, draft.Passes context world.ledger account
      ∧ draft.schedule context.owner (account.map Account.id) (draft.groupIn world) world.today
        = .ok entries
      ∧ Entry.record entries (draft.named world) = .ok ids after
      ∧ text = Wording.entryConfirmation draft.kind draft.amount draft.description
          (draft.category.map Category.name) (draft.placeName account) draft.installments := by
  have outcome := run
  rcases bind_eq_ok_iff.mp run with ⟨_, _, check, accounts⟩
  rcases check_eq_ok_iff.mp check with ⟨rfl, positive, whole, some_entry⟩
  rcases bind_eq_ok_iff.mp accounts with ⟨account, _, found, cards⟩
  rcases accountFor_eq_ok found with ⟨rfl, account_word, account_eq⟩
  rcases bind_eq_ok_iff.mp cards with ⟨_, _, owned, -⟩
  rcases checkCard_eq_ok owned with ⟨rfl, card⟩
  have passes : draft.Passes context _ account :=
    ⟨positive, whole, some_entry, account_word, account_eq, fun id named => (card id named).1,
      fun id named => (card id named).2⟩
  rw [post_of_passes passes] at outcome
  split at outcome
  next entries scheduled =>
    rcases bind_eq_ok_iff.mp outcome with ⟨_, _, written, last⟩
    cases last
    rw [write_eq] at written
    split at written
    next ids _ record =>
      cases written
      exact ⟨account, entries, ids, passes, scheduled, record, rfl⟩
    next => cases written
  next => cases outcome

/-- A draft that is not posted leaves the ledger alone. -/
theorem restores_post (draft : EntryDraft) (context : OwnerContext) :
    Restores (draft.post context) := by
  refine (reads_check draft).bind_restores fun _ => (reads_accountFor _ _).bind_restores fun _ =>
    (reads_checkCard _ _).bind_restores fun _ => (reads_rows _ _ _).bind_restores fun rows => ?_
  have series : Restores (recordSeries Entry.record context.owner rows) := by
    refine ((Entry.restores_record rows).map _).tryCatch fun failure => ?_
    split
    · exact respects_throw _
    · exact respects_throw _
  split_ifs
  · exact series.bind_pure _
  · exact ((Entry.restores_record rows).map _).bind_pure _

end EntryDraft

end Cashbook
