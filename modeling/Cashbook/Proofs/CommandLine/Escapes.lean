import Cashbook.Proofs.CommandLine.Adding
import Cashbook.Proofs.Intake
import Cashbook.Proofs.Posting.Failures

/-!
# Commands that add and their limits

Where no fault shows, a command that adds ends with a line for the user unless something in its
words is out of reach: a day outside the calendar, the number of an account or a card beyond 64
bits, or installments behind the last year.  Then it has no ending at all.
-/

namespace Cashbook

open Call Money

/-- Do the numbers of the rows that an entry may refer to fit into 64 bits? -/
structure Ledger.HasWords (ledger : Ledger) : Prop where
  accounts : ∀ account ∈ ledger.accounts, Integer.isWord account.id = true
  categories : ∀ category ∈ ledger.categories, Integer.isWord category.id = true

namespace CommandLine

variable {words : EntryWords} {owner text : String} {today : Date} {ledger : Ledger} {world : World}
  {failure : Failure} {amount : Decimal} {date : Option Date}

namespace EntryWords

/-- The failure that adding comes to instead of an ending, if it does. -/
def escape? (words : EntryWords) (owner : String) (today : Date) (ledger : Ledger) :
    Option Failure :=
  match words.meant owner today ledger with
  | .ok (.entry draft) => draft.escape? (atHand owner ledger) ledger today
  | .ok (.transfer _) => none
  | .error (.failure failure) => some failure
  | .error (.complaint _) => none

/-- What in words is out of reach, with the failure that it leads to. -/
inductive Exceeds (words : EntryWords) (today : Date) : Failure → Prop where
  | date {failure : Failure} (unread : dateMeant words.date today = .error (.failure failure)) :
      Exceeds words today failure
  | account {text : String} {id : Int}
      (named : words.account = some text ∨ words.target = some text)
      (number : Integer.read? text.toList = some id) (large : Integer.isWord id = false) :
      Exceeds words today .idTooLarge
  | card {id : Int} (named : words.card = some id) (large : Integer.isWord id = false) :
      Exceeds words today .idTooLarge
  | calendar {date : Option Date} (meant : dateMeant words.date today = .ok date)
      (behind : 10000 * 12 ≤ (date.getD today).monthCount + (words.installments - 1)) :
      Exceeds words today (.calendar (.yearOutOfRange 10000))

end EntryWords

/-- The account that a text means has a number that fits. -/
theorem isWord_of_accountMeant {id : Int} (storable : ledger.HasWords)
    (meant : accountMeant owner text ledger = .ok id) : Integer.isWord id = true := by
  unfold accountMeant at meant
  split at meant
  · split_ifs at meant with large
    cases meant
    simpa using large
  · split at meant
    next account found =>
      cases meant
      exact storable.accounts account
        (Account.mem_of_activeOf (List.mem_of_find?_eq_some found)).1
    next => cases meant

/-- A text that means no account, and has no line that tells so, is a number that is too large. -/
theorem of_accountMeant_eq_failure
    (meant : accountMeant owner text ledger = .error (.failure failure)) :
    failure = .idTooLarge
      ∧ ∃ id, Integer.read? text.toList = some id ∧ Integer.isWord id = false := by
  unfold accountMeant at meant
  split at meant
  next id number =>
    split_ifs at meant with large
    · cases meant
      exact ⟨rfl, id, number, large⟩
    · cases meant
  next =>
    split at meant
    · cases meant
    · cases meant

namespace EntryWords

theorem exceeds_of_accountMeant
    (named : words.account = some text ∨ words.target = some text)
    (stopped : accountMeant owner text ledger = .error (.failure failure)) :
    words.Exceeds today failure := by
  rcases of_accountMeant_eq_failure stopped with ⟨rfl, id, number, large⟩
  exact .account named number large

theorem exceeds_of_transferMeant
    (stopped : words.transferMeant owner amount ledger = .error (.failure failure)) :
    words.Exceeds today failure := by
  unfold transferMeant at stopped
  split at stopped
  next source target source_named target_named =>
    split_ifs at stopped
    · cases stopped
    · rcases Except.bind_eq_error_iff.mp stopped with first | ⟨_, -, rest⟩
      · exact exceeds_of_accountMeant (.inl source_named) first
      · rcases Except.bind_eq_error_iff.mp rest with second | ⟨_, -, ⟨⟩⟩
        exact exceeds_of_accountMeant (.inr target_named) second
  next => cases stopped

theorem exceeds_of_entryMeant
    (stopped : words.entryMeant owner amount date ledger = .error (.failure failure)) :
    words.Exceeds today failure := by
  rcases Except.bind_eq_error_iff.mp stopped with first | ⟨_, -, rest⟩
  · unfold accountMeant? at first
    cases named : words.account with
    | none =>
        rw [named] at first
        cases first
    | some text =>
        rw [named] at first
        exact exceeds_of_accountMeant (.inl named) (Except.map_eq_error_iff.mp first)
  · rcases Except.bind_eq_error_iff.mp rest with second | ⟨_, -, ⟨⟩⟩
    unfold categoryMeant at second
    split at second
    · cases second
    · split at second
      · cases second
      · cases second

/-- What is meant but out of reach is out of reach in the words. -/
theorem exceeds_of_meant (stopped : words.meant owner today ledger = .error (.failure failure)) :
    words.Exceeds today failure := by
  rcases Except.bind_eq_error_iff.mp stopped with first | ⟨amount, -, rest⟩
  · unfold amountMeant at first
    split at first
    · cases first
    · cases first
  · rcases Except.bind_eq_error_iff.mp rest with second | ⟨date, -, third⟩
    · exact .date second
    · split_ifs at third
      · exact exceeds_of_transferMeant (Except.map_eq_error_iff.mp third)
      · exact exceeds_of_entryMeant (Except.map_eq_error_iff.mp third)

/-- A category that words mean has a number that fits. -/
theorem isWord_of_categoryMeant {category : Category} {named : Option String}
    (storable : ledger.HasWords)
    (meant : categoryMeant owner named ledger = .ok (some category)) :
    Integer.isWord category.id = true := by
  unfold categoryMeant at meant
  split at meant
  · cases meant
  · split at meant
    next found =>
      cases meant
      exact storable.categories category
        (Category.mem_of_allOf (List.mem_of_find?_eq_some found)).1
    next => cases meant

/-- The entry that words mean refers to rows whose numbers fit. -/
theorem isWord_of_entryMeant {draft : EntryDraft} (storable : ledger.HasWords)
    (meant : words.entryMeant owner amount date ledger = .ok draft) :
    (∀ id, draft.account = some id → Integer.isWord id = true)
      ∧ ∀ category, draft.category = some category → Integer.isWord category.id = true := by
  obtain ⟨account, category, account_eq, category_eq, rfl⟩ := entryMeant_eq_ok meant
  constructor
  · rintro id rfl
    unfold accountMeant? at account_eq
    split at account_eq
    · rcases Except.map_eq_ok_iff.mp account_eq with ⟨same, meant_eq, ⟨⟩⟩
      exact isWord_of_accountMeant storable meant_eq
    · cases account_eq
  · rintro category rfl
    exact isWord_of_categoryMeant storable category_eq

/-- The transfer that words mean is between accounts whose numbers fit. -/
theorem of_transferMeant {draft : TransferDraft} (storable : ledger.HasWords)
    (meant : words.transferMeant owner amount ledger = .ok draft) :
    draft.amount = amount ∧ Integer.isWord draft.source = true
      ∧ Integer.isWord draft.target = true := by
  unfold transferMeant at meant
  split at meant
  · split_ifs at meant
    rcases Except.bind_eq_ok_iff.mp meant with ⟨source, source_eq, rest⟩
    rcases Except.bind_eq_ok_iff.mp rest with ⟨target, target_eq, ⟨⟩⟩
    exact ⟨rfl, isWord_of_accountMeant storable source_eq,
      isWord_of_accountMeant storable target_eq⟩
  · cases meant

theorem isFinite_of_amountMeant (meant : words.amountMeant = .ok amount) :
    amount.isFinite = true := by
  unfold amountMeant at meant
  split at meant
  next read =>
    cases meant
    exact isFinite_of_readAmount read
  next => cases meant

/-- The failure that the draft of words comes to is due to what is out of reach in them. -/
theorem exceeds_of_draft {draft : EntryDraft} {context : OwnerContext}
    (date_eq : dateMeant words.date today = .ok date)
    (meant : words.entryMeant owner amount date ledger = .ok draft)
    (escapes : draft.escape? context ledger today = some failure) :
    words.Exceeds today failure := by
  obtain ⟨account, category, -, -, rfl⟩ := entryMeant_eq_ok meant
  have overruns : ∀ {other : EntryDraft}, other.date = date →
      other.installments = words.installments → other.overrun? today = some failure →
      words.Exceeds today failure := by
    intro other same_date same_count overrun
    unfold EntryDraft.overrun? at overrun
    split_ifs at overrun with behind
    cases overrun
    unfold EntryDraft.Overruns at behind
    rw [same_date, same_count] at behind
    exact .calendar date_eq behind
  unfold EntryDraft.escape? at escapes
  split_ifs at escapes
  unfold EntryDraft.cardEscape? at escapes
  split at escapes
  next card named =>
    split_ifs at escapes with large owned
    · cases escapes
      exact .card named large
    · exact overruns rfl rfl escapes
  next => exact overruns rfl rfl escapes

/-- Adding comes to a failure instead of an ending only where something is out of reach. -/
theorem exceeds_of_escape? (escapes : words.escape? owner today ledger = some failure) :
    words.Exceeds today failure := by
  unfold escape? at escapes
  split at escapes
  next draft meant =>
    obtain ⟨amount, date, -, date_eq, ⟨-, _, -, ⟨⟩⟩ | ⟨-, entry, entry_eq, ⟨⟩⟩⟩ :=
      meant_eq_ok meant
    exact exceeds_of_draft date_eq entry_eq escapes
  next => cases escapes
  next stopped =>
    cases escapes
    exact exceeds_of_meant stopped
  next => cases escapes

end EntryWords

/-! ## How commands end -/

/-- Does an ending tell of success or of a complaint? -/
def Ending.IsOrderly (ending : Ending) : Prop :=
  ending.exitCode = 0 ∨ ∃ complaint, ending = .refused complaint

/-- Does a command come to a failure exactly where there is one to come to, and else to an orderly
ending? -/
def Ends (call : Call Ending) (escape : Option Failure) (world : World) : Prop :=
  match escape with
  | some failure => ∃ after, call world = .error failure after
  | none => ∃ ending after, call world = .ok ending after ∧ ending.IsOrderly

theorem ends_refused (complaint : String) (world : World) :
    Ends (pure (.refused complaint)) none world :=
  ⟨_, world, rfl, .inr ⟨complaint, rfl⟩⟩

/-- A post that the user is told of ends in an orderly way. -/
theorem ends_postDraft {context : OwnerContext} {draft : Draft} {escape : Option Failure}
    (escapes : Escapes (draft.post context) escape world) :
    Ends (postDraft context draft) escape world := by
  have ended := postDraft_eq context draft world
  cases run : draft.post context world with
  | ok text after =>
      rw [run] at ended
      cases escape with
      | some failure =>
          rcases escapes with ⟨-, later, failed⟩
          rw [run] at failed
          cases failed
      | none => exact ⟨_, after, ended, .inl rfl⟩
  | error failure after =>
      rw [run] at ended
      dsimp only at ended
      cases escape with
      | some other =>
          rcases escapes with ⟨untold, later, failed⟩
          rw [run] at failed
          cases failed
          rw [if_pos (not_not.mp untold)] at ended
          exact ⟨after, ended⟩
      | none =>
          rw [if_neg (escapes failure after run)] at ended
          exact ⟨_, after, ended, .inr ⟨_, rfl⟩⟩

theorem isDrawnFrom_atHand (owner : String) (ledger : Ledger) :
    (atHand owner ledger).IsDrawnFrom ledger :=
  ⟨fun _ => Account.mem_of_activeOf, fun _ => Category.mem_of_allOf⟩

/-- A draft that words mean is posted, unless it escapes. -/
theorem escapes_post {draft : Draft} (storable : world.ledger.HasWords)
    (faultless : world.fault = none)
    (meant : words.meant owner world.today world.ledger = .ok draft) :
    Escapes (draft.post (atHand owner world.ledger))
      (words.escape? owner world.today world.ledger) world := by
  unfold EntryWords.escape?
  rw [meant]
  obtain ⟨amount, date, amount_eq, date_eq,
    ⟨-, transfer, transfer_eq, rfl⟩ | ⟨-, entry, entry_eq, rfl⟩⟩ := EntryWords.meant_eq_ok meant
  · obtain ⟨same, source_word, target_word⟩ := EntryWords.of_transferMeant storable transfer_eq
    apply TransferDraft.escapes_post _ _ source_word target_word faultless
    rw [same]
    exact EntryWords.isFinite_of_amountMeant amount_eq
  · obtain ⟨account_word, category_word⟩ := EntryWords.isWord_of_entryMeant storable entry_eq
    have finite : entry.amount.isFinite = true := by
      obtain ⟨account, category, -, -, rfl⟩ := EntryWords.entryMeant_eq_ok entry_eq
      exact EntryWords.isFinite_of_amountMeant amount_eq
    apply EntryDraft.escapes_post finite account_word category_word
    intro holder placed
    exact storable.accounts holder (EntryDraft.owner_of_accountIn (isDrawnFrom_atHand ..) placed).1

theorem ends_addEntry (storable : world.ledger.HasWords) (faultless : world.fault = none) :
    Ends (addEntry owner words) (words.escape? owner world.today world.ledger) world := by
  have planned := (addEntry_endsAs owner words world).eq_of_faultless faultless
  unfold Ends
  rw [planned]
  cases meant : words.meant owner world.today world.ledger with
  | ok draft => exact ends_postDraft (escapes_post storable faultless meant)
  | error hindrance =>
      unfold EntryWords.escape?
      rw [meant]
      cases hindrance with
      | complaint text => exact ends_refused text world
      | failure failure => exact ⟨world, rfl⟩

/-- The failure that words come to instead of an ending, if they ask for something to be added. -/
def escape? (environment : Environment) (words : List String) (today : Date) (ledger : Ledger) :
    Option Failure :=
  match Invocation.ofWords environment words with
  | .ok ⟨named, _, .addEntry entry⟩ =>
      (named.filter (· ≠ "")).bind fun owner => entry.escape? owner today ledger
  | _ => none

/-- What words that ask for something to be added come to instead of an ending is due to what is out
of reach in them. -/
theorem exceeds_of_escape? {environment : Environment} {words : List String}
    (escapes : escape? environment words today ledger = some failure) :
    ∃ named databaseUrl entry,
      Invocation.ofWords environment words = .ok ⟨named, databaseUrl, .addEntry entry⟩
      ∧ entry.Exceeds today failure := by
  unfold escape? at escapes
  split at escapes
  next named databaseUrl entry invoked =>
    rcases Option.bind_eq_some_iff.mp escapes with ⟨owner, -, escapes⟩
    exact ⟨named, databaseUrl, entry, invoked, EntryWords.exceeds_of_escape? escapes⟩
  next => cases escapes

/-- Words that ask for something to be added end in an orderly way or as misuse, but for what
escapes. -/
theorem run_of_escape? {words : List String} (environment : Environment) (site : Site)
    (asks : AsksToAdd words) (storable : world.ledger.HasWords) (faultless : world.fault = none) :
    match escape? environment words world.today world.ledger with
    | some failure => ∃ after, run environment site words world = .error failure after
    | none => ∃ ending after, run environment site words world = .ok ending after
        ∧ (ending.exitCode = 0 ∨ (∃ complaint, ending = (Ending.refused complaint).plain)
          ∨ ∃ error, ending = (Ending.misused error).plain) := by
  unfold run escape?
  rcases asks.ofWords_cases environment with ⟨error, misused⟩ | ⟨named, databaseUrl, entry, invoked⟩
  · rw [misused]
    exact ⟨_, world, rfl, .inr (.inr ⟨error, rfl⟩)⟩
  · rw [invoked]
    have added : Ends (Invocation.run environment site ⟨named, databaseUrl, .addEntry entry⟩)
        ((named.filter (· ≠ "")).bind fun owner =>
          entry.escape? owner world.today world.ledger) world := by
      change Ends (withOwner named fun owner => addEntry owner entry) _ world
      unfold withOwner
      cases named.filter (· ≠ "") with
      | none => exact ends_refused _ world
      | some owner => exact ends_addEntry storable faultless
    dsimp only
    rw [map_eq_bind]
    cases escape : (named.filter (· ≠ "")).bind fun owner =>
        entry.escape? owner world.today world.ledger with
    | some failure =>
        rw [escape] at added
        rcases added with ⟨after, failed⟩
        exact ⟨after, bind_of_error failed⟩
    | none =>
        rw [escape] at added
        rcases added with ⟨ending, after, done, orderly⟩
        refine ⟨ending.plain, after, bind_of_ok done, ?_⟩
        rcases orderly with zero | ⟨complaint, rfl⟩
        · exact .inl zero
        · exact .inr (.inl ⟨complaint, rfl⟩)

end CommandLine

end Cashbook
