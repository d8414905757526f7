import Cashbook.Proofs.CommandLine.Plan
import Cashbook.Proofs.Posting.Effects
import Cashbook.Proofs.Posting.Outcome

/-!
# Adding at the command line

A command that adds either does so and ends with exit code zero, or leaves every table as it was and
ends otherwise.  What it adds is one transfer, or the rows of the installments that its words ask
for.
-/

namespace Cashbook

open Call Money

/-- What a call reads has no effect; the rest of it may have one. -/
theorem Call.EndsAs.hasEffect {Answer : Type} {call rest : Call Answer}
    {effect : Ledger → Answer → Ledger → Prop} {world : World} (ends : EndsAs call rest world)
    (each : ∀ middle, world.Rests middle → HasEffect rest effect middle) :
    HasEffect call effect world := by
  rcases ends with ⟨middle, rests, -, ended | ⟨-, failed⟩⟩
  · rcases each middle rests with ⟨begun, begins, told⟩
    refine ⟨begun, begins.of_rests rests, ?_⟩
    rw [ended]
    exact told
  · exact hasEffect_of_error failed rests.ledger

namespace CommandLine

variable {effect : Ledger → Ledger → Prop} {world : World}

/-! ## Endings -/

/-- What an ending tells of: with exit code zero of an effect on the ledger, and with a complaint of
none. -/
inductive Ending.TellsOf (effect : Ledger → Ledger → Prop) (before : Ledger) :
    Ending → Ledger → Prop where
  | done {ending : Ending} {after : Ledger} (zero : ending.exitCode = 0)
      (affected : effect before after) : Ending.TellsOf effect before ending after
  | refused (complaint : String) : Ending.TellsOf effect before (.refused complaint) before

theorem Ending.TellsOf.mono {other : Ledger → Ledger → Prop} {before after : Ledger}
    {ending : Ending} (told : Ending.TellsOf effect before ending after)
    (each : effect before after → other before after) :
    Ending.TellsOf other before ending after := by
  cases told with
  | done zero affected => exact .done zero (each affected)
  | refused complaint => exact .refused complaint

/-- A complaint has no effect, and a failure has none. -/
theorem hasEffect_settle {Plan : Type} {plan : Except Hindrance Plan} {next : Plan → Call Ending}
    (each : ∀ part, plan = .ok part → HasEffect (next part) (Ending.TellsOf effect) world) :
    HasEffect (settle plan next) (Ending.TellsOf effect) world := by
  cases plan with
  | ok part => exact each part rfl
  | error hindrance =>
      cases hindrance with
      | complaint text => exact hasEffect_of_ok (pure_apply _ _) (.refused text)
      | failure failure => exact hasEffect_of_error (throw_apply _ _) rfl

/-- A draft that is posted is told of; one that is not is complained about, or fails. -/
theorem postDraft_eq (context : OwnerContext) (draft : Draft) (world : World) :
    postDraft context draft world =
      match draft.post context world with
      | .ok text after => .ok (.said text) after
      | .error failure after =>
          if failure.family = .internal then .error failure after
          else .ok (.refused (Wording.failure failure)) after := by
  unfold postDraft orRefused
  rw [tryCatch_apply]
  cases run : draft.post context world with
  | ok text after =>
      rw [bind_of_ok run]
      rfl
  | error failure after =>
      rw [bind_of_error run]
      cases failure <;> rfl

theorem hasEffect_postDraft (context : OwnerContext) (draft : Draft) (world : World) :
    HasEffect (postDraft context draft)
      (Ending.TellsOf (draft.Effect context world.today)) world := by
  rcases draft.hasEffect_post context world with ⟨begun, begins, told⟩
  refine ⟨begun, begins, ?_⟩
  rw [postDraft_eq]
  cases run : draft.post context world with
  | ok text after =>
      rw [run] at told
      exact .done rfl told
  | error failure after =>
      rw [run] at told
      obtain rfl : after.ledger = begun := told
      dsimp only
      split_ifs
      · rfl
      · exact .refused _

/-! ## What words add -/

namespace EntryWords

variable {words : EntryWords} {owner : String} {today : Date} {amount : Decimal}
  {date : Option Date} {ledger shown before after : Ledger}

/-- Are rows the ones that words ask for: one for each installment, each of the owner, the kind and
the amount, and one month apart from the first day on? -/
structure Lists (words : EntryWords) (owner : String) (today : Date) (rows : List Entry) :
    Prop where
  count : (rows.length : Int) = words.installments
  some_row : rows ≠ []
  owner : ∀ row ∈ rows, row.owner = owner
  kind : ∀ row ∈ rows, row.kind = words.kind
  amount : ∃ amount, words.amountMeant = .ok amount
    ∧ ∀ row ∈ rows, Stored.ofDecimal? amount = some row.amount
  dates : ∃ date, dateMeant words.date today = .ok date
    ∧ ∀ index (inside : index < rows.length),
      rows[index].date.IsMonthsAfter (date.getD today) index

/-- What words that an owner gives on a day add to a ledger, if accounts and categories are looked
up in the one that shows: one transfer of the owner, or the rows of the installments with what those
that are due add to the account. -/
inductive Adds (words : EntryWords) (owner : String) (today : Date) (shown before after : Ledger) :
    Prop where
  | transfer {draft : TransferDraft} {id : Int}
      (asked : words.kind = .transfer)
      (meant : words.meant owner today shown = .ok (.transfer draft))
      (moved : Transfer.Effect ⟨owner, draft.source, draft.target, draft.amount⟩
        (Movement.describe (some draft.description)) today before id after)
  | entries {draft : EntryDraft} {account : Option Account} {group : Option String}
      {entries : List NewEntry} {rows : List Entry}
      (asked : words.kind ≠ .transfer)
      (meant : words.meant owner today shown = .ok (.entry draft))
      (placed : draft.accountIn (atHand owner shown) before = .ok account)
      (scheduled : draft.schedule owner (account.map Account.id) group today = .ok entries)
      (recorded : Entry.Recorded entries (rows.map Entry.id) before after)
      (appended : after.entries = before.entries ++ rows)
      (listed : words.Lists owner today rows)

/-- What is added shows in the entries. -/
theorem Adds.ne (adds : words.Adds owner today shown before after) : after ≠ before := by
  have longer : before.entries.length < after.entries.length := by
    cases adds with
    | transfer asked meant moved =>
        cases moved with
        | intro =>
            simp [Transfer.withRows, Ledger.setBalance]
    | entries asked meant placed scheduled recorded appended listed =>
        rw [appended, List.length_append]
        have := List.length_pos_iff.mpr listed.some_row
        omega
  rintro rfl
  exact lt_irrefl _ longer

/-- What is meant by words about an entry. -/
theorem entryMeant_eq_ok {draft : EntryDraft}
    (meant : words.entryMeant owner amount date ledger = .ok draft) :
    ∃ account category, accountMeant? owner words.account ledger = .ok account
      ∧ categoryMeant owner words.category ledger = .ok category
      ∧ draft = {
        amount := amount
        description := words.description
        category := category
        kind := words.kind
        date := date
        installments := words.installments
        account := account
        card := words.card } := by
  rcases Except.bind_eq_ok_iff.mp meant with ⟨account, account_eq, rest⟩
  rcases Except.bind_eq_ok_iff.mp rest with ⟨category, category_eq, ⟨⟩⟩
  exact ⟨account, category, account_eq, category_eq, rfl⟩

/-- What is meant is a transfer exactly when one is asked for. -/
theorem meant_eq_ok {draft : Draft} (meant : words.meant owner today ledger = .ok draft) :
    ∃ amount date, words.amountMeant = .ok amount ∧ dateMeant words.date today = .ok date
      ∧ (words.kind = .transfer ∧ (∃ transfer,
          words.transferMeant owner amount ledger = .ok transfer ∧ draft = .transfer transfer)
        ∨ words.kind ≠ .transfer ∧ ∃ entry,
          words.entryMeant owner amount date ledger = .ok entry ∧ draft = .entry entry) := by
  rcases Except.bind_eq_ok_iff.mp meant with ⟨amount, amount_eq, rest⟩
  rcases Except.bind_eq_ok_iff.mp rest with ⟨date, date_eq, last⟩
  refine ⟨amount, date, amount_eq, date_eq, ?_⟩
  by_cases asked : words.kind = .transfer
  · rw [if_pos asked] at last
    rcases Except.map_eq_ok_iff.mp last with ⟨transfer, transfer_eq, rfl⟩
    exact .inl ⟨asked, transfer, transfer_eq, rfl⟩
  · rw [if_neg asked] at last
    rcases Except.map_eq_ok_iff.mp last with ⟨entry, entry_eq, rfl⟩
    exact .inr ⟨asked, entry, entry_eq, rfl⟩

/-- The rows of a schedule are the ones that the words of its draft ask for. -/
theorem lists_of_schedule {draft : EntryDraft} {account : Option Int} {group : Option String}
    {entries : List NewEntry} {rows : List Entry} (amount_eq : words.amountMeant = .ok amount)
    (date_eq : dateMeant words.date today = .ok date)
    (meant : words.entryMeant owner amount date ledger = .ok draft)
    (some_entry : 1 ≤ draft.installments)
    (scheduled : draft.schedule owner account group today = .ok entries)
    (of_entries : List.Forall₂ Entry.IsRowOf entries rows) : words.Lists owner today rows := by
  obtain ⟨number, category, -, -, rfl⟩ := entryMeant_eq_ok meant
  have length : rows.length = words.installments.toNat := by
    rw [← of_entries.length_eq, EntryDraft.length_of_schedule scheduled]
  have each : ∀ row ∈ rows, row.owner = owner ∧ row.kind = words.kind
      ∧ Stored.ofDecimal? amount = some row.amount := by
    refine Entry.forall_mem_rows of_entries ?_
    refine EntryDraft.forall_mem_schedule scheduled ?_
    rintro place date - - row ⟨id, stored, stored_eq, rfl⟩
    exact ⟨rfl, rfl, stored_eq⟩
  dsimp only at some_entry
  constructor
  · omega
  · rintro rfl
    rw [List.length_nil] at length
    omega
  · exact fun row member => (each row member).1
  · exact fun row member => (each row member).2.1
  · exact ⟨amount, amount_eq, fun row member => (each row member).2.2⟩
  · refine ⟨date, date_eq, ?_⟩
    intro index inside
    exact EntryDraft.date_of_schedule scheduled of_entries index inside

/-- A draft that words mean is posted as they ask. -/
theorem adds_of_effect {draft : Draft} (meant : words.meant owner today shown = .ok draft)
    (posted : draft.Effect (atHand owner shown) today before after) :
    words.Adds owner today shown before after := by
  obtain ⟨amount, date, amount_eq, date_eq, kinds⟩ := meant_eq_ok meant
  rcases kinds with ⟨asked, transfer, -, rfl⟩ | ⟨asked, entry, entry_eq, rfl⟩
  · cases posted with
    | transfer moved => exact .transfer asked meant moved
  · cases posted with
    | entries passes scheduled recorded =>
        rcases recorded.rows with ⟨rows, of_entries, rfl, appended⟩
        exact .entries asked meant passes.account scheduled recorded appended
          (lists_of_schedule amount_eq date_eq entry_eq passes.some_entry scheduled of_entries)

end EntryWords

/-! ## Commands that add -/

theorem hasEffect_addEntry (owner : String) (words : EntryWords) (world : World) :
    HasEffect (addEntry owner words)
      (Ending.TellsOf (words.Adds owner world.today world.ledger)) world := by
  apply (addEntry_endsAs owner words world).hasEffect
  intro middle rests
  apply hasEffect_settle
  intro draft meant
  apply (hasEffect_postDraft (atHand owner world.ledger) draft middle).mono
  rintro begun ending after told
  rw [rests.today] at told
  exact told.mono (EntryWords.adds_of_effect meant)

/-- Do words ask for something to be added, and not for help? -/
def AsksToAdd (words : List String) : Prop :=
  ∃ given arguments, Given.ofWords ["--database-url", "--owner"] false words = .ok given
    ∧ given.help = false ∧ given.arguments = "add" :: arguments
    ∧ Command.entryForm.read arguments ≠ .error .help

/-- What a form makes of words is made by its change. -/
theorem Form.read_map_eq_ok {First Second : Type} {change : First → Second} {form : Form First}
    {words : List String} {made : Second} (read : (form.map change).read words = .ok made) :
    ∃ value, made = change value := by
  rcases Except.bind_eq_ok_iff.mp read with ⟨given, -, rest⟩
  cases helps : given.help with
  | true =>
      rw [helps] at rest
      cases rest
  | false =>
      rw [helps] at rest
      rcases Except.bind_eq_ok_iff.mp rest with ⟨_, -, valued⟩
      change ((form.value given).map change).mapError Interruption.misuse = .ok made at valued
      cases first : form.value given with
      | ok value =>
          rw [first] at valued
          cases valued
          exact ⟨value, rfl⟩
      | error error =>
          rw [first] at valued
          cases valued

/-- Words that ask for something to be added are misused or make a command that adds. -/
theorem AsksToAdd.ofWords_cases {words : List String} (asks : AsksToAdd words)
    (environment : Environment) :
    (∃ error, Invocation.ofWords environment words = .error (.misuse error))
      ∨ ∃ owner databaseUrl entry,
        Invocation.ofWords environment words = .ok ⟨owner, databaseUrl, .addEntry entry⟩ := by
  rcases asks with ⟨⟨_, options, _⟩, arguments, given_eq, rfl, rfl, not_help⟩
  have some_word : words.isEmpty = false := by
    cases words with
    | nil => cases given_eq
    | cons word rest => rfl
  have step : Invocation.ofWords environment words =
      Command.entryForm.read arguments >>= fun command => pure
        ⟨Invocation.valueOr ⟨false, options, "add" :: arguments⟩ "--owner" environment
            Invocation.ownerVariable,
          Invocation.valueOr ⟨false, options, "add" :: arguments⟩ "--database-url" environment
            Environment.databaseUrl,
          command⟩ := by
    unfold Invocation.ofWords
    rw [some_word, given_eq]
    rfl
  rw [step]
  cases read : Command.entryForm.read arguments with
  | ok command =>
      rcases Form.read_map_eq_ok read with ⟨entry, rfl⟩
      exact .inr ⟨_, _, entry, rfl⟩
  | error interruption =>
      cases interruption with
      | help => exact absurd read not_help
      | misuse error => exact .inl ⟨error, rfl⟩

/-- Only the owner that a command acts for is added to. -/
theorem hasEffect_runInvocation (environment : Environment) (site : Site)
    (named databaseUrl : Option String) (entry : EntryWords) (world : World) :
    HasEffect (Invocation.run environment site ⟨named, databaseUrl, .addEntry entry⟩)
      (Ending.TellsOf fun before after => ∃ owner, named = some owner
        ∧ entry.Adds owner world.today world.ledger before after) world := by
  change HasEffect (withOwner named fun owner => addEntry owner entry) _ world
  unfold withOwner
  cases owned : named.filter (· ≠ "") with
  | none => exact hasEffect_of_ok (pure_apply _ _) (.refused _)
  | some owner =>
      have same : named = some owner := (Option.filter_eq_some_iff.mp owned).1
      apply (hasEffect_addEntry owner entry world).mono
      intro begun ending after told
      exact told.mono fun adds => ⟨owner, same, adds⟩

/-- A command that adds changes the ledger exactly when it ends with exit code zero, whatever fault
is armed: then it adds one transfer of the owner, or the rows that its words ask for.  All other
endings are complaints or misuse, and they leave the ledger as it was, as does a command without an
ending. -/
theorem add_changes_iff_exit_zero (environment : Environment) (site : Site) (words : List String)
    (world : World) (asks : AsksToAdd words) :
    ∃ begun, Transfer.Begins world begun ∧
      match run environment site words world with
      | .ok ending after =>
          (after.ledger ≠ begun ↔ ending.exitCode = 0)
          ∧ (ending.exitCode = 0 → ∃ owner databaseUrl entry,
            Invocation.ofWords environment words = .ok ⟨some owner, databaseUrl, .addEntry entry⟩
            ∧ entry.Adds owner world.today world.ledger begun after.ledger)
          ∧ (ending.exitCode ≠ 0 → (∃ complaint, ending = (Ending.refused complaint).plain)
            ∨ ∃ error, ending = (Ending.misused error).plain)
      | .error _ after => after.ledger = begun := by
  unfold run
  rcases asks.ofWords_cases environment with ⟨error, misused⟩ | ⟨named, databaseUrl, entry, invoked⟩
  · rw [misused]
    have two : (Ending.misused error).plain.exitCode ≠ 0 := Nat.succ_ne_zero 1
    refine ⟨world.ledger, .alone, ⟨fun changed => absurd rfl changed, fun zero => absurd zero two⟩,
      fun zero => absurd zero two, fun _ => .inr ⟨error, rfl⟩⟩
  · rcases hasEffect_runInvocation environment site named databaseUrl entry world with
      ⟨begun, begins, told⟩
    refine ⟨begun, begins, ?_⟩
    rw [invoked]
    dsimp only
    rw [map_eq_bind]
    cases ran : Invocation.run environment site ⟨named, databaseUrl, .addEntry entry⟩ world with
    | ok ending after =>
        rw [ran] at told
        rw [bind_of_ok ran]
        cases told with
        | done zero added =>
            rcases added with ⟨owner, rfl, adds⟩
            exact ⟨⟨fun _ => zero, fun _ => adds.ne⟩,
              fun _ => ⟨owner, databaseUrl, entry, rfl, adds⟩, fun other => absurd zero other⟩
        | refused complaint =>
            have one : (Ending.refused complaint).plain.exitCode ≠ 0 := Nat.succ_ne_zero 0
            exact ⟨⟨fun changed => absurd rfl changed, fun zero => absurd zero one⟩,
              fun zero => absurd zero one, fun _ => .inl ⟨complaint, rfl⟩⟩
    | error failure after =>
        rw [ran] at told
        rw [bind_of_error ran]
        exact told

/-- The words for a bicycle in three installments. -/
def bicycleWords : List String :=
  ["--owner", "ana", "add", "--amount", "100.10", "--description", "Bicicleta", "--account",
    "Carteira", "--date", "2024-01-31", "--installments", "3"]

/-- A day in March, and an owner with one account. -/
def middleOfMarch : World where
  ledger := EntryDraft.walletLedger
  today := ⟨2024, 3, 15, by decide⟩
  now := ⟨⟨2024, 3, 15, by decide⟩, 0⟩

/-- The bicycle is added, and the command ends with exit code zero. -/
theorem add_changes_iff_exit_zero_bicycle :
    AsksToAdd bicycleWords ∧ ∃ ending after,
      run [] ⟨none, "/home/ana"⟩ bicycleWords middleOfMarch = .ok ending after
      ∧ ending.exitCode = 0 ∧ after.ledger ≠ middleOfMarch.ledger
      ∧ ∃ entry : EntryWords, entry.installments = 3
        ∧ entry.Adds "ana" middleOfMarch.today middleOfMarch.ledger middleOfMarch.ledger
          after.ledger := by
  have asks : AsksToAdd bicycleWords := by
    refine ⟨_, _, rfl, rfl, rfl, ?_⟩
    decide +kernel
  have exit : (answer (run [] ⟨none, "/home/ana"⟩ bicycleWords) middleOfMarch).toOption.map
      Ending.exitCode = some 0 := by
    decide +kernel
  rcases add_changes_iff_exit_zero [] ⟨none, "/home/ana"⟩ bicycleWords middleOfMarch asks with
    ⟨begun, begins, told⟩
  obtain rfl := begins.eq_of_isRaceless (World.point_ne_of_faultless rfl _)
  refine ⟨asks, ?_⟩
  unfold answer at exit
  cases ran : run [] ⟨none, "/home/ana"⟩ bicycleWords middleOfMarch with
  | error failure after =>
      rw [ran] at exit
      cases exit
  | ok ending after =>
      rw [ran] at exit told
      have zero : ending.exitCode = 0 := Option.some.inj exit
      rcases told with ⟨changes, adds, -⟩
      rcases adds zero with ⟨owner, databaseUrl, entry, invoked, added⟩
      have command : Invocation.ofWords [] bicycleWords = .ok ⟨some "ana", none, .addEntry
          ⟨"100.10", "Bicicleta", .expense, some "Carteira", none, none, none, some "2024-01-31",
            3⟩⟩ := by
        decide +kernel
      rw [command] at invoked
      cases invoked
      exact ⟨ending, after, rfl, zero, changes.mpr zero, _, rfl, added⟩

end CommandLine

end Cashbook
