import Cashbook.Proofs.Evolution

/-!
# What rows refer to

Storage checks no reference between tables.  Yet an entry never names an account, a card or a
category that its owner does not have, because whoever writes it has looked them up, and nothing
that is written is ever deleted.
-/

namespace Cashbook

open Call Money

/-- A positive amount that can be moved is read as positive. -/
theorem Money.Stored.value_toDecimal_pos {amount : Decimal} {stored : Stored}
    (positive : amount.isNotPositive = .ok false) (whole : isWholeCents amount = true)
    (stored_eq : ofDecimal? amount = some stored) : 0 < stored.toDecimal.value := by
  rcases exists_isCents_pos positive whole with ⟨cents, counted, some_cents, few⟩
  by_cases small : cents.natAbs < 100
  · have range : |(cents : ℚ) / 100| < 2 ^ 0 := by
      have bounded : (cents : ℚ) < 100 := by
        have : cents < 100 := by omega
        exact_mod_cast this
      have above : (0 : ℚ) < cents := by exact_mod_cast some_cents
      rw [abs_of_pos (by positivity), div_lt_iff₀ (by norm_num)]
      linarith
    rcases exists_ofDecimal?_eq counted (by norm_num) range with ⟨same, same_eq, near⟩
    obtain rfl : stored = same := Option.some.inj (stored_eq.symm.trans same_eq)
    have read := near.isCents_toDecimal (by norm_num)
    rw [(Decimal.isCents_iff.mp read).2]
    exact div_pos (by exact_mod_cast some_cents) (by norm_num)
  · rw [ofDecimal?_of_isCents_of_pos counted some_cents few] at stored_eq
    obtain rfl := Option.some.inj stored_eq
    have large := @Binary64.le_hundredths_nearest cents.natAbs 0 (by omega)
    rw [toDecimal, Int.natAbs_natCast, decide_eq_false (by omega), Decimal.ofCents, Decimal.value]
    generalize Binary64.hundredths _ = read at large ⊢
    have some_read : (0 : ℚ) < read := by
      have : 0 < read := by omega
      exact_mod_cast this
    exact mul_pos some_read (by norm_num)

namespace Ledger

variable {before after : Ledger} {owner : String} {id : Int}

/-! ## Rows that stay -/

/-- Does an owner keep all accounts, cards and categories? -/
structure Grows (before after : Ledger) : Prop where
  account : ∀ {owner id}, before.HasAccount owner id → after.HasAccount owner id
  card : ∀ {owner id}, before.HasCard owner id → after.HasCard owner id
  category : ∀ {owner id}, before.HasCategory owner id → after.HasCategory owner id

/-- What an account holds does not matter to whether it is there. -/
theorem hasAccount_iff_emptied {ledger : Ledger} :
    ledger.HasAccount owner id
      ↔ ∃ account ∈ ledger.emptied, account.id = id ∧ account.owner = owner := by
  simp [HasAccount, emptied]

theorem hasAccount_of_account? {ledger : Ledger} {account : Account}
    (found : ledger.account? owner id = some account) : ledger.HasAccount owner id := by
  rcases account?_spec found with ⟨member, same_id, same_owner⟩
  exact ⟨account, member, same_id, same_owner⟩

/-- Where accounts change in what they hold only, and cards and categories stay, nothing is lost. -/
theorem grows_of_emptied (accounts : after.emptied = before.emptied)
    (cards : after.cards = before.cards) (categories : after.categories = before.categories) :
    before.Grows after where
  account := by
    intro owner id
    rw [hasAccount_iff_emptied, hasAccount_iff_emptied, accounts]
    exact fun found => found
  card := by
    intro owner id found
    rwa [HasCard, cards]
  category := by
    intro owner id found
    rwa [HasCategory, categories]

/-- No change takes a row away. -/
theorem Change.grows (change : Change before after) : before.Grows after := by
  cases change with
  | bound owner chat => exact grows_of_emptied rfl rfl rfl
  | released id => exact grows_of_emptied rfl rfl rfl
  | opened stored owner name kind now =>
      refine ⟨?_, fun found => found, fun found => found⟩
      rintro _ _ ⟨account, member, same⟩
      exact ⟨account, List.mem_append_left _ member, same⟩
  | closed id =>
      refine ⟨?_, fun found => found, fun found => found⟩
      rintro _ _ ⟨account, member, same⟩
      refine ⟨_, List.mem_map_of_mem member, ?_⟩
      split_ifs
      · exact same
      · exact same
  | issued stored owner name brand closingDay dueDay =>
      refine ⟨fun found => found, ?_, fun found => found⟩
      rintro _ _ ⟨card, member, same⟩
      exact ⟨card, List.mem_append_left _ member, same⟩
  | named owner name kind =>
      refine ⟨fun found => found, fun found => found, ?_⟩
      rintro _ _ ⟨category, member, same⟩
      exact ⟨category, List.mem_append_left _ member, same⟩
  | recorded written new =>
      exact grows_of_emptied written.kept (by rw [written.frame]) (by rw [written.frame])
  | moved effect =>
      have kept := effect.emptied_eq
      cases effect
      exact grows_of_emptied kept rfl rfl

/-! ## References -/

/-- Is the entry of a positive amount, on an account or a card, and does its owner have whatever it
names? -/
structure Anchors (ledger : Ledger) (entry : Entry) : Prop where
  positive : 0 < entry.amount.toDecimal.value
  placed : entry.account.isSome ∨ entry.card.isSome
  account : ∀ id, entry.account = some id → ledger.HasAccount entry.owner id
  destination : ∀ id, entry.destination = some id → ledger.HasAccount entry.owner id
  card : ∀ id, entry.card = some id → ledger.HasCard entry.owner id
  category : ∀ id, entry.category = some id → ledger.HasCategory entry.owner id

/-- Does the transfer join two accounts that its owner has? -/
structure Connects (ledger : Ledger) (transfer : Transfer) : Prop where
  apart : transfer.source ≠ transfer.target
  source : ledger.HasAccount transfer.owner transfer.source
  target : ledger.HasAccount transfer.owner transfer.target

/-- Do all entries and transfers refer to what their owners have? -/
structure IsReferential (ledger : Ledger) : Prop where
  entries : ∀ entry ∈ ledger.entries, ledger.Anchors entry
  transfers : ∀ transfer ∈ ledger.transfers, ledger.Connects transfer

theorem isReferential_empty : empty.IsReferential :=
  ⟨by simp [empty], by simp [empty]⟩

theorem Grows.anchors {entry : Entry} (grows : before.Grows after)
    (anchors : before.Anchors entry) : after.Anchors entry where
  positive := anchors.positive
  placed := anchors.placed
  account id named := grows.account (anchors.account id named)
  destination id named := grows.account (anchors.destination id named)
  card id named := grows.card (anchors.card id named)
  category id named := grows.category (anchors.category id named)

theorem Grows.connects {transfer : Transfer} (grows : before.Grows after)
    (connects : before.Connects transfer) : after.Connects transfer :=
  ⟨connects.apart, grows.account connects.source, grows.account connects.target⟩

/-- New rows that refer to what was there before keep a ledger referential. -/
theorem IsReferential.append {rows : List Entry} {transfers : List Transfer}
    (sound : before.IsReferential) (grows : before.Grows after)
    (entries_eq : after.entries = before.entries ++ rows)
    (transfers_eq : after.transfers = before.transfers ++ transfers)
    (anchored : ∀ row ∈ rows, before.Anchors row)
    (connected : ∀ transfer ∈ transfers, before.Connects transfer) : after.IsReferential where
  entries := by
    intro entry member
    rcases List.mem_append.mp (entries_eq ▸ member) with earlier | new
    · exact grows.anchors (sound.entries entry earlier)
    · exact grows.anchors (anchored entry new)
  transfers := by
    intro transfer member
    rcases List.mem_append.mp (transfers_eq ▸ member) with earlier | new
    · exact grows.connects (sound.transfers transfer earlier)
    · exact grows.connects (connected transfer new)

/-- What touches neither entries nor transfers keeps a ledger referential. -/
theorem IsReferential.setUp (sound : before.IsReferential)
    (setUp : Relation.ReflTransGen IsSetUp before after) : after.IsReferential := by
  induction setUp with
  | refl => exact sound
  | tail _ last ih =>
      exact ih.append last.change.grows (by rw [last.entries, List.append_nil])
        (by rw [last.transfers, List.append_nil]) (by simp) (by simp)

end Ledger

/-! ## Posting -/

/-- The rows of a draft that is posted refer to what the owner has. -/
theorem EntryDraft.anchors_of_passes {draft : EntryDraft} {context : OwnerContext}
    {ledger : Ledger} {account : Option Account} {entries : List NewEntry} {rows : List Entry}
    {group : Option String} {today : Date} (drawn : context.IsDrawnFrom ledger)
    (sorted : ∀ category, draft.category = some category → category ∈ context.categories)
    (passes : draft.Passes context ledger account)
    (scheduled : draft.schedule context.owner (account.map Account.id) group today = .ok entries)
    (of_entries : List.Forall₂ Entry.IsRowOf entries rows) : ∀ row ∈ rows, ledger.Anchors row := by
  refine Entry.forall_mem_rows of_entries (forall_mem_schedule scheduled fun place date _ _ => ?_)
  rintro _ ⟨id, stored, stored_eq, rfl⟩
  refine ⟨Stored.value_toDecimal_pos passes.positive passes.whole stored_eq, ?_, ?_,
    by simp [Entry.ofNew], passes.card, ?_⟩
  · cases account with
    | some holder => exact .inl rfl
    | none => exact .inr (card_of_accountIn passes.account)
  · intro id assigned
    rcases Option.map_eq_some_iff.mp assigned with ⟨holder, rfl, rfl⟩
    rcases owner_of_accountIn drawn passes.account with ⟨member, same⟩
    exact ⟨holder, member, rfl, same⟩
  · intro id assigned
    rcases Option.map_eq_some_iff.mp assigned with ⟨category, chosen, rfl⟩
    rcases drawn.categories category (sorted category chosen) with ⟨member, same⟩
    exact ⟨category, member, rfl, same⟩

/-! ## Moving -/

/-- Does a movement join two accounts by a positive number of whole cents? -/
structure Movement.IsFair (movement : Movement) : Prop where
  apart : movement.source ≠ movement.target
  positive : movement.amount.isNotPositive = .ok false
  whole : isWholeCents movement.amount = true

/-- The owner has had both accounts of a transfer before. -/
theorem Transfer.Effect.hasAccount {movement : Movement} {description : String} {date : Date}
    {id : Int} {before after : Ledger} (effect : Effect movement description date before id after) :
    before.HasAccount movement.owner movement.source
      ∧ before.HasAccount movement.owner movement.target := by
  cases effect with
  | intro source_found stored covered debited target_found credited =>
    refine ⟨Ledger.hasAccount_of_account? source_found, ?_⟩
    have there := Ledger.hasAccount_of_account? target_found
    rwa [Ledger.hasAccount_iff_emptied, Ledger.emptied_setBalance,
      ← Ledger.hasAccount_iff_emptied] at there

/-- The rows of a fair transfer refer to what the owner has. -/
theorem Transfer.Effect.isReferential {movement : Movement} {description : String} {date : Date}
    {id : Int} {before after : Ledger} (fair : movement.IsFair) (sound : before.IsReferential)
    (effect : Effect movement description date before id after) : after.IsReferential := by
  have grows := (Ledger.Change.moved effect).grows
  rcases effect.hasAccount with ⟨source_there, target_there⟩
  cases effect with
  | @intro source target amount left gained source_found stored covered debited target_found
      credited =>
    have positive := Stored.value_toDecimal_pos fair.positive fair.whole stored
    refine sound.append grows rfl rfl ?_ ?_
    · rw [List.forall_mem_cons, List.forall_mem_singleton]
      constructor
      · exact ⟨positive, .inl rfl, by rintro _ ⟨⟩; exact source_there,
          by rintro _ ⟨⟩; exact target_there, by simp [side], by simp [side]⟩
      · exact ⟨positive, .inl rfl, by rintro _ ⟨⟩; exact target_there, by simp [side],
          by simp [side], by simp [side]⟩
    · rw [List.forall_mem_singleton]
      exact ⟨fair.apart, source_there, target_there⟩

/-! ## Whatever is asked for -/

namespace World

/-- Is the transfer that is about to slip in a fair one? -/
def HasFairRival (world : World) : Prop :=
  ∀ fault, world.fault = some fault → ∀ rival, fault.rival = some rival → rival.IsFair

theorem Follows.hasFairRival {before after : World} (follows : before.Follows after)
    (fair : before.HasFairRival) : after.HasFairRival := by
  intro fault armed rival slipping
  rcases follows.fault fault armed with ⟨earlier, earlier_armed, -, same⟩
  exact fair earlier earlier_armed rival (same ▸ slipping)

/-- Is the ledger referential, and no unfair transfer about to slip in? -/
structure IsReferential (world : World) : Prop where
  ledger : world.ledger.IsReferential
  fair : world.HasFairRival

theorem isInvariant_isReferential : IsInvariant IsReferential Movement.IsFair where
  prepares prepared sound :=
    ⟨sound.ledger.setUp prepared.setUp, prepared.hasFairRival sound.fair⟩
  posts := by
    rintro draft context ledger drawn sorted world rfl sound
    refine ⟨?_, ((draft.atomic_post context).proceeds world).hasFairRival sound.fair⟩
    cases run : draft.post context world with
    | error failure after =>
        rw [worldAfter_of_error run, EntryDraft.restores_post draft context run]
        exact sound.ledger
    | ok text after =>
        rw [worldAfter_of_ok run]
        obtain ⟨account, entries, ids, passes, scheduled, record, -⟩ := EntryDraft.post_eq_ok run
        obtain ⟨-, -, -, -, -, -, -, new, -⟩ := Entry.record_eq_ok record
        have written := Entry.recorded_of_record_eq_ok record
        rw [EntryDraft.ledger_named] at written new
        rcases written.rows with ⟨rows, of_entries, -, appended⟩
        have unmoved : after.ledger.transfers = world.ledger.transfers ++ [] := by
          rw [written.frame, List.append_nil]
        exact sound.ledger.append (Ledger.Change.recorded written new).grows appended unmoved
          (EntryDraft.anchors_of_passes drawn sorted passes scheduled of_entries) (by simp)
  moves := by
    intro movement description date fair world sound
    refine ⟨?_, (Transfer.proceeds_perform movement description date world).hasFairRival sound.fair⟩
    cases run : Transfer.perform movement description date world with
    | error failure after =>
        rw [worldAfter_of_error run, ledger_of_atomically_error run]
        exact sound.ledger
    | ok id after =>
        rw [worldAfter_of_ok run]
        exact (Transfer.effect_of_perform_eq_ok run).isReferential fair sound.ledger
  rivals sound armed slipping := sound.fair _ armed _ slipping
  requests valid := by
    rcases Movement.validate_eq_ok valid with ⟨-, positive, whole, admitted⟩
    exact ⟨admitted.apart, positive, whole⟩

end World

/-- Is the step a service, or one after which no unfair transfer slips in? -/
def Step.IsFair : Step → Prop
  | wait _ _ fault => ∀ shown, fault = some shown → ∀ rival, shown.rival = some rival → rival.IsFair
  | ask operation => operation.IsService

/-- Whatever services do to an empty ledger, and wherever storage fails, every entry is of a
positive amount and on an account or a card, every account, card and category that it names belongs
to its owner, and every transfer joins two accounts of its owner. -/
theorem Ledger.isReferential_later (today : Date) (now : Instant) (steps : List Step)
    (fair : ∀ step ∈ steps, step.IsFair) :
    ((World.start today now).later steps).ledger.IsReferential := by
  have each : ∀ step ∈ steps, Call.Maintains World.IsReferential step.call := by
    intro step member
    have sound := fair step member
    cases step with
    | wait today now fault => exact fun world started => ⟨started.ledger, sound⟩
    | ask operation => exact World.isInvariant_isReferential.maintains_call sound
  have started : (World.start today now).IsReferential :=
    ⟨isReferential_empty, by rintro fault ⟨⟩⟩
  exact (World.maintains_later each _ started).ledger

/-- Two accounts, and a transfer that another one forestalls. -/
def forestalled : List Step :=
  [.ask (.createAccount "ana" "Carteira" .wallet (.ofCents false 20000)),
   .ask (.createAccount "ana" "Poupança" .savings (.ofCents false 0)),
   .wait World.newYear.today World.newYear.now
     (some { point := .race, rival := some ⟨"ana", 1, 2, .ofCents false 5000⟩ }),
   .ask (.requestTransfer "ana" 1 2 (some (.ofCents false 7000)) none)]

/-- Both transfers are done, and their entries and records refer to the two accounts. -/
theorem Ledger.isReferential_later_forestalled :
    let ledger := ((World.start World.newYear.today World.newYear.now).later forestalled).ledger
    ledger.entries.map Entry.account = [some 1, some 2, some 1, some 2]
      ∧ ledger.transfers.length = 2 ∧ ledger.IsReferential := by
  have fair : ∀ step ∈ forestalled, step.IsFair := by
    simp only [forestalled, List.forall_mem_cons]
    refine ⟨trivial, trivial, ?_, trivial, by simp⟩
    rintro shown ⟨⟩ rival ⟨⟩
    exact ⟨by decide, by decide +kernel, by decide +kernel⟩
  exact ⟨by decide +kernel, by decide +kernel,
    isReferential_later World.newYear.today World.newYear.now forestalled fair⟩

end Cashbook
