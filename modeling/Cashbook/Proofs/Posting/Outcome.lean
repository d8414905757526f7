import Cashbook.Proofs.Ledger.Sums
import Cashbook.Proofs.Posting.Drafts

/-!
# How posting a draft ends

A draft is refused for the first condition that it fails, and then nothing has happened.  A draft
that is not refused is written with all of its entries, and its account changes once, by the exact
sum of the entries that are due; only a fault of storage stands between, and it leaves the ledger
as it was.
-/

namespace Cashbook

open Call Money

namespace EntryDraft

variable {draft : EntryDraft} {context : OwnerContext} {account : Option Account}
  {entries : List NewEntry} {owner : String} {today base : Date} {group : Option String}
  {world after : World} {failure : Failure}

/-! ## Why a draft is refused -/

/-- What is wrong with a draft whatever the ledger. -/
def flaw? (draft : EntryDraft) : Option Failure :=
  if draft.amount.value ≤ 0 then some .amountNotPositive
  else if isWholeCents draft.amount = false then some .amountBelowCent
  else if draft.installments < 1 then some .installmentCount
  else none

/-- Why a draft has no account to be posted to. -/
def lackedAccount? (draft : EntryDraft) (context : OwnerContext) (ledger : Ledger) :
    Option Failure :=
  match draft.accountIn context ledger with
  | .ok _ => none
  | .error failure => some failure

/-- Why a draft cannot be charged to its card. -/
def lackedCard? (draft : EntryDraft) (owner : String) (ledger : Ledger) : Option Failure :=
  match draft.card with
  | some card => if ledger.HasCard owner card then none else some (.cardMissing card)
  | none => none

/-- Why a draft has no schedule. -/
def overrun? (draft : EntryDraft) (today : Date) : Option Failure :=
  if draft.Overruns today then some (.calendar (.yearOutOfRange 10000)) else none

/-- Why a draft is refused, if it is: the first condition that it fails. -/
def refusal? (draft : EntryDraft) (context : OwnerContext) (ledger : Ledger) (today : Date) :
    Option Failure :=
  draft.flaw?.or <| (draft.lackedAccount? context ledger).or <|
    (draft.lackedCard? context.owner ledger).or <| draft.overrun? today

/-- Do all numbers that a draft gives fit into 64 bits? -/
structure HasWords (draft : EntryDraft) : Prop where
  account : ∀ id, draft.account = some id → Integer.isWord id = true
  card : ∀ id, draft.card = some id → Integer.isWord id = true
  category : ∀ category, draft.category = some category → Integer.isWord category.id = true

theorem check_eq (finite : draft.amount.isFinite = true) (world : World) :
    draft.check world =
      match draft.flaw? with
      | some failure => .error failure world
      | none => .ok () world := by
  rw [check, Decimal.isNotPositive_of_isFinite finite,
    bind_of_ok (ofArithmetic_eq_ok_iff.mpr ⟨rfl, rfl⟩)]
  unfold flaw?
  by_cases nothing : draft.amount.value ≤ 0
  · simp only [nothing, decide_true, if_true]
    exact bind_of_error (throw_apply _ _)
  · by_cases part : isWholeCents draft.amount = false
    · simp only [nothing, part, decide_false, if_false, Bool.false_eq_true, if_true, Bool.not_false]
      exact bind_of_error (throw_apply _ _)
    · by_cases few : draft.installments < 1
      · simp [nothing, part, few, throw_apply]
      · simp [nothing, part, few, pure_apply]

/-- A draft that lacks nothing passes its checks. -/
theorem exists_passes (finite : draft.amount.isFinite = true) (words : draft.HasWords)
    (sound : draft.flaw? = none) (placed : draft.lackedAccount? context world.ledger = none)
    (carded : draft.lackedCard? context.owner world.ledger = none) :
    ∃ account, draft.Passes context world.ledger account := by
  have checked := draft.check_eq finite world
  rw [sound] at checked
  rcases check_eq_ok_iff.mp checked with ⟨-, positive, whole, some_entry⟩
  cases chosen : draft.accountIn context world.ledger with
  | error failure => simp [lackedAccount?, chosen] at placed
  | ok account =>
      refine ⟨account, positive, whole, some_entry, words.account, chosen, words.card, ?_⟩
      intro id named
      by_contra unowned
      simp [lackedCard?, named, unowned] at carded

/-- A draft that nothing refuses passes its checks and stays within the calendar. -/
theorem passes_of_refusal? (finite : draft.amount.isFinite = true) (words : draft.HasWords)
    (accepted : draft.refusal? context world.ledger today = none) :
    ∃ account, draft.Passes context world.ledger account ∧ ¬draft.Overruns today := by
  simp only [refusal?, Option.or_eq_none_iff] at accepted
  rcases accepted with ⟨sound, placed, carded, in_time⟩
  rcases exists_passes finite words sound placed carded with ⟨account, passes⟩
  refine ⟨account, passes, ?_⟩
  intro overrun
  simp [overrun?, overrun] at in_time

/-- What is refused is told. -/
theorem post_of_refusal? (finite : draft.amount.isFinite = true) (words : draft.HasWords)
    (refused : draft.refusal? context world.ledger world.today = some failure) :
    ∃ after, draft.post context world = .error failure after := by
  have checked := draft.check_eq finite world
  rcases Option.or_eq_some_iff.mp refused with flawed | ⟨sound, refused⟩
  · rw [flawed] at checked
    exact ⟨world, bind_of_error checked⟩
  · rw [sound] at checked
    have found : draft.accountFor context world = _ := accountFor_eq words.account
    rcases Option.or_eq_some_iff.mp refused with unplaced | ⟨placed, refused⟩
    · cases chosen : draft.accountIn context world.ledger with
      | ok account => simp [lackedAccount?, chosen] at unplaced
      | error early =>
          simp only [lackedAccount?, chosen] at unplaced found
          cases unplaced
          rw [post, postWith, bind_of_ok checked]
          exact ⟨world, bind_of_error found⟩
    · rcases Option.or_eq_some_iff.mp refused with uncarded | ⟨carded, late⟩
      · cases chosen : draft.accountIn context world.ledger with
        | error early => simp [lackedAccount?, chosen] at placed
        | ok account =>
            have owned : draft.checkCard context.owner world = _ := checkCard_eq words.card
            unfold lackedCard? at uncarded
            split at uncarded
            next card named =>
              split_ifs at uncarded with unowned
              cases uncarded
              simp only [named, if_neg unowned] at owned
              simp only [chosen] at found
              rw [post, postWith, bind_of_ok checked, bind_of_ok found]
              exact ⟨world, bind_of_error owned⟩
            next => cases uncarded
      · rcases exists_passes finite words sound placed carded with ⟨account, passes⟩
        unfold overrun? at late
        split_ifs at late with overrun
        cases late
        rw [post_of_passes passes, schedule_of_overrun passes.some_entry overrun]
        exact ⟨_, rfl⟩

/-! ## The entries of a draft -/

/-- Every entry of a draft that passes can be written. -/
theorem Passes.isWritable (passes : draft.Passes context world.ledger account)
    (words : draft.HasWords)
    (holder_word : ∀ holder, account = some holder → Integer.isWord holder.id = true)
    (in_time : ¬draft.Overruns today)
    (scheduled : draft.schedule owner (account.map Account.id) group today = .ok entries) :
    ∀ entry ∈ entries, Entry.IsWritable entry := by
  have bounds := (draft.date.getD today).monthCount_bounds
  have limit : Integer.wordLimit = 9223372036854775808 := rfl
  unfold Overruns at in_time
  have small : ∀ number : Int, 1 ≤ number → number ≤ draft.installments →
      Integer.isWord number = true := by
    intro number first last
    rw [Integer.isWord, decide_eq_true_iff]
    omega
  refine forall_mem_schedule scheduled fun place date first last => ?_
  rcases exists_isCents_pos passes.positive passes.whole with ⟨cents, counted, -⟩
  refine ⟨⟨?_, words.card, ?_, ?_, ?_⟩, counted.1⟩
  · intro id assigned
    rcases Option.map_eq_some_iff.mp assigned with ⟨holder, chosen, rfl⟩
    exact holder_word holder chosen
  · intro id assigned
    rcases Option.map_eq_some_iff.mp assigned with ⟨category, chosen, rfl⟩
    exact words.category category chosen
  · intro index placed
    simp only [entryAt, placeOf] at placed
    split_ifs at placed
    cases placed
    exact small place (by omega) (by omega)
  · intro total placed
    simp only [entryAt, placeOf] at placed
    split_ifs at placed
    cases placed
    exact small draft.installments passes.some_entry le_rfl

/-- The cents of an entry with the sign of its effect. -/
def signed (draft : EntryDraft) (cents : Int) : Int :=
  if draft.kind = .income then cents else -cents

/-- Every entry of a draft adds the amount with its sign once it is due. -/
theorem adds_of_schedule {holder : Account} {cents : Int} (counted : draft.amount.IsCents cents)
    (few : cents.natAbs < 10 ^ 28)
    (scheduled : draft.schedule owner (some holder.id) group today = .ok entries) :
    ∀ entry ∈ entries, Entry.Adds owner holder.id (draft.signed cents) entry := by
  rcases Decimal.exists_neg_eq_of_isCents counted few with ⟨turned, turned_eq, turned_counted⟩
  refine forall_mem_schedule scheduled fun place date _ _ => ?_
  refine ⟨rfl, rfl, ?_⟩
  by_cases reached : date ≤ today
  · by_cases income : draft.kind = .income
    · refine ⟨draft.amount, ?_, ?_⟩
      · simp [NewEntry.balanceDelta, entryAt, reached, income]
      · simpa [entryAt, reached, signed, income] using counted
    · refine ⟨turned, ?_, ?_⟩
      · simp [NewEntry.balanceDelta, entryAt, reached, income, turned_eq]
      · simpa [entryAt, reached, signed, income] using turned_counted
  · refine ⟨.zero, ?_, ?_⟩
    · simp [NewEntry.balanceDelta, entryAt, reached]
    · simpa [entryAt, reached] using Decimal.isUnits_zero (-2)

/-- The entries that have moved money are the ones that are due. -/
theorem settledCount_of_schedule
    (scheduled : draft.schedule owner (account.map Account.id) group today = .ok entries) :
    Entry.settledCount entries = draft.dueCount today := by
  rw [← countP_of_schedule scheduled]
  have settled : ∀ entry ∈ entries, entry.settlement = .confirmed ↔ entry.date ≤ today :=
    forall_mem_schedule scheduled fun place date _ _ => by
      by_cases reached : date ≤ today <;> simp [entryAt, reached]
  exact List.countP_congr fun entry member => by simpa using settled entry member

/-! ## What a posted draft leaves behind -/

/-- What a draft adds to its account by a day: the amount for each entry that is due, against the
account unless it is an income. -/
def dueSum (draft : EntryDraft) (today : Date) : ℚ :=
  (if draft.kind = .income then 1 else -1) * (draft.dueCount today * draft.amount.value)

/-- The ledgers that a draft may lead to with given entries: nothing else changes where no account
is posted to or no entry is due, and otherwise one account changes by one addition. -/
inductive Settles (draft : EntryDraft) (account : Option Account) (today : Date)
    (before : Ledger) (entries : List Entry) : Ledger → Prop where
  | idle (nothing : account = none ∨ draft.dueCount today = 0) :
      Settles draft account today before entries { before with entries := entries }
  | moved {holder : Account} {sum : Decimal} {stored balance : Stored}
      (posted : account = some holder)
      (held : before.account? holder.owner holder.id = some holder)
      (due : draft.dueCount today ≠ 0)
      (finite : sum.isFinite = true) (exact_sum : sum.value = draft.dueSum today)
      (storable : Stored.ofDecimal? sum = some stored)
      (added : holder.balance.add? stored = some balance) :
      Settles draft account today before entries
        { before.setBalance holder.owner holder.id balance with entries := entries }

/-- What a posted draft leaves behind: its rows, as many as it has installments, and its account
settled with those that are due. -/
structure Booked (draft : EntryDraft) (owner : String) (account : Option Account)
    (group : Option String) (today : Date) (before after : Ledger) (rows : List Entry) : Prop where
  listed : ∃ entries, draft.schedule owner (account.map Account.id) group today = .ok entries
    ∧ List.Forall₂ Entry.IsRowOf entries rows
  new : Ledger.AreNew (before.entries.map Entry.id) (rows.map Entry.id)
  length : rows.length = draft.installments.toNat
  due : rows.countP (fun row => row.date ≤ today) = draft.dueCount today
  settled : draft.Settles account today before (before.entries ++ rows) after

/-- Rows have the dates of their entries. -/
theorem countP_rows {rows : List Entry} (of_entries : List.Forall₂ Entry.IsRowOf entries rows) :
    rows.countP (fun row => row.date ≤ today) = entries.countP fun entry => entry.date ≤ today := by
  induction of_entries with
  | nil => rfl
  | cons of_entry _ ih =>
      rcases of_entry with ⟨id, stored, -, rfl⟩
      rw [List.countP_cons, List.countP_cons, ih]
      rfl

/-- The only sum of a draft is the exact one. -/
theorem exists_sum {holder : Account} {cents : Int} (counted : draft.amount.IsCents cents)
    (few : cents.natAbs < 10 ^ 28) (few_due : draft.dueCount today * cents.natAbs < 10 ^ 28)
    (some_entry : 1 ≤ draft.installments)
    (scheduled : draft.schedule owner (some holder.id) group today = .ok entries) :
    ∃ sum, entries.foldlM Entry.addEntry [] = .ok [⟨owner, holder.id, sum⟩]
      ∧ sum.IsCents (draft.dueCount today * draft.signed cents)
      ∧ sum.value = draft.dueSum today := by
  have nonempty : entries ≠ [] := by
    intro none
    have length := length_of_schedule scheduled
    rw [none, List.length_nil] at length
    omega
  have count_eq := @settledCount_of_schedule draft (some holder) _ _ _ _ scheduled
  have size : (draft.signed cents).natAbs = cents.natAbs := by
    unfold signed
    split_ifs <;> simp
  obtain ⟨sum, folded, sum_counted⟩ := Entry.exists_sum_of_adds nonempty
    (adds_of_schedule counted few scheduled) (by rwa [count_eq, size])
  rw [count_eq] at sum_counted
  refine ⟨sum, folded, sum_counted, ?_⟩
  rw [(Decimal.isCents_iff.mp sum_counted).2, dueSum, (Decimal.isCents_iff.mp counted).2, signed]
  split_ifs <;> push_cast <;> ring

/-- A sum below `10 ^ 26` is added to every balance. -/
theorem exists_add?_eq {cents : Int} {sum : Decimal} (counted : sum.IsCents cents)
    (few : cents.natAbs < 10 ^ 28) (balance : Stored) :
    ∃ stored added, Stored.ofDecimal? sum = some stored ∧ balance.add? stored = some added := by
  have small : |(cents : ℚ) / 100| < 2 ^ 90 := by
    have bounded : |(cents : ℚ)| < 10 ^ 28 := by
      rw [← Int.cast_abs, Int.abs_eq_natAbs]
      exact_mod_cast few
    rw [abs_div, abs_of_pos (by norm_num : (0 : ℚ) < 100), div_lt_iff₀ (by norm_num)]
    linarith
  rcases Stored.exists_ofDecimal?_eq counted (by norm_num) small with
    ⟨stored, stored_eq, steps, rfl, -⟩
  cases balance with
  | finite others => exact ⟨_, _, stored_eq, rfl⟩
  | infinite negative => exact ⟨_, _, stored_eq, rfl⟩

/-! ## Writing a draft -/

/-- What is known of a ledger that a draft is posted in: each account has a number of its own that
fits into 64 bits, and what is at hand is drawn from the ledger. -/
structure IsReady (context : OwnerContext) (ledger : Ledger) : Prop where
  drawn : context.IsDrawnFrom ledger
  distinct : (ledger.accounts.map Account.id).Nodup
  words : ∀ account ∈ ledger.accounts, Integer.isWord account.id = true

/-- The account of a draft is found again by its number. -/
theorem IsReady.account?_eq {holder : Account} {ledger : Ledger} (ready : IsReady context ledger)
    (found : draft.accountIn context ledger = .ok (some holder)) :
    ledger.account? context.owner holder.id = some holder
      ∧ holder.owner = context.owner ∧ Integer.isWord holder.id = true := by
  rcases owner_of_accountIn ready.drawn found with ⟨member, same⟩
  refine ⟨?_, same, ready.words holder member⟩
  rw [← same]
  exact Ledger.account?_of_mem ready.distinct member

/-- Is a draft small enough for its sum to be exact: are the cents that are due below `10 ^ 28`? -/
theorem natAbs_mul_lt {cents : Int} (counted : draft.amount.IsCents cents) (positive : 0 < cents)
    (moderate : draft.dueCount today * draft.amount.value < 10 ^ 26) :
    draft.dueCount today * cents.natAbs < 10 ^ 28 := by
  rw [(Decimal.isCents_iff.mp counted).2, ← mul_div_assoc, div_lt_iff₀ (by norm_num)] at moderate
  have whole : ((draft.dueCount today * cents.natAbs : Nat) : ℚ) < 10 ^ 28 := by
    rw [Nat.cast_mul, Nat.cast_natAbs, abs_of_pos positive]
    linarith
  exact_mod_cast whole

/-- Only a fault keeps the entries of a draft from being written. -/
theorem failsByFault_record {cents : Int} (passes : draft.Passes context world.ledger account)
    (words : draft.HasWords) (ready : IsReady context world.ledger)
    (in_time : ¬draft.Overruns world.today) (counted : draft.amount.IsCents cents)
    (few : cents.natAbs < 10 ^ 28) (few_due : draft.dueCount world.today * cents.natAbs < 10 ^ 28)
    (scheduled : draft.schedule context.owner (account.map Account.id) group world.today
      = .ok entries) :
    FailsByFault (Entry.record entries) (draft.named world) := by
  cases account with
  | none =>
      have writable := passes.isWritable words (by simp) in_time scheduled
      have folded : entries.foldlM Entry.addEntry [] = .ok [] :=
        Entry.foldlM_addEntry_of_none (forall_mem_schedule scheduled fun _ _ _ _ => rfl)
      exact Entry.failsByFault_record writable folded fun _ _ =>
        failsByFault_of_eq_ok (pure_apply _ _)
  | some holder =>
      rcases ready.account?_eq passes.account with ⟨found, -, word⟩
      have writable := passes.isWritable words
        (fun other same => Option.some.inj same ▸ word) in_time scheduled
      obtain ⟨sum, folded, sum_counted, -⟩ :=
        exists_sum counted few few_due passes.some_entry scheduled
      have size : (draft.dueCount world.today * draft.signed cents).natAbs < 10 ^ 28 := by
        rw [Int.natAbs_mul, signed]
        split_ifs <;> simpa using few_due
      rcases exists_add?_eq sum_counted size holder.balance with ⟨stored, added, stored_eq, add⟩
      refine Entry.failsByFault_record writable folded fun written same => ?_
      have there : written.ledger.account? context.owner holder.id = some holder := by
        rw [Ledger.account?, same, ledger_named]
        exact found
      exact (Entry.failsByFault_applyChange there stored_eq add).bind
        (Entry.proceeds_applyChange _) fun _ _ _ => failsByFault_of_eq_ok (pure_apply _ _)

/-- The entries of a draft that are written are booked. -/
theorem booked_of_record_eq_ok {cents : Int} {ids : List Int}
    (passes : draft.Passes context world.ledger account) (ready : IsReady context world.ledger)
    (counted : draft.amount.IsCents cents) (positive : 0 < cents)
    (few : cents.natAbs < 10 ^ 28) (few_due : draft.dueCount world.today * cents.natAbs < 10 ^ 28)
    (scheduled : draft.schedule context.owner (account.map Account.id) group world.today
      = .ok entries) (run : Entry.record entries (draft.named world) = .ok ids after) :
    ∃ rows,
      draft.Booked context.owner account group world.today world.ledger after.ledger rows := by
  obtain ⟨changes, rows, written, changed, folded, of_entries, rfl, new, rows_ledger, step,
    after_eq⟩ := Entry.record_eq_ok run
  rw [ledger_named] at new rows_ledger
  refine ⟨rows, ⟨entries, scheduled, of_entries⟩, new, ?_, ?_, ?_⟩
  · rw [← of_entries.length_eq, length_of_schedule scheduled]
  · rw [countP_rows of_entries, countP_of_schedule scheduled]
  rw [after_eq]
  cases account with
  | none =>
      have none_due : entries.foldlM Entry.addEntry [] = .ok [] :=
        Entry.foldlM_addEntry_of_none (forall_mem_schedule scheduled fun _ _ _ _ => rfl)
      obtain rfl : [] = changes := Except.ok.inj (none_due.symm.trans folded)
      cases step
      rw [rows_ledger]
      exact .idle (.inl rfl)
  | some holder =>
      rcases ready.account?_eq passes.account with ⟨found, same, -⟩
      obtain ⟨sum, folded_sum, sum_counted, exact_sum⟩ :=
        exists_sum counted few few_due passes.some_entry scheduled
      obtain rfl : [⟨context.owner, holder.id, sum⟩] = changes :=
        Except.ok.inj (folded_sum.symm.trans folded)
      rcases bind_eq_ok_iff.mp step with ⟨_, ended, applied, last⟩
      cases last
      rcases Entry.applyChange_eq_ok applied with ⟨nothing, kept⟩ | ⟨something, other, stored,
        balance, held, stored_eq, added, set_ledger⟩
      · have zero := Entry.cents_eq_zero sum_counted nothing
        have idle : draft.dueCount world.today = 0 := by
          rcases Int.mul_eq_zero.mp zero with none_due | no_cents
          · exact_mod_cast none_due
          · unfold signed at no_cents
            split_ifs at no_cents <;> omega
        rw [kept, rows_ledger]
        exact .idle (.inr idle)
      · rw [rows_ledger] at held
        obtain rfl : holder = other := Option.some.inj (found.symm.trans held)
        have due : draft.dueCount world.today ≠ 0 := by
          intro none_due
          rw [Decimal.isNonzero_of_isFinite sum_counted.1, exact_sum, dueSum, none_due] at something
          simp at something
        rw [set_ledger, rows_ledger, ← same]
        rw [← same] at found
        exact .moved rfl found due sum_counted.1 exact_sum stored_eq added

/-- Posting a draft ends in one of three ways.  It is refused for the first condition that it fails
and nothing changes; it is written and booked as a whole; or storage fails, which a series tells
apart from a single entry, and nothing changes. -/
theorem post_outcome (draft : EntryDraft) (context : OwnerContext) (world : World)
    (finite : draft.amount.isFinite = true) (words : draft.HasWords)
    (ready : IsReady context world.ledger)
    (moderate : draft.dueCount world.today * draft.amount.value < 10 ^ 26) :
    match draft.refusal? context world.ledger world.today with
    | some failure => ∃ after, draft.post context world = .error failure after
        ∧ after.ledger = world.ledger
    | none => ∃ account, draft.accountIn context world.ledger = .ok account
        ∧ ((∃ text after rows, draft.post context world = .ok text after
            ∧ draft.Booked context.owner account (draft.groupIn world) world.today world.ledger
              after.ledger rows)
          ∨ world.fault ≠ none ∧ ∃ cause after, (cause = .insideUnit ∨ cause = .onEntry)
            ∧ draft.post context world = .error
                (if 1 < draft.installments then
                  .installmentsFailed draft.installments.toNat context.owner
                else .writeFailed cause) after
            ∧ after.ledger = world.ledger) := by
  split
  next failure refused =>
    rcases post_of_refusal? finite words refused with ⟨after, run⟩
    exact ⟨after, run, restores_post draft context run⟩
  next accepted =>
    rcases passes_of_refusal? finite words accepted with ⟨account, passes, in_time⟩
    rcases exists_isCents_pos passes.positive passes.whole with ⟨cents, counted, positive, few⟩
    have few_due := natAbs_mul_lt counted positive moderate
    rcases exists_schedule_eq passes.some_entry in_time with ⟨entries, scheduled⟩
    have sure := failsByFault_record passes words ready in_time counted few few_due scheduled
    have run := post_of_passes passes
    rw [scheduled] at run
    refine ⟨account, passes.account, ?_⟩
    have written := draft.write_eq context.owner entries (draft.named world)
    cases record : Entry.record entries (draft.named world) with
    | ok ids after =>
        rw [record] at written
        rw [show draft.post context world = _ from run.trans (bind_of_ok written)]
        rcases booked_of_record_eq_ok passes ready counted positive few few_due scheduled record
          with ⟨rows, booked⟩
        exact .inl ⟨_, after, rows, rfl, booked⟩
    | error failure after =>
        rw [record] at written
        have failed := run.trans (bind_of_error written)
        rcases sure record with ⟨armed, faulty⟩
        rw [fault_named] at armed
        refine .inr ⟨armed, ?_⟩
        have kept := restores_post draft context failed
        rw [length_of_schedule scheduled] at failed
        rcases faulty with rfl | rfl
        · exact ⟨.insideUnit, after, .inl rfl, failed, kept⟩
        · exact ⟨.onEntry, after, .inr rfl, failed, kept⟩

/-- A ledger with one account. -/
def walletLedger : Ledger :=
  { accounts := [⟨1, "ana", "Carteira", .wallet, .finite (500 * Binary64.one),
      .finite (500 * Binary64.one), true, ⟨⟨2024, 1, 2, by decide⟩, 0⟩⟩] }

/-- A bicycle in three installments, from the last day of January on. -/
def bicycle : EntryDraft :=
  { amount := .ofCents false 10010, description := "Bicicleta", installments := 3,
    date := some ⟨2024, 1, 31, by decide⟩ }

/-- In the middle of March two of three installments are due, and the draft is booked. -/
theorem post_outcome_bicycle :
    let today : Date := ⟨2024, 3, 15, by decide⟩
    let world : World := { ledger := walletLedger, today := today, now := ⟨today, 0⟩ }
    let context : OwnerContext := { owner := "ana", accounts := walletLedger.accounts }
    bicycle.dueCount today = 2 ∧ ∃ text after rows, bicycle.post context world = .ok text after
      ∧ bicycle.Booked "ana" walletLedger.accounts.head? (some "group-1") today walletLedger
        after.ledger rows := by
  intro today world context
  have drawn : context.IsDrawnFrom walletLedger := ⟨by decide +kernel, by decide +kernel⟩
  have outcome := post_outcome bicycle context world rfl
    ⟨by simp [bicycle], by simp [bicycle], by simp [bicycle]⟩
    ⟨drawn, by decide, by decide⟩ (by decide +kernel)
  have accepted : bicycle.refusal? context world.ledger world.today = none := by decide +kernel
  simp only [accepted] at outcome
  rcases outcome with ⟨account, chosen, booked | ⟨armed, -⟩⟩
  · obtain rfl : walletLedger.accounts.head? = account := Except.ok.inj chosen
    have named : bicycle.groupIn world = some "group-1" := by decide +kernel
    rw [named] at booked
    exact ⟨by decide +kernel, booked⟩
  · exact absurd rfl armed

end EntryDraft

end Cashbook
