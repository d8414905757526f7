import Cashbook.Proofs.Ledger.Credits
import Cashbook.Proofs.Money.Stored

/-!
# What writing a batch does

A batch that is written appends one row for each of its entries and adds the sum for each account
to its balance once.  The rows of other tables stay, and so do the accounts without a sum.
-/

namespace Cashbook.Entry

open Call Money

variable {owner : String} {account : Int} {amount : Decimal} {changes summed : List Change}
  {entries : List NewEntry} {ids : List Int} {world after : World}

/-! ## Sums -/

/-- The sums that changes hold for an account of an owner. -/
def sumsFor (owner : String) (account : Int) (changes : List Change) : List Decimal :=
  (changes.filter fun change => change.owner = owner ∧ change.account = account).map Change.sum

/-- One more amount for an account adds to its sum and leaves the others alone. -/
theorem sumsFor_of_addChange (run : addChange owner account amount changes = .ok summed) :
    (∃ sum, ((sumsFor owner account changes).headD .zero).add amount = .ok sum
      ∧ sumsFor owner account summed = sum :: (sumsFor owner account changes).tail)
    ∧ ∀ otherOwner otherAccount, ¬(otherOwner = owner ∧ otherAccount = account) →
      sumsFor otherOwner otherAccount summed = sumsFor otherOwner otherAccount changes := by
  induction changes generalizing summed with
  | nil =>
      cases added : Decimal.zero.add amount with
      | error error => simp [addChange, added, bind, Except.bind] at run
      | ok sum =>
          obtain rfl : summed = [⟨owner, account, sum⟩] := by
            simpa [addChange, added, bind, Except.bind, pure, Except.pure] using run.symm
          refine ⟨⟨sum, added, by simp [sumsFor]⟩, ?_⟩
          intro otherOwner otherAccount elsewhere
          have apart : ¬(owner = otherOwner ∧ account = otherAccount) := by
            rintro ⟨rfl, rfl⟩
            exact elsewhere ⟨rfl, rfl⟩
          simp [sumsFor, apart]
  | cons change rest ih =>
      by_cases here : change.owner = owner ∧ change.account = account
      · cases added : change.sum.add amount with
        | error error => simp [addChange, here, added, bind, Except.bind] at run
        | ok sum =>
            obtain rfl : summed = { change with sum := sum } :: rest := by
              simpa [addChange, here, added, bind, Except.bind, pure, Except.pure] using run.symm
            refine ⟨⟨sum, by simpa [sumsFor, here] using added, by simp [sumsFor, here]⟩, ?_⟩
            intro otherOwner otherAccount elsewhere
            have apart : ¬(change.owner = otherOwner ∧ change.account = otherAccount) := by
              rintro ⟨rfl, rfl⟩
              exact elsewhere here
            simp [sumsFor, apart]
      · cases added : addChange owner account amount rest with
        | error error => simp [addChange, here, added, bind, Except.bind] at run
        | ok later =>
            obtain rfl : summed = change :: later := by
              simpa [addChange, here, added, bind, Except.bind, pure, Except.pure] using run.symm
            rcases ih added with ⟨⟨sum, sum_eq, sums_eq⟩, others⟩
            have skip : ∀ {kept : List Change},
                sumsFor owner account (change :: kept) = sumsFor owner account kept := by
              simp [sumsFor, here]
            refine ⟨⟨sum, by rwa [skip], by rw [skip, skip, sums_eq]⟩, ?_⟩
            intro otherOwner otherAccount elsewhere
            have same := others otherOwner otherAccount elsewhere
            unfold sumsFor at same ⊢
            simp only [List.filter_cons]
            split_ifs
            · rw [List.map_cons, List.map_cons, same]
            · exact same

/-- One more amount leaves the changes as they were, but for the one of its account, whose sum it
adds to. -/
theorem mem_of_addChange {change : Change}
    (run : addChange owner account amount changes = .ok summed) (member : change ∈ summed) :
    change ∈ changes
      ∨ change.owner = owner ∧ change.account = account ∧ ∃ earlier,
        (earlier = .zero ∨ ∃ other ∈ changes, earlier = other.sum)
          ∧ earlier.add amount = .ok change.sum := by
  induction changes generalizing summed with
  | nil =>
      cases added : Decimal.zero.add amount with
      | error error => simp [addChange, added, bind, Except.bind] at run
      | ok sum =>
          obtain rfl : summed = [⟨owner, account, sum⟩] := by
            simpa [addChange, added, bind, Except.bind, pure, Except.pure] using run.symm
          obtain rfl := List.mem_singleton.mp member
          exact .inr ⟨rfl, rfl, _, .inl rfl, added⟩
  | cons first rest ih =>
      by_cases here : first.owner = owner ∧ first.account = account
      · cases added : first.sum.add amount with
        | error error => simp [addChange, here, added, bind, Except.bind] at run
        | ok sum =>
            obtain rfl : summed = { first with sum := sum } :: rest := by
              simpa [addChange, here, added, bind, Except.bind, pure, Except.pure] using run.symm
            rcases List.mem_cons.mp member with rfl | later
            · exact .inr ⟨here.1, here.2, _, .inr ⟨first, List.mem_cons_self, rfl⟩, added⟩
            · exact .inl (List.mem_cons_of_mem _ later)
      · cases added : addChange owner account amount rest with
        | error error => simp [addChange, here, added, bind, Except.bind] at run
        | ok others =>
            obtain rfl : summed = first :: others := by
              simpa [addChange, here, added, bind, Except.bind, pure, Except.pure] using run.symm
            rcases List.mem_cons.mp member with rfl | later
            · exact .inl List.mem_cons_self
            · rcases ih added later with kept | ⟨same_owner, same_account, earlier, origin, sum_eq⟩
              · exact .inl (List.mem_cons_of_mem _ kept)
              · refine .inr ⟨same_owner, same_account, earlier, origin.imp_right ?_, sum_eq⟩
                rintro ⟨other, other_member, same⟩
                exact ⟨other, List.mem_cons_of_mem _ other_member, same⟩

/-- Entries of one owner change that owner's accounts only. -/
theorem owner_of_addEntry {entry : NewEntry} (of_entry : entry.owner = owner)
    (of_changes : ∀ change ∈ changes, change.owner = owner)
    (run : addEntry changes entry = .ok summed) : ∀ change ∈ summed, change.owner = owner := by
  intro change member
  unfold addEntry at run
  cases account_eq : entry.account with
  | none =>
      simp only [account_eq] at run
      cases run
      exact of_changes change member
  | some account =>
      simp only [account_eq] at run
      cases delta : entry.balanceDelta with
      | error error => simp [delta, bind, Except.bind] at run
      | ok amount =>
          simp only [delta, bind, Except.bind] at run
          rcases mem_of_addChange run member with kept | ⟨same, -⟩
          · exact of_changes change kept
          · rw [same, of_entry]

/-! ## Collecting -/

theorem reads_collect (changes : List Change) (entries : List NewEntry) :
    Reads (collect changes entries) := by
  induction entries generalizing changes with
  | nil => exact respects_pure changes
  | cons entry rest ih =>
      exact (reads_failAt _ _).bind fun _ => (reads_ofArithmetic _).bind ih

/-- What is collected are the entries added one after another, if every row can be built. -/
theorem collect_eq_ok_iff : collect changes entries world = .ok summed after ↔
    entries.foldlM addEntry changes = .ok summed
      ∧ ∃ fault, passEach? .rowBuilding entries.length world.fault = some fault
        ∧ after = { world with fault := fault } := by
  induction entries generalizing changes world with
  | nil =>
      constructor
      · rintro ⟨⟩
        exact ⟨rfl, _, rfl, rfl⟩
      · rintro ⟨⟨⟩, _, ⟨⟩, rfl⟩
        rfl
  | cons entry rest ih =>
      rw [List.foldlM_cons, List.length_cons, passEach?]
      constructor
      · intro run
        rcases bind_eq_ok_iff.mp run with ⟨_, _, first, others⟩
        rcases failAt_eq_ok_iff.mp first with ⟨fault, passed, rfl⟩
        rcases bind_eq_ok_iff.mp others with ⟨next, _, added, later⟩
        rcases ofArithmetic_eq_ok_iff.mp added with ⟨step, rfl⟩
        rcases ih.mp later with ⟨folded, last, passed_later, rfl⟩
        rw [step, passed]
        exact ⟨folded, last, passed_later, rfl⟩
      · rintro ⟨folded, last, passed, rfl⟩
        rcases Except.bind_eq_ok_iff.mp folded with ⟨next, step, later⟩
        rcases Option.bind_eq_some_iff.mp passed with ⟨fault, first, others⟩
        rw [collect, bind_of_ok (failAt_eq_ok_iff.mpr ⟨fault, first, rfl⟩),
          bind_of_ok (ofArithmetic_eq_ok_iff.mpr ⟨step, rfl⟩)]
        exact ih.mpr ⟨later, last, others, rfl⟩

/-! ## Rows -/

/-- Is the row the one of a new entry? -/
def IsRowOf (entry : NewEntry) (row : Entry) : Prop :=
  ∃ id stored, Stored.ofDecimal? entry.amount = some stored ∧ row = ofNew id stored entry

/-- What holds of the row of every entry of a batch holds of all its rows. -/
theorem forall_mem_rows {holds : Entry → Prop} {rows : List Entry}
    (of_entries : List.Forall₂ IsRowOf entries rows)
    (each : ∀ entry ∈ entries, ∀ row, IsRowOf entry row → holds row) : ∀ row ∈ rows, holds row := by
  induction of_entries with
  | nil => simp
  | cons of_entry _ ih =>
      rw [List.forall_mem_cons] at each ⊢
      exact ⟨each.1 _ of_entry, ih each.2⟩

theorem reads_checkNumbers (entry : NewEntry) : Reads (checkNumbers entry) :=
  (reads_checkWord? _).bind fun _ => (reads_checkWord? _).bind fun _ =>
    (reads_checkWord? _).bind fun _ => (reads_checkWord? _).bind fun _ => reads_checkWord? _

theorem proceeds_insert (entry : NewEntry) : Proceeds (insert entry) :=
  (reads_checkNumbers entry).proceeds.bind fun _ => (reads_storable _ _).proceeds.bind fun _ =>
    respects_ledger.bind fun _ => (proceeds_putLedger _).bind fun _ => respects_pure _

/-- Do all numbers of an entry fit into 64 bits? -/
structure HasWords (entry : NewEntry) : Prop where
  account : ∀ id, entry.account = some id → Integer.isWord id = true
  card : ∀ id, entry.card = some id → Integer.isWord id = true
  category : ∀ id, entry.category = some id → Integer.isWord id = true
  index : ∀ index, entry.installment.index = some index → Integer.isWord index = true
  total : ∀ total, entry.installment.total = some total → Integer.isWord total = true

theorem checkNumbers_eq_ok_iff {entry : NewEntry} :
    checkNumbers entry world = .ok () after ↔ HasWords entry ∧ after = world := by
  constructor
  · intro run
    rcases bind_eq_ok_iff.mp run with ⟨_, _, first, rest⟩
    rcases checkWord?_eq_ok_iff.mp first with ⟨account, rfl⟩
    rcases bind_eq_ok_iff.mp rest with ⟨_, _, second, others⟩
    rcases checkWord?_eq_ok_iff.mp second with ⟨card, rfl⟩
    rcases bind_eq_ok_iff.mp others with ⟨_, _, third, later⟩
    rcases checkWord?_eq_ok_iff.mp third with ⟨category, rfl⟩
    rcases bind_eq_ok_iff.mp later with ⟨_, _, fourth, last⟩
    rcases checkWord?_eq_ok_iff.mp fourth with ⟨index, rfl⟩
    rcases checkWord?_eq_ok_iff.mp last with ⟨total, rfl⟩
    exact ⟨⟨account, card, category, index, total⟩, rfl⟩
  · rintro ⟨⟨account, card, category, index, total⟩, rfl⟩
    rw [checkNumbers, bind_of_ok (checkWord?_of_word account), bind_of_ok (checkWord?_of_word card),
      bind_of_ok (checkWord?_of_word category), bind_of_ok (checkWord?_of_word index)]
    exact checkWord?_of_word total

/-- The number and the row of an entry that is written next. -/
def nextRow (ledger : Ledger) (stored : Stored) (entry : NewEntry) : Entry :=
  ofNew (Ledger.nextId (ledger.entries.map Entry.id)) stored entry

/-- An entry is written exactly when its numbers fit and its amount can be stored. -/
theorem insert_eq_ok_iff {entry : NewEntry} {id : Int} : insert entry world = .ok id after ↔
    ∃ stored, HasWords entry ∧ Stored.ofDecimal? entry.amount = some stored
      ∧ id = (nextRow world.ledger stored entry).id
      ∧ after = { world with ledger := { world.ledger with
          entries := world.ledger.entries ++ [nextRow world.ledger stored entry] } } := by
  constructor
  · intro run
    rcases bind_eq_ok_iff.mp run with ⟨_, checked, check, rest⟩
    rcases checkNumbers_eq_ok_iff.mp check with ⟨words, rfl⟩
    rcases bind_eq_ok_iff.mp rest with ⟨stored, same, store, write⟩
    rcases storable_eq_ok_iff.mp store with ⟨stored_eq, rfl⟩
    cases write
    exact ⟨stored, words, stored_eq, rfl, rfl⟩
  · rintro ⟨stored, words, stored_eq, rfl, rfl⟩
    rw [insert, bind_of_ok (checkNumbers_eq_ok_iff.mpr ⟨words, rfl⟩),
      bind_of_ok (storable_eq_ok_iff.mpr ⟨stored_eq, rfl⟩)]
    rfl

/-- Writing entries whose numbers fit appends their rows in order, with new numbers. -/
theorem mapM_insert_eq_ok (run : entries.mapM insert world = .ok ids after) :
    (∀ entry ∈ entries, HasWords entry) ∧ ∃ rows, List.Forall₂ IsRowOf entries rows
      ∧ ids = rows.map Entry.id ∧ Ledger.AreNew (world.ledger.entries.map Entry.id) ids
      ∧ after = { world with
          ledger := { world.ledger with entries := world.ledger.entries ++ rows } } := by
  induction entries generalizing world ids with
  | nil =>
      cases run
      exact ⟨List.forall_mem_nil _, [], .nil, rfl, Ledger.areNew_nil _, by simp⟩
  | cons entry rest ih =>
      rw [List.mapM_cons] at run
      rcases bind_eq_ok_iff.mp run with ⟨id, middle, first, run⟩
      rcases bind_eq_ok_iff.mp run with ⟨later, last, others, run⟩
      cases run
      rcases insert_eq_ok_iff.mp first with ⟨stored, words, stored_eq, rfl, rfl⟩
      rcases ih others with ⟨rest_words, rows, of_rest, rfl, new, rfl⟩
      rw [List.map_append] at new
      refine ⟨List.forall_mem_cons.mpr ⟨words, rest_words⟩,
        nextRow world.ledger stored entry :: rows, .cons ⟨_, stored, stored_eq, rfl⟩ of_rest,
        rfl, .cons (fun other taken => Ledger.lt_nextId taken) new, ?_⟩
      simp only [List.append_assoc, List.singleton_append]

/-! ## Balances -/

/-- What adding sums one after another makes of an account; a sum of zero is left out. -/
inductive Applied : List Decimal → Option Account → Option Account → Prop where
  | nil {account : Option Account} : Applied [] account account
  | skip {sum : Decimal} {sums : List Decimal} {before after : Option Account}
      (nothing : sum.isNonzero = false) (rest : Applied sums before after) :
      Applied (sum :: sums) before after
  | add {sum : Decimal} {sums : List Decimal} {stored balance : Stored} {account : Account}
      {after : Option Account} (something : sum.isNonzero = true)
      (storable : Stored.ofDecimal? sum = some stored)
      (added : account.balance.add? stored = some balance)
      (rest : Applied sums (some { account with balance := balance }) after) :
      Applied (sum :: sums) (some account) after

theorem applied_nil_iff {before after : Option Account} :
    Applied [] before after ↔ after = before := by
  constructor
  · rintro ⟨⟩
    rfl
  · rintro rfl
    exact .nil

/-- One sum changes nothing or one balance. -/
theorem applied_singleton_iff {sum : Decimal} {before after : Option Account} :
    Applied [sum] before after ↔
      sum.isNonzero = false ∧ after = before
      ∨ sum.isNonzero = true ∧ ∃ account stored balance, before = some account
        ∧ Stored.ofDecimal? sum = some stored ∧ account.balance.add? stored = some balance
        ∧ after = some { account with balance := balance } := by
  constructor
  · intro applied
    cases applied with
    | skip nothing rest => exact .inl ⟨nothing, applied_nil_iff.mp rest⟩
    | add something storable added rest =>
        exact .inr ⟨something, _, _, _, rfl, storable, added, applied_nil_iff.mp rest⟩
  · rintro (⟨nothing, rfl⟩ | ⟨something, account, stored, balance, rfl, storable, added, rfl⟩)
    · exact .skip nothing .nil
    · exact .add something storable added .nil

theorem proceeds_applyChange (change : Change) : Proceeds (applyChange change) := by
  refine .ite ?_ (respects_pure _)
  refine (reads_failAt _ _).proceeds.bind fun _ => respects_ledger.bind fun current => ?_
  split
  · exact respects_throw _
  · exact (reads_storable _ _).proceeds.bind fun _ =>
      (reads_storedResult _ _).proceeds.bind fun _ => proceeds_putLedger _

/-- Adding a sum changes nothing, or one balance. -/
theorem applyChange_eq_ok {change : Change} (run : applyChange change world = .ok () after) :
    change.sum.isNonzero = false ∧ after.ledger = world.ledger
    ∨ change.sum.isNonzero = true ∧ ∃ account stored balance,
      world.ledger.account? change.owner change.account = some account
      ∧ Stored.ofDecimal? change.sum = some stored
      ∧ account.balance.add? stored = some balance
      ∧ after.ledger = world.ledger.setBalance change.owner change.account balance := by
  by_cases something : change.sum.isNonzero = true
  · have credit_eq : change.credit?
        = some ⟨change.owner, change.account, Stored.ofDecimal? change.sum⟩ := if_pos something
    obtain ⟨fault, new, -, applied, rfl⟩ := (applyChange_eq_ok_iff credit_eq).mp run
    rcases Credit.applied?_eq_some_iff.mp applied with
      ⟨account, stored, balance, found, stored_eq, added, new_eq⟩
    exact .inr ⟨something, account, stored, balance, found, stored_eq, added, new_eq⟩
  · have nothing : change.credit? = none := if_neg something
    rw [applyChange_of_credit?_eq_none nothing] at run
    cases run
    exact .inl ⟨by simpa using something, rfl⟩

/-- Adding the sums of a batch changes balances only, each by the sums for its account. -/
theorem forM_applyChange_eq_ok (run : changes.forM applyChange world = .ok ⟨⟩ after) :
    after.ledger = { world.ledger with accounts := after.ledger.accounts }
    ∧ after.ledger.emptied = world.ledger.emptied
    ∧ ∀ owner account, Applied (sumsFor owner account changes)
      (world.ledger.account? owner account) (after.ledger.account? owner account) := by
  induction changes generalizing world with
  | nil =>
      cases run
      exact ⟨rfl, rfl, fun owner account => .nil⟩
  | cons change rest ih =>
      rcases bind_eq_ok_iff.mp run with ⟨_, middle, first, run⟩
      rcases ih run with ⟨frame, kept, applied⟩
      rcases applyChange_eq_ok first with ⟨nothing, same⟩ | ⟨something, account, stored, balance,
        found, storable, added, changed⟩
      · rw [same] at frame kept applied
        refine ⟨frame, kept, fun owner account => ?_⟩
        unfold sumsFor at applied ⊢
        rw [List.filter_cons]
        split_ifs
        · exact .skip nothing (applied owner account)
        · exact applied owner account
      · rw [changed] at frame kept applied
        refine ⟨frame, kept.trans (world.ledger.emptied_setBalance ..), fun owner id => ?_⟩
        have later := applied owner id
        unfold sumsFor at later ⊢
        rw [List.filter_cons]
        split_ifs with here
        · obtain ⟨rfl, rfl⟩ : change.owner = owner ∧ change.account = id := by simpa using here
          rw [Ledger.account?_setBalance_self, found] at later
          rw [found]
          exact .add something storable added later
        · rw [Ledger.account?_setBalance_of_ne] at later
          · exact later
          · rintro ⟨rfl, rfl⟩
            simp at here

/-! ## Batches -/

/-- What a batch that is written does to a ledger. -/
structure Recorded (entries : List NewEntry) (ids : List Int) (before after : Ledger) : Prop where
  rows : ∃ rows, List.Forall₂ IsRowOf entries rows ∧ ids = rows.map Entry.id
    ∧ after.entries = before.entries ++ rows
  balances : ∃ changes, entries.foldlM addEntry [] = .ok changes
    ∧ ∀ owner account, Applied (sumsFor owner account changes) (before.account? owner account)
      (after.account? owner account)
  kept : after.emptied = before.emptied
  frame : after = { before with accounts := after.accounts, entries := after.entries }

theorem proceeds_record_unit {write : Call (List Int)} (writes : Proceeds write)
    (entries : List NewEntry) : Proceeds (do
    let changes ← collect [] entries
    entries.forM fun entry => checkQuiet entry.amount
    let ids ← write
    changes.forM applyChange
    return ids) :=
  (reads_collect [] entries).proceeds.bind fun _ =>
    (respects_forM fun entry _ => (reads_checkQuiet entry.amount).proceeds).bind fun _ =>
      writes.bind fun _ =>
        (respects_forM fun change _ => proceeds_applyChange change).bind fun _ => respects_pure _

theorem proceeds_mapM_insert (entries : List NewEntry) : Proceeds (entries.mapM insert) :=
  respects_mapM fun entry _ => proceeds_insert entry

theorem atomic_record (entries : List NewEntry) : Atomic (record entries) :=
  (reads_failAt _ _).bind_atomic fun _ =>
    atomic_atomically (proceeds_record_unit (proceeds_mapM_insert entries) entries)

/-- A batch whose rows cannot be written is never done. -/
theorem record_unit_throw_ne_ok {failure : Failure} {ids : List Int} :
    atomically (do
      let changes ← collect [] entries
      entries.forM fun entry => checkQuiet entry.amount
      let ids ← throw failure
      changes.forM applyChange
      return ids) world ≠ .ok ids after := by
  intro run
  rcases atomically_eq_ok run with ⟨ended, work, -⟩
  rcases bind_eq_ok_iff.mp work with ⟨changes, collected, -, checking⟩
  rcases bind_eq_ok_iff.mp checking with ⟨_, checked, -, writing⟩
  rcases bind_eq_ok_iff.mp writing with ⟨_, _, written, -⟩
  cases written

/-- A batch with torn descriptions changes nothing. -/
theorem reads_recordTorn (entries : List NewEntry) : Reads (recordTorn entries) :=
  (reads_failAt _ _).bind fun _ =>
    reads_atomically (proceeds_record_unit (respects_throw _) entries) fun _ _ _ =>
      record_unit_throw_ne_ok

theorem recordTorn_ne_ok {ids : List Int} : recordTorn entries world ≠ .ok ids after := by
  intro run
  rcases bind_eq_ok_iff.mp run with ⟨_, begun, -, unit_run⟩
  exact record_unit_throw_ne_ok unit_run

theorem restores_record (entries : List NewEntry) : Restores (record entries) :=
  (reads_failAt _ _).bind_restores fun _ => restores_atomically _

theorem forM_checkQuiet_eq_ok_iff :
    (entries.forM fun entry => checkQuiet entry.amount) world = .ok ⟨⟩ after
      ↔ (∀ entry ∈ entries, entry.amount.isSignaling = false) ∧ after = world := by
  induction entries generalizing world with
  | nil =>
      constructor
      · rintro ⟨⟩
        exact ⟨List.forall_mem_nil _, rfl⟩
      · rintro ⟨-, rfl⟩
        rfl
  | cons entry rest ih =>
      rw [List.forall_mem_cons]
      constructor
      · intro run
        rcases bind_eq_ok_iff.mp run with ⟨_, _, first, later⟩
        rcases checkQuiet_eq_ok_iff.mp first with ⟨quiet, rfl⟩
        rcases ih.mp later with ⟨others, rfl⟩
        exact ⟨⟨quiet, others⟩, rfl⟩
      · rintro ⟨⟨quiet, others⟩, rfl⟩
        exact bind_eq_ok_iff.mpr ⟨(), after, checkQuiet_eq_ok_iff.mpr ⟨quiet, rfl⟩,
          ih.mpr ⟨others, rfl⟩⟩

/-- A batch is written exactly when its entries are collected, their rows written and the sums
added, without a fault at its start or its end. -/
theorem record_eq_ok_iff : record entries world = .ok ids after ↔
    ∃ changes begun built written changed committed,
      pass? .entryWriting world.fault = some begun
      ∧ entries.foldlM addEntry [] = .ok changes
      ∧ passEach? .rowBuilding entries.length begun = some built
      ∧ (∀ entry ∈ entries, entry.amount.isSignaling = false)
      ∧ entries.mapM insert { world with fault := built } = .ok ids written
      ∧ changes.forM applyChange written = .ok ⟨⟩ changed
      ∧ pass? .commit changed.fault = some committed
      ∧ after = { changed with fault := committed } := by
  constructor
  · intro run
    rcases bind_eq_ok_iff.mp run with ⟨_, _, first, work⟩
    rcases failAt_eq_ok_iff.mp first with ⟨begun, begun_eq, rfl⟩
    rcases atomically_eq_ok_iff.mp work with ⟨changed, committed, done, committed_eq, rfl⟩
    rcases bind_eq_ok_iff.mp done with ⟨changes, _, collected, checking⟩
    rcases collect_eq_ok_iff.mp collected with ⟨folded, built, built_eq, rfl⟩
    rcases bind_eq_ok_iff.mp checking with ⟨_, _, checked, writing⟩
    rcases forM_checkQuiet_eq_ok_iff.mp checked with ⟨quiet, rfl⟩
    rcases bind_eq_ok_iff.mp writing with ⟨numbers, written, inserted, changing⟩
    rcases bind_eq_ok_iff.mp changing with ⟨_, last, applied, ended⟩
    cases ended
    exact ⟨changes, begun, built, written, _, committed, begun_eq, folded, built_eq, quiet,
      inserted, applied, committed_eq, rfl⟩
  · rintro ⟨changes, begun, built, written, changed, committed, begun_eq, folded, built_eq, quiet,
      inserted, applied, committed_eq, rfl⟩
    refine bind_eq_ok_iff.mpr ⟨(), _, failAt_eq_ok_iff.mpr ⟨begun, begun_eq, rfl⟩,
      atomically_eq_ok_iff.mpr ⟨changed, committed, ?_, committed_eq, rfl⟩⟩
    rw [bind_of_ok (collect_eq_ok_iff.mpr ⟨folded, built, built_eq, rfl⟩),
      bind_of_ok (forM_checkQuiet_eq_ok_iff.mpr ⟨quiet, rfl⟩), bind_of_ok inserted,
      bind_of_ok applied]
    rfl

/-- A batch that is written has collected its sums, appended its rows and added the sums. -/
theorem record_eq_ok (run : record entries world = .ok ids after) :
    ∃ changes rows written changed, entries.foldlM addEntry [] = .ok changes
      ∧ List.Forall₂ IsRowOf entries rows ∧ ids = rows.map Entry.id
      ∧ Ledger.AreNew (world.ledger.entries.map Entry.id) ids
      ∧ written.ledger = { world.ledger with entries := world.ledger.entries ++ rows }
      ∧ changes.forM applyChange written = .ok ⟨⟩ changed ∧ after.ledger = changed.ledger := by
  obtain ⟨changes, -, built, written, changed, committed, -, folded, -, -, inserted, applied, -,
    rfl⟩ := record_eq_ok_iff.mp run
  rcases mapM_insert_eq_ok inserted with ⟨-, rows, of_entries, numbers_eq, new, rfl⟩
  exact ⟨changes, rows, _, changed, folded, of_entries, numbers_eq, new, rfl, applied, rfl⟩

/-- A batch that is written has done all of its work. -/
theorem recorded_of_record_eq_ok (run : record entries world = .ok ids after) :
    Recorded entries ids world.ledger after.ledger := by
  obtain ⟨changes, rows, written, changed, folded, of_entries, numbers_eq, -, rows_ledger, step,
    after_eq⟩ := record_eq_ok run
  rcases forM_applyChange_eq_ok step with ⟨frame, kept, applied⟩
  rw [← after_eq, rows_ledger] at frame kept applied
  refine ⟨⟨rows, of_entries, numbers_eq, ?_⟩, ⟨changes, folded, applied⟩, kept, ?_⟩
  · rw [frame]
  · rw [frame]

/-! ## Batches that can be written -/

/-- Can the row of an entry be built: do its numbers fit, and is its amount finite? -/
structure IsWritable (entry : NewEntry) : Prop extends HasWords entry where
  amount : entry.amount.isFinite = true

theorem isWritable_iff {entry : NewEntry} : IsWritable entry ↔
    (∀ id ∈ entry.account, Integer.isWord id = true) ∧ (∀ id ∈ entry.card, Integer.isWord id = true)
    ∧ (∀ id ∈ entry.category, Integer.isWord id = true)
    ∧ (∀ index ∈ entry.installment.index, Integer.isWord index = true)
    ∧ (∀ total ∈ entry.installment.total, Integer.isWord total = true)
    ∧ entry.amount.isFinite = true :=
  ⟨fun ⟨⟨account, card, category, index, total⟩, amount⟩ =>
      ⟨account, card, category, index, total, amount⟩,
    fun ⟨account, card, category, index, total, amount⟩ =>
      ⟨⟨account, card, category, index, total⟩, amount⟩⟩

instance (entry : NewEntry) : Decidable (IsWritable entry) :=
  decidable_of_iff' _ isWritable_iff

theorem IsWritable.insert_eq {entry : NewEntry} (writable : IsWritable entry) (world : World) :
    ∃ id after, insert entry world = .ok id after := by
  rcases Stored.exists_ofDecimal?_of_isFinite writable.amount with ⟨stored, stored_eq⟩
  exact ⟨_, _, insert_eq_ok_iff.mpr ⟨stored, writable.toHasWords, stored_eq, rfl, rfl⟩⟩

theorem exists_mapM_insert_eq (writable : ∀ entry ∈ entries, IsWritable entry) (world : World) :
    ∃ ids after, entries.mapM insert world = .ok ids after := by
  induction entries generalizing world with
  | nil => exact ⟨[], world, rfl⟩
  | cons entry rest ih =>
      rw [List.forall_mem_cons] at writable
      rcases writable.1.insert_eq world with ⟨id, middle, first⟩
      rcases ih writable.2 middle with ⟨ids, after, others⟩
      rw [List.mapM_cons, bind_of_ok first, bind_of_ok others]
      exact ⟨_, _, rfl⟩

theorem isSignaling_of_isFinite (finite : amount.isFinite = true) : amount.isSignaling = false := by
  cases amount with
  | finite => rfl
  | infinite => rfl
  | notNumber => cases finite

theorem forM_checkQuiet_eq (writable : ∀ entry ∈ entries, IsWritable entry) (world : World) :
    (entries.forM fun entry => checkQuiet entry.amount) world = .ok ⟨⟩ world :=
  forM_checkQuiet_eq_ok_iff.mpr ⟨fun entry member =>
    isSignaling_of_isFinite (writable entry member).amount, rfl⟩

theorem failsByFault_collect (folded : entries.foldlM addEntry changes = .ok summed) :
    FailsByFault (collect changes entries) world := by
  induction entries generalizing changes world with
  | nil => exact failsByFault_of_eq_ok (pure_apply _ _)
  | cons entry rest ih =>
      rw [List.foldlM_cons] at folded
      cases step : addEntry changes entry with
      | error error =>
          rw [step] at folded
          cases folded
      | ok next =>
          rw [step] at folded
          refine (failsByFault_failAt (.inl rfl)).bind (reads_failAt _ _).proceeds
            fun _ shown _ => ?_
          exact .bind_of_ok (reads_ofArithmetic _).proceeds
            (ofArithmetic_eq_ok_iff.mpr ⟨step, rfl⟩) (ih folded)

theorem failsByFault_applyChange {change : Change} {account : Account} {stored balance : Stored}
    (found : world.ledger.account? change.owner change.account = some account)
    (storable : Stored.ofDecimal? change.sum = some stored)
    (added : account.balance.add? stored = some balance) :
    FailsByFault (applyChange change) world := by
  unfold applyChange
  split_ifs
  · refine (failsByFault_failAt (.inl rfl)).bind (reads_failAt _ _).proceeds fun _ shown step => ?_
    rw [← ((reads_failAt _ _).of_ok step).ledger] at found
    refine .bind_of_ok respects_ledger (ledger_apply shown) ?_
    simp only [found]
    refine .bind_of_ok (reads_storable _ _).proceeds (storable_eq_ok_iff.mpr ⟨storable, rfl⟩) ?_
    exact .bind_of_ok (reads_storedResult _ _).proceeds
      (storedResult_eq_ok_iff.mpr ⟨added, rfl⟩) (failsByFault_of_eq_ok (putLedger_apply _ _))
  · exact failsByFault_of_eq_ok (pure_apply _ _)

/-- A batch that can be written and summed up is written unless a fault shows. -/
theorem failsByFault_record (writable : ∀ entry ∈ entries, IsWritable entry)
    (folded : entries.foldlM addEntry [] = .ok changes)
    (applicable : ∀ written : World, written.ledger.accounts = world.ledger.accounts →
      FailsByFault (changes.forM applyChange) written) :
    FailsByFault (record entries) world := by
  refine (failsByFault_failAt (.inr rfl)).bind (reads_failAt _ _).proceeds fun _ begun step => ?_
  have same := ((reads_failAt _ _).of_ok step).ledger
  refine FailsByFault.atomically (proceeds_record_unit (proceeds_mapM_insert entries) entries) ?_
  refine (failsByFault_collect folded).bind (reads_collect _ _).proceeds
    fun collected middle step => ?_
  obtain rfl : changes = collected :=
    Except.ok.inj (folded.symm.trans (collect_eq_ok_iff.mp step).1)
  have same_middle := ((reads_collect _ _).of_ok step).ledger
  refine .bind_of_ok (respects_forM fun entry _ => (reads_checkQuiet entry.amount).proceeds)
    (forM_checkQuiet_eq writable middle) ?_
  rcases exists_mapM_insert_eq writable middle with ⟨ids, written, inserted⟩
  refine .bind_of_ok (proceeds_mapM_insert entries) inserted ?_
  have kept : written.ledger.accounts = world.ledger.accounts := by
    rcases mapM_insert_eq_ok inserted with ⟨-, rows, -, -, -, rfl⟩
    rw [← same, ← same_middle]
  exact (applicable written kept).bind (respects_forM fun change _ => proceeds_applyChange change)
    fun _ _ _ => failsByFault_of_eq_ok (pure_apply _ _)

end Cashbook.Entry
