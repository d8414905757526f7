import Cashbook.Proofs.Ledger.Events
import Cashbook.Proofs.Ledger.Grouping
import Mathlib.Data.List.Find

/-!
# Which batches are written

A batch of moderate amounts is written unless it has something to add to an account that is not
there.  What it writes can be read again under the numbers that it gave, and each account takes what
the batch adds up to for it.
-/

namespace Cashbook.Entry

open Call Money

variable {changes summed : List Change} {entries : List NewEntry} {rows : List Entry}
  {ids : List Int} {world after : World} {ledger : Ledger}

/-! ## Accounts that are missing -/

/-- Is there something to add to an account that a ledger does not have? -/
def Change.isLost (ledger : Ledger) (change : Change) : Bool :=
  change.sum.isNonzero && (ledger.account? change.owner change.account).isNone

/-- Adding a moderate sum fails only where the account is missing, and no account goes missing. -/
theorem applyChange_outcome {change : Change} (faultless : world.fault = none)
    (small : change.sum.IsAtMost 54) :
    if change.isLost world.ledger then
      applyChange change world = .error (.accountMissing change.account) world
    else ∃ new, applyChange change world = .ok () { world with ledger := new }
      ∧ ∀ other : Change, other.isLost new = other.isLost world.ledger := by
  unfold applyChange Change.isLost
  by_cases something : change.sum.isNonzero = true
  · rw [if_pos something, bind_of_ok (failAt_of_faultless faultless _ _),
      bind_of_ok (ledger_apply world)]
    cases found : world.ledger.account? change.owner change.account with
    | none =>
        simp only [something, Option.isNone_none, Bool.and_self, if_true]
        rfl
    | some account =>
        simp only [something, Option.isNone_some, Bool.and_false, Bool.false_eq_true, if_false]
        have range : |change.sum.value| < 2 ^ 180 := small.size_le.trans_lt (by norm_num)
        rcases Stored.exists_ofDecimal?_eq_finite small.finite (by norm_num) range with
          ⟨steps, stored_eq⟩
        rcases account.balance.exists_add?_finite steps with ⟨balance, balance_eq⟩
        rw [bind_of_ok (storable_eq_ok_iff.mpr ⟨stored_eq, rfl⟩),
          bind_of_ok (storedResult_eq_ok_iff.mpr ⟨balance_eq, rfl⟩)]
        refine ⟨_, putLedger_apply _ world, fun other => ?_⟩
        rw [Ledger.account?_setBalance, Option.isNone_map]
  · rw [if_neg something]
    simp only [something, Bool.false_and, Bool.false_eq_true, if_false]
    exact ⟨world.ledger, rfl, fun other => rfl⟩

/-- Adding moderate sums fails at the first account that is missing. -/
theorem forM_applyChange_outcome (faultless : world.fault = none)
    (small : ∀ change ∈ changes, change.sum.IsAtMost 54) :
    match changes.find? (Change.isLost world.ledger) with
    | some change => ∃ after,
        changes.forM applyChange world = .error (.accountMissing change.account) after
    | none => ∃ new, changes.forM applyChange world = .ok ⟨⟩ { world with ledger := new } := by
  induction changes generalizing world with
  | nil => exact ⟨world.ledger, rfl⟩
  | cons change rest ih =>
      rw [List.forall_mem_cons] at small
      have step := applyChange_outcome faultless small.1
      rw [List.find?_cons]
      cases lost : change.isLost world.ledger with
      | true =>
          rw [lost, if_pos rfl] at step
          exact ⟨world, bind_of_error step⟩
      | false =>
          rw [lost, if_neg Bool.false_ne_true] at step
          rcases step with ⟨new, step, same⟩
          have still : ({ world with ledger := new } : World).fault = none := faultless
          have later := ih still small.2
          rw [show Change.isLost new = Change.isLost world.ledger from funext same] at later
          have run : (change :: rest).forM applyChange world
              = rest.forM applyChange { world with ledger := new } := bind_of_ok step
          rw [run]
          exact later

/-- Collecting entries that add up changes nothing. -/
theorem collect_of_faultless (faultless : world.fault = none)
    (folded : entries.foldlM addEntry changes = .ok summed) :
    collect changes entries world = .ok summed world :=
  collect_eq_ok_iff.mpr ⟨folded, none, by rw [faultless, passEach?_none], by rw [← faultless]⟩

/-- Is there something to add to an account of an owner that a ledger does not have? -/
def isLost (ledger : Ledger) (entries : List NewEntry) (place : String × Int) : Bool :=
  match sumFor place.1 place.2 entries with
  | .ok sum => sum.isNonzero && (ledger.account? place.1 place.2).isNone
  | .error _ => false

/-- The first account, in the order in which they appear, that a batch has something to add to and
that a ledger does not have. -/
def lostPlace? (ledger : Ledger) (entries : List NewEntry) : Option (String × Int) :=
  (entries.filterMap NewEntry.place?).find? (isLost ledger entries)

theorem isLost_place {change : Change} (folded : entries.foldlM addEntry [] = .ok summed)
    (member : change ∈ summed) (ledger : Ledger) :
    isLost ledger entries change.place = change.isLost ledger := by
  unfold isLost Change.isLost Change.place
  rw [sumFor_of_mem folded member]

/-- The sums show the first account that is missing. -/
theorem map_place_find?_isLost (folded : entries.foldlM addEntry [] = .ok summed)
    (ledger : Ledger) :
    (summed.find? (Change.isLost ledger)).map Change.place = lostPlace? ledger entries := by
  have places := find?_place_of_foldlM folded (isLost ledger entries)
  rw [List.map_nil, List.nil_append, List.find?_map] at places
  rw [lostPlace?, ← places]
  refine congrArg _ (List.find?_congr fun change member => ?_)
  exact (isLost_place folded member ledger).symm

/-- Entries of moderate amounts add up to moderate sums. -/
theorem exists_foldlM_isAtMost (small : ∀ entry ∈ entries, entry.amount.IsAtMost 26) :
    ∃ changes, entries.foldlM addEntry [] = .ok changes
      ∧ ∀ change ∈ changes, change.sum.IsAtMost 54 := by
  have sums : ∀ owner account, ∃ sum, sumFor owner account entries = .ok sum
      ∧ sum.IsAtMost 54 := fun owner account =>
    exists_sumFor_isAtMost owner account fun entry member =>
      exists_balanceDelta_isAtMost (small entry member)
  have folds := exists_foldlM_addEntry_iff.mpr fun owner account =>
    (sums owner account).imp fun sum added => added.1
  rcases folds with ⟨changes, folded⟩
  refine ⟨changes, folded, fun change member => ?_⟩
  obtain ⟨sum, sum_eq, sum_le⟩ := sums change.owner change.account
  obtain rfl := Except.ok.inj ((sumFor_of_mem folded member).symm.trans sum_eq)
  exact sum_le

/-- Without a fault, a batch of moderate amounts whose numbers fit is written unless an account is
missing; then it fails at the first one. -/
theorem record_outcome (faultless : world.fault = none)
    (writable : ∀ entry ∈ entries, IsWritable entry)
    (small : ∀ entry ∈ entries, |entry.amount.value| < 10 ^ 26) :
    match lostPlace? world.ledger entries with
    | some place => ∃ after, record entries world = .error (.accountMissing place.2) after
    | none => ∃ ids after, record entries world = .ok ids after := by
  have moderate : ∀ entry ∈ entries, entry.amount.IsAtMost 26 := fun entry member =>
    ⟨(writable entry member).amount, by exact_mod_cast (small entry member).le⟩
  -- Sums that are this small cannot fail, so only a missing account can stop the batch.
  rcases exists_foldlM_isAtMost moderate with ⟨changes, folded, sums_small⟩
  rcases exists_mapM_insert_eq writable world with ⟨ids, written, inserted⟩
  obtain ⟨written_faultless, same_lost⟩ : written.fault = none
      ∧ Change.isLost written.ledger = Change.isLost world.ledger := by
    rcases mapM_insert_eq_ok inserted with ⟨-, rows, -, -, -, rfl⟩
    exact ⟨faultless, rfl⟩
  obtain ⟨work, record_eq, work_eq⟩ : ∃ work : Call (List Int),
      record entries world = atomically work world
        ∧ work world = (do changes.forM applyChange; return ids : Call (List Int)) written := by
    refine ⟨_, bind_of_ok (failAt_of_faultless faultless _ _), ?_⟩
    rw [bind_of_ok (collect_of_faultless faultless folded),
      bind_of_ok (forM_checkQuiet_eq writable world), bind_of_ok inserted]
  have outcome := forM_applyChange_outcome written_faultless sums_small
  rw [← map_place_find?_isLost folded, record_eq]
  rw [same_lost] at outcome
  cases found : changes.find? (Change.isLost world.ledger) with
  | some change =>
      rw [found] at outcome
      rcases outcome with ⟨after, failed⟩
      exact ⟨_, atomically_of_error (work_eq.trans (bind_of_error failed))⟩
  | none =>
      rw [found] at outcome
      rcases outcome with ⟨new, applied⟩
      have done := work_eq.trans ((bind_of_ok applied).trans (pure_apply ids _))
      exact ⟨ids, _, atomically_of_faultless done written_faultless⟩

theorem exists_record_eq_ok_of_lostPlace? (faultless : world.fault = none)
    (writable : ∀ entry ∈ entries, IsWritable entry)
    (small : ∀ entry ∈ entries, |entry.amount.value| < 10 ^ 26)
    (nothing : lostPlace? world.ledger entries = none) :
    ∃ ids after, record entries world = .ok ids after := by
  have outcome := record_outcome faultless writable small
  rwa [nothing] at outcome

theorem record_eq_error_of_lostPlace? {place : String × Int} (faultless : world.fault = none)
    (writable : ∀ entry ∈ entries, IsWritable entry)
    (small : ∀ entry ∈ entries, |entry.amount.value| < 10 ^ 26)
    (lost : lostPlace? world.ledger entries = some place) :
    ∃ after, record entries world = .error (.accountMissing place.2) after := by
  have outcome := record_outcome faultless writable small
  rwa [lost] at outcome

/-! ## What is written -/

/-- Is an entry found under a number as it was given, with its amount as it is stored and without a
destination?  No entry is looked for under a number beyond 64 bits. -/
def IsFound (world : World) (entry : NewEntry) (id : Int) : Prop :=
  ∃ stored, Stored.ofDecimal? entry.amount = some stored
    ∧ (Integer.isWord id = true → find id world = .ok (some (ofNew id stored entry)) world)

/-- What a batch leaves behind when it is written: new rows that are found under their numbers, and
one sum added to each account that it is for. -/
structure IsWritten (entries : List NewEntry) (ids : List Int) (before after : World) : Prop where
  new : Ledger.AreNew (before.ledger.entries.map Entry.id) ids
  found : List.Forall₂ (IsFound after) entries ids
  balances : ∀ owner account, ∃ sum, sumFor owner account entries = .ok sum
    ∧ Applied [sum] (before.ledger.account? owner account) (after.ledger.account? owner account)
  accounts : after.ledger.emptied = before.ledger.emptied
  frame : ∃ rows, rows.map Entry.id = ids ∧ after.ledger = { before.ledger with
    accounts := after.ledger.accounts, entries := before.ledger.entries ++ rows }

/-- A new row is found under its number. -/
theorem find_of_mem_rows {row : Entry} (word : Integer.isWord row.id = true)
    (new : Ledger.AreNew (ledger.entries.map Entry.id) (rows.map Entry.id))
    (after_entries : after.ledger.entries = ledger.entries ++ rows) (member : row ∈ rows) :
    find row.id after = .ok (some row) after := by
  rw [find, bind_of_ok (checkWord_eq_ok_iff.mpr ⟨word, rfl⟩), bind_of_ok (ledger_apply after),
    after_entries]
  have only : (ledger.entries ++ rows).find? (fun entry => entry.id = row.id) = some row := by
    apply Ledger.find?_eq_some_of_unique (List.mem_append_right _ member) (decide_eq_true rfl)
    intro other inside same
    have same_id : other.id = row.id := of_decide_eq_true same
    rcases List.mem_append.mp inside with earlier | later
    · have above := new.above row.id (List.mem_map_of_mem member) other.id
        (List.mem_map_of_mem earlier)
      omega
    · exact List.inj_on_of_nodup_map new.rising.nodup later member same_id
  rw [only]
  rfl

theorem isWritten_of_record_eq_ok (run : record entries world = .ok ids after) :
    IsWritten entries ids world after := by
  obtain ⟨changes, rows, written, changed, folded, of_entries, rfl, new, rows_ledger, step,
    after_eq⟩ := record_eq_ok run
  rcases forM_applyChange_eq_ok step with ⟨frame, kept, applied⟩
  rw [← after_eq, rows_ledger] at frame kept applied
  have after_entries : after.ledger.entries = world.ledger.entries ++ rows := by rw [frame]
  refine ⟨new, ?_, fun owner account => ?_, kept, ⟨rows, rfl, frame⟩⟩
  · have each : ∀ row ∈ rows, ∀ entry, IsRowOf entry row → IsFound after entry row.id := by
      rintro row member entry ⟨id, stored, stored_eq, rfl⟩
      exact ⟨stored, stored_eq, fun word => find_of_mem_rows word new after_entries member⟩
    rw [List.forall₂_map_right_iff]
    rw [List.forall₂_iff_get] at of_entries ⊢
    exact ⟨of_entries.1, fun k inside also =>
      each _ (List.get_mem rows ⟨k, also⟩) _ (of_entries.2 k inside also)⟩
  · obtain ⟨sum, sum_eq⟩ := exists_foldlM_addEntry_iff.mp ⟨changes, folded⟩ owner account
    exact ⟨sum, sum_eq, (applied_sumsFor_iff folded sum_eq).mp (applied owner account)⟩

/-- A batch that is written gives one new number for each entry, in order, finds the entries under
them, and adds to each account what the batch adds up to for it.  Without a fault, a batch of
moderate amounts whose numbers fit is written unless it has something to add to an account that is
not there; then it fails at the first such account and leaves the ledger alone. -/
theorem record_writes_or_misses (entries : List NewEntry) :
    (∀ world ids after, record entries world = .ok ids after → IsWritten entries ids world after)
    ∧ ((∀ entry ∈ entries, |entry.amount.value| < 10 ^ 26) → ∀ world : World,
      world.fault = none → (∀ entry ∈ entries, IsWritable entry) →
      (lostPlace? world.ledger entries = none → ∃ ids after, record entries world = .ok ids after)
      ∧ ∀ place, lostPlace? world.ledger entries = some place →
        ∃ after, record entries world = .error (.accountMissing place.2) after
          ∧ after.ledger = world.ledger) := by
  refine ⟨fun world ids after => isWritten_of_record_eq_ok, ?_⟩
  intro small world faultless writable
  refine ⟨exists_record_eq_ok_of_lostPlace? faultless writable small, fun place lost => ?_⟩
  rcases record_eq_error_of_lostPlace? faultless writable small lost with ⟨after, failed⟩
  exact ⟨after, failed, restores_record entries failed⟩

/-- Ana and Bia have a wallet each. -/
def twoWallets : World :=
  World.newYear.run [.create "ana" "Carteira" .wallet (.ofCents false 1000),
    .create "bia" "Carteira" .wallet (.ofCents false 250)]

/-- Both owners sell and buy, one entry is on a card, and one is for an account that does not exist
but has not moved money yet. -/
def marketDay : List NewEntry :=
  let entry := fun owner kind cents description account settlement => ({
    owner, kind, amount := .ofCents false cents, description, date := World.newYear.today, account,
    settlement } : NewEntry)
  [entry "ana" .income 500 "Bolo" (some 1) .confirmed,
   entry "bia" .expense 250 "Bolo" (some 2) .confirmed,
   entry "ana" .expense 90 "Sacola" (some 1) .pending,
   entry "ana" .expense 125 "Café" (some 1) .confirmed,
   { entry "ana" .expense 3000 "Pano" none .confirmed with card := some 1 },
   entry "bia" .income 700 "Frete" (some 1) .pending]

/-- The market day is written; once the last two entries move money, too, it fails at Bia's. -/
theorem record_writes_or_misses_marketDay :
    (∃ ids after, record marketDay twoWallets = .ok ids after
      ∧ IsWritten marketDay ids twoWallets after)
    ∧ ∃ after, record (marketDay.map fun entry => { entry with settlement := .confirmed })
        twoWallets = .error (.accountMissing 1) after ∧ after.ledger = twoWallets.ledger := by
  have faultless : twoWallets.fault = none := by decide +kernel
  constructor
  · rcases record_writes_or_misses marketDay with ⟨written, outcome⟩
    rcases (outcome (by decide +kernel) twoWallets faultless (by decide +kernel)).1
      (by decide +kernel) with ⟨ids, after, run⟩
    exact ⟨ids, after, run, written twoWallets ids after run⟩
  · exact ((record_writes_or_misses _).2 (by decide +kernel) twoWallets faultless
      (by decide +kernel)).2 ("bia", 1) (by decide +kernel)

end Cashbook.Entry
