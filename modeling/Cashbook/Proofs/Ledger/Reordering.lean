import Cashbook.Proofs.Ledger.Batches
import Cashbook.Proofs.Ledger.ExactSums

/-!
# The order of a batch

What a batch does to balances does not depend on the order of its entries as long as its sums are
exact: each account then takes one sum, which is the same in every order, and sums for different
accounts can be added one before the other.
-/

namespace Cashbook.Entry

open Call Money Decimal

variable {owner : String} {account place : Int} {entries others : List NewEntry}
  {changes : List Change} {rows : List Entry} {ids : List Int} {world after : World}

/-! ## The credits of a batch -/

/-- What a batch comes down to for an account of an owner. -/
def creditFor? (owner : String) (account : Int) (entries : List NewEntry) : Option Credit :=
  match sumFor owner account entries with
  | .ok sum => Change.credit? ⟨owner, account, sum⟩
  | .error _ => none

theorem Change.place_of_credit? {change : Change} {credit : Credit}
    (credit_eq : change.credit? = some credit) :
    credit.owner = change.owner ∧ credit.account = change.account := by
  unfold credit? at credit_eq
  split_ifs at credit_eq
  obtain rfl := Option.some.inj credit_eq
  exact ⟨rfl, rfl⟩

/-- The credits of a batch are what it comes down to for each account. -/
theorem mem_creditsOf_iff (folded : entries.foldlM addEntry [] = .ok changes) {credit : Credit} :
    credit ∈ creditsOf changes
      ↔ creditFor? credit.owner credit.account entries = some credit := by
  unfold creditsOf
  rw [List.mem_filterMap]
  constructor
  · rintro ⟨change, member, credit_eq⟩
    have sum_eq := sumFor_of_mem folded member
    obtain ⟨same_owner, same_account⟩ := Change.place_of_credit? credit_eq
    rw [creditFor?, same_owner, same_account, sum_eq]
    exact credit_eq
  · intro credit_eq
    obtain ⟨sum, sum_eq⟩ :=
      exists_foldlM_addEntry_iff.mp ⟨changes, folded⟩ credit.owner credit.account
    have sums_eq := sumsFor_eq_of_foldlM folded sum_eq
    rw [creditFor?, sum_eq] at credit_eq
    split_ifs at sums_eq with none
    · -- Without entries the sum is zero, and no credit comes of it.
      rw [sumFor_eq, none] at sum_eq
      obtain rfl : Decimal.zero = sum := Except.ok.inj sum_eq
      cases credit_eq
    · have listed : sum ∈ sumsFor credit.owner credit.account changes := by
        rw [sums_eq]
        exact List.mem_singleton_self sum
      rcases List.mem_map.mp listed with ⟨change, inside, rfl⟩
      rcases List.mem_filter.mp inside with ⟨member, here⟩
      refine ⟨change, member, ?_⟩
      rw [← of_decide_eq_true here |>.1, ← of_decide_eq_true here |>.2] at credit_eq
      exact credit_eq

theorem eq_of_meetsAt (folded : entries.foldlM addEntry [] = .ok changes) :
    ∀ credit ∈ creditsOf changes, ∀ other ∈ creditsOf changes,
      credit.MeetsAt other → other = credit := by
  rintro credit member other inside ⟨same_owner, same_account⟩
  rw [mem_creditsOf_iff folded] at member inside
  rw [same_owner, same_account, member] at inside
  exact (Option.some.inj inside).symm

theorem nodup_creditsOf (folded : entries.foldlM addEntry [] = .ok changes) :
    (creditsOf changes).Nodup := by
  have apart := List.pairwise_map.mp (nodup_place_of_foldlM folded)
  refine List.Pairwise.filterMap _ (fun first second differ credit credit_eq other other_eq => ?_)
    apart
  rintro rfl
  obtain ⟨first_owner, first_account⟩ := Change.place_of_credit? credit_eq
  obtain ⟨second_owner, second_account⟩ := Change.place_of_credit? other_eq
  exact differ (Prod.ext (first_owner.symm.trans second_owner)
    (first_account.symm.trans second_account))

/-! ## Another order -/

theorem turnover_eq_of_perm (same : entries.Perm others) : turnover others = turnover entries :=
  (same.map _).sum_eq.symm

theorem AddsUp.perm (exact : AddsUp entries place) (same : entries.Perm others) :
    AddsUp others place where
  units entry member := exact.units entry (same.mem_iff.mpr member)
  low := exact.low
  short := (turnover_eq_of_perm same).trans_lt exact.short
  range := (turnover_eq_of_perm same).trans_lt exact.range

/-- The sum for an account is exact. -/
theorem AddsUp.exists_sumFor_eq (exact : AddsUp entries place) (owner : String) (account : Int) :
    ∃ sum, sumFor owner account entries = .ok sum ∧ sum.isFinite = true
      ∧ sum.value = ((entriesFor owner account entries).map gainedValue).sum := by
  rcases exact.exists_high with ⟨place, exact, high⟩
  have nothing : Decimal.zero.value = 0 := (isUnits_zero 0).2.trans (by simp)
  have small := (turnover_entriesFor_le owner account entries).trans_lt exact.short
  rcases exists_addUp_eq (fun entry member => exact.units entry (mem_of_mem_entriesFor member))
    ⟨0, isUnits_zero place⟩ (by rw [nothing, abs_zero, zero_add]; exact small) exact.low high with
    ⟨sum, sum_eq, finite, value_eq⟩
  exact ⟨sum, sum_eq, finite, by rw [value_eq, nothing, zero_add]⟩

theorem AddsUp.exists_foldlM_eq (exact : AddsUp entries place) :
    ∃ changes, entries.foldlM addEntry [] = .ok changes :=
  exists_foldlM_addEntry_iff.mpr fun owner account =>
    (exact.exists_sumFor_eq owner account).imp fun _ sum => sum.1

theorem AddsUp.creditFor?_eq_of_perm (exact : AddsUp entries place) (same : entries.Perm others)
    (owner : String) (account : Int) :
    creditFor? owner account others = creditFor? owner account entries := by
  obtain ⟨sum, sum_eq, finite, value_eq⟩ := exact.exists_sumFor_eq owner account
  obtain ⟨other, other_eq, also_finite, other_value_eq⟩ :=
    (exact.perm same).exists_sumFor_eq owner account
  have values : other.value = sum.value := by
    rw [value_eq, other_value_eq]
    exact ((same.filter _).map _).sum_eq.symm
  simp only [creditFor?, Change.credit?, sum_eq, other_eq, isNonzero_of_isFinite finite,
    isNonzero_of_isFinite also_finite, values,
    Stored.ofDecimal?_eq_of_value_eq also_finite finite values]

/-- A batch comes down to the same credits in every order. -/
theorem AddsUp.creditsOf_perm {changed : List Change} (exact : AddsUp entries place)
    (same : entries.Perm others) (folded : entries.foldlM addEntry [] = .ok changes)
    (also_folded : others.foldlM addEntry [] = .ok changed) :
    (creditsOf changes).Perm (creditsOf changed) := by
  rw [List.perm_ext_iff_of_nodup (nodup_creditsOf folded) (nodup_creditsOf also_folded)]
  intro credit
  rw [mem_creditsOf_iff folded, mem_creditsOf_iff also_folded, exact.creditFor?_eq_of_perm same]

/-! ## Rows -/

/-- The row without its number. -/
def unnumbered (row : Entry) : Entry :=
  { row with id := 0 }

/-- The row of a new entry without its number, if its amount can be stored. -/
def rowOf? (entry : NewEntry) : Option Entry :=
  (Stored.ofDecimal? entry.amount).map fun stored => ofNew 0 stored entry

theorem map_unnumbered_eq (of_entries : List.Forall₂ IsRowOf entries rows) :
    rows.map unnumbered = entries.filterMap rowOf? := by
  induction of_entries with
  | nil => rfl
  | @cons entry row rest later of_entry _ ih =>
      rcases of_entry with ⟨id, stored, stored_eq, rfl⟩
      have row_eq : rowOf? entry = some (ofNew 0 stored entry) := by
        rw [rowOf?, stored_eq]
        rfl
      rw [List.map_cons, List.filterMap_cons_some row_eq, ih]
      rfl

/-! ## Batches -/

/-- What is left of an armed fault when so many rows are built and so many credits added. -/
def passBatch? (rows credits : Nat) (fault : Option Fault) : Option (Option Fault) := do
  let begun ← pass? .entryWriting fault
  let built ← passEach? .rowBuilding rows begun
  let changed ← passEach? .balanceChange credits built
  pass? .commit changed

/-- A batch that is written appends its rows and adds the credits that it comes down to. -/
theorem credits_of_record_eq_ok (run : record entries world = .ok ids after) :
    (∀ entry ∈ entries, HasWords entry) ∧ ∃ changes fault new rows,
      entries.foldlM addEntry [] = .ok changes
      ∧ passBatch? entries.length (creditsOf changes).length world.fault = some fault
      ∧ (creditsOf changes).foldlM Credit.applied? world.ledger = some new
      ∧ List.Forall₂ IsRowOf entries rows
      ∧ after.ledger = { new with entries := world.ledger.entries ++ rows } := by
  obtain ⟨changes, begun, built, written, changed, committed, begun_eq, folded, built_eq, -,
    inserted, applied, committed_eq, rfl⟩ := record_eq_ok_iff.mp run
  rcases mapM_insert_eq_ok inserted with ⟨words, rows, of_entries, rfl, -, rfl⟩
  obtain ⟨left, last, left_eq, credited, rfl⟩ := forM_applyChange_eq_ok_iff.mp applied
  rw [foldlM_applied?_withEntries] at credited
  rcases Option.map_eq_some_iff.mp credited with ⟨new, new_eq, rfl⟩
  refine ⟨words, changes, committed, new, rows, folded, ?_, new_eq, of_entries, rfl⟩
  simp [passBatch?, begun_eq, built_eq, left_eq, committed_eq]

/-- A batch of finite amounts is written when its numbers fit, it adds up, no fault shows and its
credits can be added. -/
theorem exists_record_eq_ok {fault : Option Fault} {new : Ledger}
    (writable : ∀ entry ∈ entries, IsWritable entry)
    (folded : entries.foldlM addEntry [] = .ok changes)
    (passed : passBatch? entries.length (creditsOf changes).length world.fault = some fault)
    (credited : (creditsOf changes).foldlM Credit.applied? world.ledger = some new) :
    ∃ ids after, record entries world = .ok ids after := by
  rcases Option.bind_eq_some_iff.mp passed with ⟨begun, begun_eq, building⟩
  rcases Option.bind_eq_some_iff.mp building with ⟨built, built_eq, changing⟩
  rcases Option.bind_eq_some_iff.mp changing with ⟨left, left_eq, committed_eq⟩
  rcases exists_mapM_insert_eq writable { world with fault := built } with ⟨ids, written, inserted⟩
  obtain ⟨changed, applied, rfl⟩ : ∃ changed,
      changes.forM applyChange written = .ok ⟨⟩ changed ∧ changed.fault = left := by
    rcases mapM_insert_eq_ok inserted with ⟨-, rows, -, -, -, rfl⟩
    have also_credited := foldlM_applied?_withEntries (creditsOf changes) world.ledger
      (world.ledger.entries ++ rows)
    rw [credited] at also_credited
    exact ⟨_, forM_applyChange_eq_ok_iff.mpr ⟨left, _, left_eq, also_credited, rfl⟩, rfl⟩
  exact ⟨ids, _, record_eq_ok_iff.mpr ⟨changes, begun, built, written, changed, fault, begun_eq,
    folded, built_eq, fun entry member => isSignaling_of_isFinite (writable entry member).amount,
    inserted, applied, committed_eq, rfl⟩⟩

/-- Without a fault, a batch is written if it comes down to nothing. -/
theorem exists_record_eq_ok_of_creditsOf_eq_nil (faultless : world.fault = none)
    (writable : ∀ entry ∈ entries, IsWritable entry)
    (folded : entries.foldlM addEntry [] = .ok changes) (nothing : creditsOf changes = []) :
    ∃ ids after, record entries world = .ok ids after := by
  have passed : passBatch? entries.length 0 none = some none := by
    change (passEach? .rowBuilding entries.length none).bind _ = _
    rw [passEach?_none]
    rfl
  apply exists_record_eq_ok writable folded
  · rw [nothing, faultless]
    exact passed
  · rw [nothing]
    rfl

theorem exists_record_eq_ok_of_perm (exact : AddsUp entries place)
    (same : entries.Perm others) (run : record entries world = .ok ids after) :
    ∃ ids after, record others world = .ok ids after := by
  -- A fault that counts rows and credits sees the same numbers of them in both orders.
  obtain ⟨words, changes, fault, new, rows, folded, passed, credited, -⟩ :=
    credits_of_record_eq_ok run
  rcases (exact.perm same).exists_foldlM_eq with ⟨changed, also_folded⟩
  have perm := exact.creditsOf_perm same folded also_folded
  have writable : ∀ entry ∈ others, IsWritable entry := by
    intro entry inside
    have member := same.mem_iff.mpr inside
    rcases exact.units entry member with ⟨units, counted⟩
    exact ⟨words entry member, counted.1⟩
  rw [same.length_eq, perm.length_eq] at passed
  rw [foldlM_applied?_eq_of_perm perm (eq_of_meetsAt folded)] at credited
  exact exists_record_eq_ok writable also_folded passed credited

/-- A batch whose sums are exact is written in every order or in none, and then each account has the
same balance and there are the same rows, but for their numbers. -/
theorem record_perm (exact : AddsUp entries place) (same : entries.Perm others) (world : World) :
    ((∃ ids after, record entries world = .ok ids after)
      ↔ ∃ ids after, record others world = .ok ids after)
    ∧ ∀ ids after otherIds otherAfter, record entries world = .ok ids after →
      record others world = .ok otherIds otherAfter →
      otherAfter.ledger = { after.ledger with entries := otherAfter.ledger.entries }
      ∧ (after.ledger.entries.map unnumbered).Perm (otherAfter.ledger.entries.map unnumbered) := by
  refine ⟨⟨?_, ?_⟩, ?_⟩
  · rintro ⟨ids, after, run⟩
    exact exists_record_eq_ok_of_perm exact same run
  · rintro ⟨ids, after, run⟩
    exact exists_record_eq_ok_of_perm (exact.perm same) same.symm run
  · intro ids after otherIds otherAfter run other_run
    obtain ⟨-, changes, -, new, rows, folded, -, credited, of_entries, after_eq⟩ :=
      credits_of_record_eq_ok run
    obtain ⟨-, changed, -, other, otherRows, also_folded, -, also_credited, of_others,
      other_eq⟩ := credits_of_record_eq_ok other_run
    have perm := exact.creditsOf_perm same folded also_folded
    rw [← foldlM_applied?_eq_of_perm perm (eq_of_meetsAt folded), credited] at also_credited
    obtain rfl := Option.some.inj also_credited
    rw [after_eq, other_eq]
    refine ⟨rfl, ?_⟩
    rw [List.map_append, List.map_append, map_unnumbered_eq of_entries,
      map_unnumbered_eq of_others]
    exact (same.filterMap _).append_left _

/-- The market day can be written down backwards. -/
theorem record_perm_marketDay : ∃ ids after otherIds otherAfter,
    record marketDay twoWallets = .ok ids after
      ∧ record marketDay.reverse twoWallets = .ok otherIds otherAfter
      ∧ otherAfter.ledger.accounts = after.ledger.accounts := by
  have exact : AddsUp marketDay (-2) :=
    (isShort_of_unitsAt? (by decide)).addsUp (by decide) (by decide)
  have written : ∃ ids after, record marketDay twoWallets = .ok ids after := by
    have writable : ∀ entry ∈ marketDay, IsWritable entry := by decide +kernel
    have small : ∀ entry ∈ marketDay, |entry.amount.value| < 10 ^ 26 := by decide +kernel
    have found : lostPlace? twoWallets.ledger marketDay = none := by decide +kernel
    have faultless : twoWallets.fault = none := by decide +kernel
    exact exists_record_eq_ok_of_lostPlace? faultless writable small found
  obtain ⟨either, alike⟩ := record_perm exact marketDay.reverse_perm.symm twoWallets
  obtain ⟨otherIds, otherAfter, other_run⟩ := either.mp written
  obtain ⟨ids, after, run⟩ := written
  refine ⟨ids, after, otherIds, otherAfter, run, other_run, ?_⟩
  rw [(alike ids after otherIds otherAfter run other_run).1]

/-! ## The ends of the range -/

/-- An amount for an account of Ana. -/
def posting (kind : EntryKind) (amount : Decimal) (account : Int) : NewEntry where
  owner := "ana"
  kind := kind
  amount := amount
  description := "Ajuste"
  date := World.newYear.today
  account := some account

/-- At the ends of the range the order matters: one order keeps a sum small while another one goes
beyond the largest number, and amounts below the last place are lost on their own. -/
theorem record_depends_on_order :
    (let gain := posting .income (.finite false 9 999999) 1
      let loss := posting .expense (.finite false 9 999999) 1
      IsShort [gain, loss, gain, loss] 999999
      ∧ [gain, loss, gain, loss].Perm [gain, gain, loss, loss]
      ∧ (∃ ids after, record [gain, loss, gain, loss] twoWallets = .ok ids after)
      ∧ ¬∃ ids after, record [gain, gain, loss, loss] twoWallets = .ok ids after)
    ∧ (let half := posting .income (.finite false 5 (-1000027)) 3
      let loss := posting .expense (.finite false 1 (-1000026)) 3
      IsShort [loss, half, half] (-1000027)
      ∧ [loss, half, half].Perm [half, half, loss]
      ∧ (∃ ids after, record [loss, half, half] twoWallets = .ok ids after)
      ∧ ¬∃ ids after, record [half, half, loss] twoWallets = .ok ids after) := by
  have faultless : twoWallets.fault = none := by decide +kernel
  constructor
  · intro gain loss
    refine ⟨isShort_of_unitsAt? (by decide), by decide, ?_, ?_⟩
    · obtain ⟨changes, folded, nothing⟩ : ∃ changes,
          [gain, loss, gain, loss].foldlM addEntry [] = .ok changes ∧ creditsOf changes = [] :=
        ⟨_, rfl, rfl⟩
      exact exists_record_eq_ok_of_creditsOf_eq_nil faultless (by decide) folded nothing
    · rintro ⟨ids, after, run⟩
      obtain ⟨-, changes, -, -, -, folded, -⟩ := credits_of_record_eq_ok run
      cases folded
  · intro half loss
    refine ⟨isShort_of_unitsAt? (by decide), by decide, ?_, ?_⟩
    · obtain ⟨changes, folded, nothing⟩ : ∃ changes,
          [loss, half, half].foldlM addEntry [] = .ok changes ∧ creditsOf changes = [] :=
        ⟨_, rfl, rfl⟩
      exact exists_record_eq_ok_of_creditsOf_eq_nil faultless (by decide) folded nothing
    · rintro ⟨ids, after, run⟩
      obtain ⟨-, changes, -, new, -, folded, -, credited, -⟩ := credits_of_record_eq_ok run
      have missing : twoWallets.ledger.account? "ana" 3 = none := by decide +kernel
      obtain ⟨amount, credits⟩ : ∃ amount, creditsOf changes = [⟨"ana", 3, amount⟩] := by
        cases folded
        exact ⟨_, rfl⟩
      rw [credits, List.foldlM_cons, Credit.applied?, Credit.balance?, missing] at credited
      cases credited

end Cashbook.Entry
