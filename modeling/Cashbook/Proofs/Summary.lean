import Cashbook.Proofs.Date.Order
import Cashbook.Proofs.Decimal.Sums
import Cashbook.Proofs.Evolution
import Cashbook.Proofs.Ledger.Listing
import Cashbook.Proofs.Money.Stored
import Cashbook.Proofs.Posting.Appending
import Cashbook.Summary

/-!
# What the monthly report tells

The report on a month adds up the income and the expenses that are dated in it.  It depends on
these entries only, so neither transfers nor what others write nor what is dated in another month
changes it.
-/

namespace Cashbook

open Call

/-- Does a date have the year and the month of a day? -/
def Date.IsInMonthOf (date day : Date) : Prop :=
  date.year = day.year ∧ date.month = day.month

instance (date day : Date) : Decidable (date.IsInMonthOf day) :=
  inferInstanceAs (Decidable (_ ∧ _))

theorem Date.isInMonthOf_iff {date day : Date} :
    date.IsInMonthOf day ↔ date.monthCount = day.monthCount :=
  monthCount_eq_iff.symm

/-- Does an entry count for the reports of an owner on the month of a day? -/
def Entry.CountsFor (entry : Entry) (owner : String) (day : Date) : Prop :=
  entry.owner = owner ∧ entry.kind ≠ .transfer ∧ entry.date.IsInMonthOf day

/-- The sum of the amounts of entries, as these are read. -/
def Entry.sumOf (entries : List Entry) : ℚ :=
  (entries.map fun entry => entry.amount.toDecimal.value).sum

/-- The sizes of the amounts of entries together, as these are read. -/
def Entry.totalSize (entries : List Entry) : ℚ :=
  (entries.map fun entry => |entry.amount.toDecimal.value|).sum

theorem Entry.totalSize_nonneg (entries : List Entry) : 0 ≤ totalSize entries :=
  List.sum_nonneg (List.forall_mem_map.mpr fun entry _ => abs_nonneg entry.amount.toDecimal.value)

/-- The size of a sum is at most the sizes together. -/
theorem Entry.abs_sumOf_le (entries : List Entry) : |sumOf entries| ≤ totalSize entries := by
  have le := Decimal.abs_sum_value_le (entries.map fun entry => entry.amount.toDecimal)
  rw [Decimal.totalSize, List.map_map, List.map_map] at le
  exact le

namespace Ledger

variable {ledger before after : Ledger} {owner : String} {kind : EntryKind} {day : Date}

/-- The entries of one kind of an owner that are dated in the month of a day. -/
def monthly (ledger : Ledger) (owner : String) (kind : EntryKind) (day : Date) : List Entry :=
  ledger.entries.filter fun entry =>
    entry.owner = owner ∧ entry.kind = kind ∧ entry.date.IsInMonthOf day

/-- Are the amounts of an owner's entries finite, and smaller than a bound together? -/
structure IsModerateFor (ledger : Ledger) (owner : String) : Prop where
  finite : ∀ entry ∈ ledger.entries, entry.owner = owner →
    entry.amount.toDecimal.isFinite = true
  size : Entry.totalSize (ledger.entries.filter fun entry => entry.owner = owner) < 10 ^ 26

theorem mem_monthly_iff {entry : Entry} :
    entry ∈ ledger.monthly owner kind day ↔ entry ∈ ledger.entries ∧ entry.owner = owner
      ∧ entry.kind = kind ∧ entry.date.IsInMonthOf day := by
  simp [monthly]

/-- Entries that do not count for a month are not among those of the month. -/
theorem monthly_eq_of_appends (counted_kind : kind ≠ .transfer)
    (appends : before.Appends (fun row => ¬row.CountsFor owner day) after) :
    after.monthly owner kind day = before.monthly owner kind day := by
  rcases appends with ⟨rows, after_eq, none_counts⟩
  have none_added : rows.filter (fun entry =>
      entry.owner = owner ∧ entry.kind = kind ∧ entry.date.IsInMonthOf day) = [] := by
    rw [List.filter_eq_nil_iff]
    intro row member listed
    obtain ⟨own, same_kind, dated⟩ := of_decide_eq_true listed
    exact none_counts row member ⟨own, same_kind ▸ counted_kind, dated⟩
  rw [monthly, monthly, after_eq, List.filter_append, none_added, List.append_nil]

/-- The income and the expenses of a month are together no larger than all entries of the
owner. -/
theorem totalSize_monthly_add_le (ledger : Ledger) (owner : String) (day : Date) :
    Entry.totalSize (ledger.monthly owner .income day)
        + Entry.totalSize (ledger.monthly owner .expense day)
      ≤ Entry.totalSize (ledger.entries.filter fun entry => entry.owner = owner) := by
  unfold monthly Entry.totalSize
  induction ledger.entries with
  | nil => simp
  | cons entry rest ih =>
      have size := abs_nonneg entry.amount.toDecimal.value
      by_cases own : entry.owner = owner
      · by_cases dated : entry.date.IsInMonthOf day
        · cases kind : entry.kind <;> simp [own, dated, kind] at ih ⊢ <;> linarith
        · simp [own, dated] at ih ⊢
          linarith
      · simpa [own] using ih

end Ledger

namespace MonthlyReport

variable {world : World} {ledger before after : Ledger} {owner : String} {kind : EntryKind}
  {day first last : Date}

/-! ## The entries of a month -/

/-- The range of a month admits the dates of that month. -/
theorem admits_iff (ranged : day.monthRange = .ok (first, last)) (entry : Entry) :
    Entry.Selection.admits { first := some first, last := some last } entry = true
      ↔ entry.date.IsInMonthOf day := by
  rw [Date.isInMonthOf_iff, ← Date.mem_monthRange_iff ranged]
  simp [Entry.Selection.admits]

/-- A report adds up the entries of its month, in the order in which they are listed. -/
theorem total_selected (ranged : day.monthRange = .ok (first, last)) (ledger : Ledger)
    (owner : String) (kind : EntryKind) :
    total kind (Entry.selected ledger owner { first := some first, last := some last })
      = Decimal.sum (((ledger.monthly owner kind day).mergeSort Entry.listedBefore).map
          fun entry => entry.amount.toDecimal) := by
  rw [total, Entry.filter_selected, Ledger.monthly]
  congr 3
  apply List.filter_congr
  intro entry _
  have admitted := admits_iff ranged entry
  by_cases dated : entry.date.IsInMonthOf day
  · simp [admitted.mpr dated, dated, Bool.and_comm]
  · simp [mt admitted.mp dated, dated]

/-- A total is exact where the amounts are small together. -/
theorem exists_total_eq (moderate : ledger.IsModerateFor owner)
    (ranged : day.monthRange = .ok (first, last)) (kind : EntryKind)
    (few : Entry.totalSize (ledger.monthly owner kind day) < 10 ^ 26) :
    ∃ sum cents, total kind (Entry.selected ledger owner { first := some first, last := some last })
        = .ok sum
      ∧ sum.IsCents cents ∧ sum.value = Entry.sumOf (ledger.monthly owner kind day) := by
  have sorted := List.mergeSort_perm (ledger.monthly owner kind day) Entry.listedBefore
  have counted : ∀ number ∈ ((ledger.monthly owner kind day).mergeSort Entry.listedBefore).map
      (fun entry => entry.amount.toDecimal), ∃ cents, number.IsUnits (-2) cents := by
    rw [List.forall_mem_map]
    intro entry member
    obtain ⟨stored, own, -⟩ := Ledger.mem_monthly_iff.mp (List.mem_mergeSort.mp member)
    exact Money.Stored.exists_isCents_toDecimal (moderate.finite entry stored own)
  have small : Decimal.totalSize (((ledger.monthly owner kind day).mergeSort
      Entry.listedBefore).map fun entry => entry.amount.toDecimal)
      < 10 ^ ((-2 : Int) + Decimal.working.digits) := by
    rw [Decimal.totalSize, List.map_map, (sorted.map _).sum_eq]
    exact few
  rcases Decimal.exists_sum_eq counted small (by decide) (by decide) with
    ⟨sum, sum_eq, ⟨cents, sum_counted⟩, value_eq⟩
  refine ⟨sum, cents, (total_selected ranged ledger owner kind).trans sum_eq, sum_counted, ?_⟩
  rw [value_eq, List.map_map, (sorted.map _).sum_eq]
  rfl

/-! ## Reports -/

/-- Does a report tell the range of the month of a day and the exact sums of what an owner has
earned and spent in it? -/
structure Tells (report : MonthlyReport) (ledger : Ledger) (owner : String) (day : Date) :
    Prop where
  first : report.first = day.monthStart
  last : report.last.IsMonthEnd ∧ report.last.IsInMonthOf day
  income : report.income.isFinite = true
    ∧ report.income.value = Entry.sumOf (ledger.monthly owner .income day)
  expenses : report.expenses.isFinite = true
    ∧ report.expenses.value = Entry.sumOf (ledger.monthly owner .expense day)
  net : ∃ net, report.net = .ok net ∧ net.isFinite = true
    ∧ net.value = Entry.sumOf (ledger.monthly owner .income day)
      - Entry.sumOf (ledger.monthly owner .expense day)

/-- The report on entries that are listed between two days. -/
def ofListed (first last : Date) (entries : List Entry) :
    Except Decimal.ArithmeticError MonthlyReport := do
  let income ← total .income entries
  let expenses ← total .expense entries
  return ⟨first, last, income, expenses⟩

/-- A report is answered on the entries that are listed in its range, unless listing fails. -/
theorem answer_load (ranged : day.monthRange = .ok (first, last)) (owner : String)
    (world : World) :
    (load owner day).answer world
      = if (pass? .entryListing world.fault).isSome then
          (ofListed first last (Entry.selected world.ledger owner
            { first := some first, last := some last })).mapError Failure.arithmetic
        else .error .crash := by
  have begun : ofCalendar day.monthRange world = .ok (first, last) world := by
    rw [ranged]
    rfl
  have shown := failAt_eq .entryListing .crash world
  unfold answer
  rw [load, bind_of_ok begun]
  cases passed : pass? .entryListing world.fault with
  | none =>
      rw [passed] at shown
      have failed : Entry.list owner { first := some first, last := some last } world
          = .error .crash { world with fault := none } := by
        rw [Entry.list, bind_of_error shown]
      dsimp only
      rw [bind_of_error failed]
      rfl
  | some fault =>
      rw [passed] at shown
      have listed : Entry.list owner { first := some first, last := some last } world
          = .ok (Entry.selected world.ledger owner { first := some first, last := some last })
            { world with fault := fault } := by
        rw [Entry.list, bind_of_ok shown]
        rfl
      dsimp only
      rw [bind_of_ok listed, ofListed]
      generalize Entry.selected world.ledger owner { first := some first, last := some last }
        = entries
      cases total .income entries with
      | error error => rfl
      | ok income => cases total .expense entries <;> rfl

/-- A report comes about before the last month of the calendar, and is exact where the amounts of
the owner are moderate. -/
theorem exists_load_eq (moderate : world.ledger.IsModerateFor owner)
    (listable : ∀ fault, world.fault = some fault → fault.point ≠ .entryListing)
    (inside : day.year < 9999 ∨ day.month < 12) :
    ∃ report, (load owner day).answer world = .ok report
      ∧ report.Tells world.ledger owner day := by
  have before_last : day.monthCount + 1 < 120000 := by
    obtain ⟨⟨-, year_le⟩, ⟨month_pos, month_le⟩, -⟩ := day.valid
    unfold Date.monthCount
    omega
  rcases day.exists_monthRange_eq before_last with ⟨last, ranged, ends, last_count⟩
  have income_size := Entry.totalSize_nonneg (world.ledger.monthly owner .income day)
  have expense_size := Entry.totalSize_nonneg (world.ledger.monthly owner .expense day)
  have together := (world.ledger.totalSize_monthly_add_le owner day).trans_lt moderate.size
  rcases exists_total_eq moderate ranged .income (by linarith) with
    ⟨income, incomeCents, income_eq, income_counted, income_value⟩
  rcases exists_total_eq moderate ranged .expense (by linarith) with
    ⟨expenses, expenseCents, expenses_eq, expenses_counted, expenses_value⟩
  have few : |income.value| + |expenses.value| < 10 ^ ((-2 : Int) + Decimal.working.digits) := by
    rw [income_value, expenses_value]
    exact (add_le_add (Entry.abs_sumOf_le _) (Entry.abs_sumOf_le _)).trans_lt together
  rcases income_counted.exists_sub_eq expenses_counted few (by decide) (by decide) with
    ⟨net, net_eq, net_counted, net_value⟩
  have passed : (pass? .entryListing world.fault).isSome := by
    cases armed : world.fault with
    | none => rfl
    | some fault => simp [pass?, listable fault armed]
  refine ⟨⟨day.monthStart, last, income, expenses⟩, ?_, ?_⟩
  · rw [answer_load ranged, if_pos passed, ofListed, income_eq, expenses_eq]
    rfl
  · exact ⟨rfl, ⟨ends, Date.isInMonthOf_iff.mpr last_count⟩, ⟨income_counted.1, income_value⟩,
      ⟨expenses_counted.1, expenses_value⟩,
      ⟨net, net_eq, net_counted.1, by rw [net_value, income_value, expenses_value]⟩⟩

/-! ## What a report depends on -/

/-- Are two ledgers reported alike for an owner and the month of a day, however storage fails? -/
def ReportsAlike (owner : String) (day : Date) (before after : Ledger) : Prop :=
  ∀ world : World, (load owner day).answer { world with ledger := after }
    = (load owner day).answer { world with ledger := before }

/-- A ledger is reported as before when no entry is appended that counts for the month. -/
theorem reportsAlike_of_appends
    (appends : before.Appends (fun row => ¬row.CountsFor owner day) after) :
    ReportsAlike owner day before after := by
  intro world
  cases ranged : day.monthRange with
  | error error => simp only [load, ranged]; rfl
  | ok range =>
      have same : ∀ kind, kind ≠ .transfer →
          total kind (Entry.selected after owner { first := some range.1, last := some range.2 })
            = total kind
              (Entry.selected before owner { first := some range.1, last := some range.2 }) := by
        intro kind counted_kind
        rw [total_selected ranged, total_selected ranged,
          Ledger.monthly_eq_of_appends counted_kind appends]
      rw [answer_load ranged, answer_load ranged, ofListed, ofListed, same .income nofun,
        same .expense nofun]

/-- Days of one month have one report. -/
theorem load_eq_of_isInMonthOf {other : Date} (together : other.IsInMonthOf day)
    (owner : String) : load owner other = load owner day := by
  rw [load, load, Date.monthRange_eq_of_monthCount_eq (Date.isInMonthOf_iff.mp together)]

/-- The report of an owner on a month is the exact sum of the income and of the expenses that are
dated in it, as long as the owner's entries are moderate together and the month is not the last
one of the calendar.  An entry is listed for the month of its date and for no other.  No transfer
changes a report, whatever slips in, nor does a batch or a draft of others or one of another month,
nor anything that writes no entry of the owner that is dated in the month. -/
theorem counts_each_month (world : World) (owner : String) :
    (world.ledger.IsModerateFor owner →
      (∀ fault, world.fault = some fault → fault.point ≠ .entryListing) →
      ∀ day : Date, day.year < 9999 ∨ day.month < 12 →
        ∃ report, (load owner day).answer world = .ok report
          ∧ report.Tells world.ledger owner day)
    ∧ (∀ day first last, day.monthRange = .ok (first, last) → ∀ entry,
        entry ∈ Entry.selected world.ledger owner { first := some first, last := some last }
          ↔ entry ∈ world.ledger.entries ∧ entry.owner = owner ∧ entry.date.IsInMonthOf day)
    ∧ (∀ day other : Date, other.IsInMonthOf day → load owner other = load owner day)
    ∧ (∀ movement description date day, ReportsAlike owner day world.ledger
        ((Transfer.execute movement description date).worldAfter world).ledger)
    ∧ (∀ entries day, (∀ entry ∈ entries, entry.owner = owner → entry.kind ≠ .transfer →
        ¬entry.date.IsInMonthOf day) →
        ReportsAlike owner day world.ledger ((Entry.record entries).worldAfter world).ledger)
    ∧ (∀ (draft : Draft) (context : OwnerContext) day, context.owner ≠ owner →
        ReportsAlike owner day world.ledger ((draft.post context).worldAfter world).ledger)
    ∧ ∀ steps day, (∀ row ∈ (world.later steps).ledger.entries.drop world.ledger.entries.length,
        ¬row.CountsFor owner day) →
        ReportsAlike owner day world.ledger (world.later steps).ledger := by
  refine ⟨fun moderate listable day inside => exists_load_eq moderate listable inside, ?_,
    fun day other together => load_eq_of_isInMonthOf together owner, ?_, ?_, ?_, ?_⟩
  · intro day first last ranged entry
    rw [Entry.mem_selected_iff, admits_iff ranged]
  · intro movement description date day
    refine reportsAlike_of_appends ((Transfer.appends_execute ..).mono ?_)
    exact fun row transfer counts => counts.2.1 transfer
  · intro entries day aside
    refine reportsAlike_of_appends ((Entry.appends_record entries world).mono ?_)
    rintro row ⟨entry, member, id, stored, -, rfl⟩ ⟨own, counted_kind, dated⟩
    exact aside entry member own counted_kind dated
  · intro draft context day other
    refine reportsAlike_of_appends ((draft.appends_post context world).mono ?_)
    rintro row (transfer | foreign) ⟨own, counted_kind, -⟩
    · exact counted_kind transfer
    · exact other (foreign.symm.trans own)
  · intro steps day aside
    exact reportsAlike_of_appends ((World.evolves_later world steps).appends.of_drop aside)

/-- On the last day of a leap February something is earned, spent and moved; more is spent on the
day after, and somebody else earns something. -/
def leapDay : World :=
  let entry := fun owner kind cents description date settlement => ({
    owner, kind, amount := .ofCents false cents, description, date, account := some 1,
    settlement } : NewEntry)
  World.newYear.run
    [.create "ana" "Carteira" .wallet .zero, .create "ana" "Reserva" .savings .zero,
     .record [entry "ana" .income 10000 "Bolo" ⟨2024, 2, 29, by decide⟩ .confirmed,
       entry "ana" .expense 4025 "Frete" ⟨2024, 2, 29, by decide⟩ .pending,
       entry "ana" .expense 900 "Pano" ⟨2024, 3, 1, by decide⟩ .confirmed,
       entry "bia" .income 700 "Café" ⟨2024, 2, 29, by decide⟩ .pending],
     .transfer ⟨"ana", 1, 2, .ofCents false 1000⟩ "Reserva" ⟨2024, 2, 29, by decide⟩]

/-- The report on that February tells what was earned and spent in it, and another transfer in the
same month does not change it. -/
theorem counts_each_month_leapDay :
    let day : Date := ⟨2024, 2, 10, by decide⟩
    leapDay.ledger.IsModerateFor "ana"
    ∧ (∃ report, (load "ana" day).answer leapDay = .ok report
      ∧ report.Tells leapDay.ledger "ana" day
      ∧ report.income.value = 100 ∧ report.expenses.value = 161 / 4)
    ∧ ReportsAlike "ana" day leapDay.ledger
      ((Transfer.execute ⟨"ana", 2, 1, .ofCents false 500⟩ "Volta" day).worldAfter
        leapDay).ledger := by
  intro day
  have moderate : leapDay.ledger.IsModerateFor "ana" :=
    ⟨by decide +kernel, by decide +kernel⟩
  rcases counts_each_month leapDay "ana" with ⟨reported, -, -, moved, -⟩
  rcases reported moderate (World.point_ne_of_faultless (by decide +kernel) _) day
    (.inl (by decide)) with ⟨report, answered, tells⟩
  refine ⟨moderate, ⟨report, answered, tells, ?_, ?_⟩, moved _ _ _ _⟩
  · rw [tells.income.2]
    decide +kernel
  · rw [tells.expenses.2]
    decide +kernel

end MonthlyReport

end Cashbook
