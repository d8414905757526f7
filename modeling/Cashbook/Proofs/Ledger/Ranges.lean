import Cashbook.Proofs.Ledger.Pairing
import Cashbook.Proofs.Summary

/-!
# Listing range by range

Entries are listed by date and number, so what is listed up to a day comes before what is listed
from the day after it.  The ranges of the months follow each other without gap or overlap, and so
a year is listed month by month.
-/

namespace Cashbook

open Call

namespace Entry

variable {world : World} {ledger : Ledger} {owner : String} {selection : Selection}
  {entry : Entry} {day middle following : Date} {group : Option String}

/-! ## What is listed, and in which order -/

/-- Does an entry stand before another one by date and number? -/
def Precedes (first second : Entry) : Prop :=
  first.date.rank < second.date.rank ∨ first.date = second.date ∧ first.id < second.id

/-- Does an entry belong to an owner, to the days of a selection and to its series? -/
structure IsSelected (entry : Entry) (owner : String) (selection : Selection) : Prop where
  owner : entry.owner = owner
  first : ∀ first, selection.first = some first → first ≤ entry.date
  last : ∀ last, selection.last = some last → entry.date ≤ last
  group : ∀ group, selection.group = some group → entry.installment.group = some group

theorem Selection.admits_eq_true_iff :
    selection.admits entry = true ↔
      (∀ first, selection.first = some first → first ≤ entry.date)
        ∧ (∀ last, selection.last = some last → entry.date ≤ last)
        ∧ ∀ group, selection.group = some group → entry.installment.group = some group := by
  obtain ⟨first, last, group⟩ := selection
  cases first <;> cases last <;> cases group <;> simp [admits, and_assoc]

theorem mem_selected_iff_isSelected :
    entry ∈ selected ledger owner selection
      ↔ entry ∈ ledger.entries ∧ entry.IsSelected owner selection := by
  rw [mem_selected_iff, Selection.admits_eq_true_iff]
  exact and_congr_right fun _ => ⟨fun ⟨own, first, last, group⟩ => ⟨own, first, last, group⟩,
    fun holds => ⟨holds.owner, holds.first, holds.last, holds.group⟩⟩

theorem pairwise_selected (ledger : Ledger) (owner : String) (selection : Selection) :
    (selected ledger owner selection).Pairwise fun first second =>
      listedBefore first second = true :=
  List.pairwise_mergeSort listedBefore_trans listedBefore_total _

/-- Entries with distinct numbers are listed in strictly rising order. -/
theorem pairwise_precedes_selected (distinct : (ledger.entries.map Entry.id).Nodup)
    (owner : String) (selection : Selection) :
    (selected ledger owner selection).Pairwise Precedes := by
  have apart : (selected ledger owner selection).Pairwise fun first second =>
      first.id ≠ second.id := by
    rw [← List.pairwise_map, ← List.Nodup]
    refine ((List.mergeSort_perm _ listedBefore).map Entry.id).nodup_iff.mpr ?_
    exact distinct.sublist (List.filter_sublist.map Entry.id)
  refine ((pairwise_selected ledger owner selection).and apart).imp ?_
  rintro first second ⟨before, ids_apart⟩
  rcases listedBefore_iff.mp before with earlier | ⟨same, le⟩
  · exact .inl earlier
  · exact .inr ⟨Date.eq_of_rank_eq same, lt_of_le_of_ne le ids_apart⟩

/-- Listing answers what is selected where storage does not fail. -/
theorem list_eq_ok (listable : ∀ fault, world.fault = some fault → fault.point ≠ .entryListing)
    (owner : String) (selection : Selection) :
    list owner selection world = .ok (selected world.ledger owner selection) world := by
  rw [list, bind_of_ok (failAt_of_point_ne listable .crash)]
  rfl

/-! ## Two ranges that meet -/

/-- What is kept of a listing is listed by a selection that admits no more than that. -/
theorem filter_selected_eq {narrower : Selection} {keeps : Entry → Bool}
    (narrows : ∀ entry,
      narrower.admits entry = true ↔ keeps entry = true ∧ selection.admits entry = true) :
    (selected ledger owner selection).filter keeps = selected ledger owner narrower := by
  rw [filter_selected, selected]
  congr 1
  apply List.filter_congr
  intro entry _
  rw [Bool.eq_iff_iff, Bool.and_eq_true, decide_eq_true_iff, decide_eq_true_iff, narrows]
  exact and_left_comm

/-- A listing is cut between a day of its range and the day after. -/
theorem selected_eq_append (early : ∀ first, selection.first = some first → first ≤ middle)
    (late : ∀ last, selection.last = some last → middle ≤ last)
    (next : ∀ other, following ≤ other ↔ ¬other ≤ middle) :
    selected ledger owner selection
      = selected ledger owner { selection with last := some middle }
        ++ selected ledger owner { selection with first := some following } := by
  have earlier : ∀ first second : Entry, listedBefore first second = true →
      decide (second.date ≤ middle) = true → decide (first.date ≤ middle) = true := by
    intro first second before second_early
    rw [listedBefore_iff] at before
    rw [decide_eq_true_iff, Date.le_iff] at second_early ⊢
    omega
  rw [← filter_append_filter_not (pairwise_selected ledger owner selection) earlier]
  congr 1
  · apply filter_selected_eq
    intro entry
    simp only [Selection.admits_eq_true_iff, Option.some.injEq, forall_eq', decide_eq_true_iff]
    constructor
    · rintro ⟨first, front, group⟩
      exact ⟨front, first, fun last bound => Nat.le_trans front (late last bound), group⟩
    · rintro ⟨front, first, -, group⟩
      exact ⟨first, front, group⟩
  · apply filter_selected_eq
    intro entry
    simp only [Selection.admits_eq_true_iff, Option.some.injEq, forall_eq', next,
      Bool.not_eq_true', decide_eq_false_iff_not]
    constructor
    · rintro ⟨back, last, group⟩
      refine ⟨back, fun first bound => ?_, last, group⟩
      exact Nat.le_trans (early first bound) (Nat.le_of_not_le back)
    · rintro ⟨back, -, last, group⟩
      exact ⟨back, last, group⟩

/-! ## Month by month -/

/-- Lists the entries of an owner that are dated in the month of a day. -/
def listMonth (owner : String) (group : Option String) (day : Date) : Call (List Entry) := do
  let (first, last) ← ofCalendar day.monthRange
  list owner { first, last, group }

/-- The entries of a month are listed unless it is the last one of the calendar. -/
theorem exists_listMonth_eq
    (listable : ∀ fault, world.fault = some fault → fault.point ≠ .entryListing)
    (owner : String) (group : Option String) (day : Date)
    (inside : day.monthCount + 1 < 120000) :
    ∃ last : Date, last.IsMonthEnd ∧ last.monthCount = day.monthCount
      ∧ listMonth owner group day world
        = .ok (selected world.ledger owner { first := day.monthStart, last := last, group })
          world := by
  rcases Date.exists_monthRange_eq day inside with ⟨last, ranged, ends, count⟩
  have begun : ofCalendar day.monthRange world = .ok (day.monthStart, last) world := by
    rw [ranged]
    rfl
  refine ⟨last, ends, count, ?_⟩
  rw [listMonth, bind_of_ok begun]
  exact list_eq_ok listable owner _

/-- Months that follow each other are listed one by one as they are listed together. -/
theorem exists_mapM_listMonth_eq
    (listable : ∀ fault, world.fault = some fault → fault.point ≠ .entryListing)
    (owner : String) (group : Option String) {days : List Date}
    (consecutive : days.map Date.monthCount = List.range' (day.monthCount + 1) days.length)
    (inside : day.monthCount + days.length + 1 < 120000) :
    ∃ listings, ∃ last : Date, last.IsMonthEnd
      ∧ last.monthCount = day.monthCount + days.length
      ∧ (day :: days).mapM (listMonth owner group) world = .ok listings world
      ∧ listings.flatten
        = selected world.ledger owner { first := day.monthStart, last := last, group } := by
  rcases exists_listMonth_eq listable owner group day (by omega) with ⟨middle, ends, count, listed⟩
  induction days generalizing day middle with
  | nil =>
      refine ⟨[_], middle, ends, count, ?_, List.append_nil _⟩
      rw [List.mapM_cons, bind_of_ok listed]
      rfl
  | cons next rest ih =>
      rw [List.length_cons] at consecutive inside
      rw [List.map_cons, List.range'_succ, List.cons.injEq] at consecutive
      rcases consecutive with ⟨next_count, rest_counts⟩
      rcases exists_listMonth_eq listable owner group next (by omega) with
        ⟨next_middle, next_ends, next_middle_count, next_listed⟩
      rcases ih (next_count ▸ rest_counts) (by omega) next_middle next_ends next_middle_count
        next_listed with ⟨listings, last, last_ends, last_count, run, flat⟩
      refine ⟨selected world.ledger owner { first := day.monthStart, last := middle, group }
        :: listings, last, last_ends, by rw [List.length_cons]; omega, ?_, ?_⟩
      · rw [List.mapM_cons, bind_of_ok listed, bind_of_ok run]
        rfl
      · rw [List.flatten_cons, flat]
        symm
        apply selected_eq_append
        · simp only [Option.some.injEq, forall_eq']
          exact Date.monthStart_le_iff.mpr count.ge
        · simp only [Option.some.injEq, forall_eq']
          exact last_ends.le_iff.mpr (by omega)
        · intro other
          rw [Date.monthStart_le_iff, ends.le_iff]
          omega

/-- Twelve days, one in each month of a year, list the entries of that year. -/
theorem exists_mapM_listMonth_of_year
    (listable : ∀ fault, world.fault = some fault → fault.point ≠ .entryListing)
    (owner : String) (group : Option String) {year : Nat} (before_last : year < 9999)
    {days : List Date} (in_year : ∀ day ∈ days, day.year = year)
    (months : days.map Date.month = List.range' 1 12) :
    ∃ listings, ∃ first last : Date,
      days.mapM (listMonth owner group) world = .ok listings world
      ∧ listings.flatten = selected world.ledger owner { first, last, group }
      ∧ ∀ other : Date, first ≤ other ∧ other ≤ last ↔ other.year = year := by
  have counts : days.map Date.monthCount = List.range' (year * 12) 12 := by
    have from_month : days.map Date.monthCount
        = (days.map Date.month).map fun month => year * 12 + (month - 1) := by
      rw [List.map_map]
      refine List.map_congr_left fun day member => ?_
      rw [Date.monthCount, in_year day member]
      rfl
    rw [from_month, months]
    rfl
  cases days with
  | nil => cases months
  | cons day rest =>
      have length_eq : rest.length = 11 := by
        have := congrArg List.length months
        simpa using this
      rw [List.map_cons, List.range'_succ, List.cons.injEq] at counts
      rcases counts with ⟨count, rest_counts⟩
      rcases exists_mapM_listMonth_eq listable owner group
        (by rw [count, length_eq]; exact rest_counts) (by omega) with
        ⟨listings, last, ends, last_count, run, flat⟩
      refine ⟨listings, day.monthStart, last, run, flat, fun other => ?_⟩
      rw [Date.monthStart_le_iff, ends.le_iff, last_count, count, length_eq]
      obtain ⟨-, ⟨month_pos, month_le⟩, -⟩ := other.valid
      unfold Date.monthCount
      omega

/-- Listing between two days is listing up to a day between them and then from the day after it, for
every owner, with or without a series, and where the range is open as well.  What is listed is in
strictly rising order and consists of the selected entries.  The ranges of months hold the dates of
their month and meet without a gap, so a year that is listed month by month, before the last one of
the calendar, is listed completely and without repetition.  Numbers of entries are distinct in all
ledgers that come about. -/
theorem list_splits (world : World) (owner : String)
    (listable : ∀ fault, world.fault = some fault → fault.point ≠ .entryListing)
    (distinct : (world.ledger.entries.map Entry.id).Nodup) :
    (∀ (selection : Selection) (middle : Date), middle ≠ Date.lastDate →
      (∀ first, selection.first = some first → first ≤ middle) →
      (∀ last, selection.last = some last → middle ≤ last) →
      ∃ following front back, middle.next? = some following
        ∧ (list owner { selection with last := some middle }).answer world = .ok front
        ∧ (list owner { selection with first := some following }).answer world = .ok back
        ∧ (list owner selection).answer world = .ok (front ++ back))
    ∧ (∀ selection, ∃ listed, (list owner selection).answer world = .ok listed
        ∧ listed.Pairwise Precedes
        ∧ ∀ entry, entry ∈ listed
            ↔ entry ∈ world.ledger.entries ∧ entry.IsSelected owner selection)
    ∧ (∀ day : Date, day.year < 9999 ∨ day.month < 12 →
        ∃ first last, day.monthRange = .ok (first, last)
          ∧ ∀ other : Date, first ≤ other ∧ other ≤ last ↔ other.IsInMonthOf day)
    ∧ (∀ day next first last nextFirst nextLast, Date.monthCount next = Date.monthCount day + 1 →
        day.monthRange = .ok (first, last) → next.monthRange = .ok (nextFirst, nextLast) →
        last.next? = some nextFirst)
    ∧ (∀ (group : Option String) (year : Nat) (days : List Date), year < 9999 →
        (∀ day ∈ days, day.year = year) → days.map Date.month = List.range' 1 12 →
        ∃ listings, (days.mapM (listMonth owner group)).answer world = .ok listings
          ∧ listings.flatten.Pairwise Precedes
          ∧ ∀ entry, entry ∈ listings.flatten
              ↔ entry ∈ world.ledger.entries ∧ entry.owner = owner ∧ entry.date.year = year
                ∧ ∀ name, group = some name → entry.installment.group = some name)
    ∧ ∀ today now steps,
        (((World.start today now).later steps).ledger.entries.map Entry.id).Nodup := by
  have answered : ∀ selection, (list owner selection).answer world
      = .ok (selected world.ledger owner selection) := fun selection =>
    answer_eq_ok_iff.mpr ⟨world, list_eq_ok listable owner selection⟩
  refine ⟨?_, ?_, ?_, ?_, ?_, ?_⟩
  · intro selection middle not_last early late
    rcases Date.exists_next?_eq not_last with ⟨following, step, next⟩
    refine ⟨following, _, _, step, answered _, answered _, ?_⟩
    rw [answered, selected_eq_append early late next]
  · intro selection
    exact ⟨_, answered selection, pairwise_precedes_selected distinct owner selection,
      fun entry => mem_selected_iff_isSelected⟩
  · intro day before_last
    have inside : day.monthCount + 1 < 120000 := by
      obtain ⟨⟨-, year_le⟩, ⟨month_pos, month_le⟩, -⟩ := day.valid
      unfold Date.monthCount
      omega
    rcases Date.exists_monthRange_eq day inside with ⟨last, ranged, -, -⟩
    refine ⟨_, last, ranged, fun other => ?_⟩
    rw [Date.mem_monthRange_iff ranged, Date.isInMonthOf_iff]
  · intro day next first last nextFirst nextLast consecutive ranged next_ranged
    exact Date.next?_eq_of_monthRange consecutive ranged next_ranged
  · intro group year days before_last in_year months
    rcases exists_mapM_listMonth_of_year listable owner group before_last in_year months with
      ⟨listings, first, last, run, flat, range⟩
    refine ⟨listings, answer_eq_ok_iff.mpr ⟨world, run⟩, ?_, fun entry => ?_⟩
    · rw [flat]
      exact pairwise_precedes_selected distinct owner _
    · rw [flat, mem_selected_iff, Selection.admits_eq_true_iff, ← range]
      simp only [Option.some.injEq, forall_eq', and_assoc]
  · exact fun today now steps => (Ledger.isPaired_later today now steps).distinct

/-- Around a leap day, what is dated up to it and what is dated later are listed one after the
other, and every entry of that year is listed in its month. -/
theorem list_splits_leapDay :
    let world := MonthlyReport.leapDay
    let days := (List.range' 1 12).filterMap fun month => Date.make? 2024 month 1
    (∃ front back,
      (list "ana" { last := some ⟨2024, 2, 29, by decide⟩ }).answer world = .ok front
        ∧ (list "ana" { first := some ⟨2024, 3, 1, by decide⟩ }).answer world = .ok back
        ∧ (list "ana" {}).answer world = .ok (front ++ back)
        ∧ front.length = 4 ∧ back.length = 1)
    ∧ ∃ listings, (days.mapM (listMonth "ana" none)).answer world = .ok listings
        ∧ ∀ entry ∈ world.ledger.entries,
            entry.owner = "ana" → entry.date.year = 2024 → entry ∈ listings.flatten := by
  intro world days
  have listable : ∀ fault, world.fault = some fault → fault.point ≠ .entryListing :=
    World.point_ne_of_faultless (by decide +kernel) _
  rcases list_splits world "ana" listable (by decide +kernel) with ⟨split, -, -, -, yearly, -⟩
  constructor
  · rcases split {} ⟨2024, 2, 29, by decide⟩ (by decide) nofun nofun with
      ⟨following, front, back, step, front_listed, back_listed, listed⟩
    obtain rfl : following = ⟨2024, 3, 1, by decide⟩ :=
      Option.some.inj (step.symm.trans (by decide))
    have counted : ∀ {selection found}, (list "ana" selection).answer world = .ok found →
        found.length = (world.ledger.entries.filter fun entry =>
          entry.owner = "ana" ∧ selection.admits entry).length := by
      intro selection found answered
      rcases answer_eq_ok_iff.mp answered with ⟨after, run⟩
      cases (list_eq_ok listable "ana" selection).symm.trans run
      exact List.length_mergeSort _
    refine ⟨front, back, front_listed, back_listed, listed, ?_, ?_⟩
    · rw [counted front_listed]
      decide +kernel
    · rw [counted back_listed]
      decide +kernel
  · rcases yearly none 2024 days (by decide) (by decide) (by decide) with
      ⟨listings, listed, -, complete⟩
    exact ⟨listings, listed, fun entry member own dated =>
      (complete entry).mpr ⟨member, own, dated, nofun⟩⟩

end Entry

end Cashbook
