import Cashbook.Proofs.Date.Order
import Cashbook.Proofs.Posting.Drafts
import Mathlib.Data.List.Infix

/-!
# Series of installments

The entries of a draft lie in as many consecutive months as it has installments, each on the day of
the first one where its month has that day and on the last one otherwise.  What is due on the
current day comes first in the series.  A draft that would run out of the calendar has no entries.
-/

namespace Cashbook

open Call

/-- The members with a property come first in a list, if a member that follows one with the property
passes it on to those before. -/
theorem filter_isPrefix_of_pairwise {Item : Type} {holds : Item → Bool} {items : List Item}
    (passes : items.Pairwise fun earlier later => holds later = true → holds earlier = true) :
    items.filter holds <+: items := by
  induction items with
  | nil => exact List.prefix_rfl
  | cons item rest ih =>
      rw [List.pairwise_cons] at passes
      by_cases first : holds item = true
      · rw [List.filter_cons_of_pos first, List.prefix_cons_inj]
        exact ih passes.2
      · have none_later : rest.filter holds = [] := by
          rw [List.filter_eq_nil_iff]
          exact fun later member holding => first (passes.1 later member holding)
        rw [List.filter_cons_of_neg first, none_later]
        exact List.nil_prefix

namespace EntryDraft

variable {draft : EntryDraft} {owner : String} {account : Option Int} {group : Option String}
  {today : Date} {entries : List NewEntry}

/-- Do entries for an owner and an account spread over months what a draft asks for, counted from
one day and seen on another? -/
structure SpreadsOver (draft : EntryDraft) (owner : String) (account : Option Int)
    (base today : Date) (entries : List NewEntry) : Prop where
  count : (entries.length : Int) = draft.installments
  date : ∀ index (inside : index < entries.length), entries[index].date.IsMonthsAfter base index
  months : entries.map (fun entry => entry.date.monthCount)
    = List.range' base.monthCount entries.length
  rising : entries.Pairwise fun earlier later => earlier.date.rank < later.date.rank
  settled : ∀ entry ∈ entries, entry.settlement = .confirmed ↔ entry.date ≤ today
  settled_first : (entries.filter fun entry => entry.settlement = .confirmed) <+: entries
  place : if 1 < draft.installments then
      ∃ name, ∀ index (inside : index < entries.length),
        entries[index].installment
          = { index := some (index + 1), total := some draft.installments, group := some name }
        ∧ entries[index].description = draft.description ++ " (" ++ Wording.number (index + 1)
          ++ "/" ++ Wording.number draft.installments ++ ")"
    else
      ∀ entry ∈ entries, entry.installment = {} ∧ entry.description = draft.description
  shared : ∀ entry ∈ entries, entry.owner = owner ∧ entry.account = account
    ∧ entry.kind = draft.kind ∧ entry.amount = draft.amount ∧ entry.card = draft.card
    ∧ entry.category = draft.category.map Category.id

/-! ## Schedules -/

/-- The dates of a schedule rise. -/
theorem pairwise_of_schedule
    (scheduled : draft.schedule owner account group today = .ok entries) :
    entries.Pairwise fun earlier later => earlier.date.rank < later.date.rank := by
  rw [List.pairwise_iff_getElem]
  intro index otherIndex inside other_inside less
  exact (isMonthsAfter_of_schedule scheduled index inside).rank_lt
    (isMonthsAfter_of_schedule scheduled otherIndex other_inside) (by exact_mod_cast less)

/-- Each entry of a schedule lies in the month after that of the one before. -/
theorem map_monthCount_of_schedule
    (scheduled : draft.schedule owner account group today = .ok entries) :
    entries.map (fun entry => entry.date.monthCount)
      = List.range' (draft.date.getD today).monthCount entries.length := by
  refine List.ext_getElem (by simp) fun index inside _ => ?_
  rw [List.length_map] at inside
  have count := (isMonthsAfter_of_schedule scheduled index inside).1
  rw [List.getElem_map, List.getElem_range']
  omega

/-- The entries of a schedule are settled if they are due. -/
theorem settlement_of_schedule
    (scheduled : draft.schedule owner account group today = .ok entries) :
    ∀ entry ∈ entries, entry.settlement = .confirmed ↔ entry.date ≤ today := by
  refine forall_mem_schedule scheduled fun place date _ _ => ?_
  by_cases due : date ≤ today <;> simp [entryAt, due]

/-- A schedule spreads what its draft asks for over months. -/
theorem spreadsOver_of_schedule {world : World} (some_entry : 1 ≤ draft.installments)
    (scheduled : draft.schedule owner account (draft.groupIn world) today = .ok entries) :
    draft.SpreadsOver owner account (draft.date.getD today) today entries where
  count := by
    rw [length_of_schedule scheduled]
    omega
  date := isMonthsAfter_of_schedule scheduled
  months := map_monthCount_of_schedule scheduled
  rising := pairwise_of_schedule scheduled
  settled := settlement_of_schedule scheduled
  settled_first := by
    -- What is due on a day stays due for the earlier dates.
    apply filter_isPrefix_of_pairwise
    refine (pairwise_of_schedule scheduled).imp_of_mem fun earlier later less => ?_
    rw [decide_eq_true_iff, decide_eq_true_iff, settlement_of_schedule scheduled _ earlier,
      settlement_of_schedule scheduled _ later]
    exact less.le.trans
  place := by
    split_ifs with several
    · refine ⟨groupName (world.groupsNamed + 1), fun index inside => ?_⟩
      rcases exists_getElem_eq scheduled index inside with ⟨date, -, entry_eq⟩
      rw [entry_eq]
      simp [entryAt, placeOf, describe, groupIn, several, Wording.number]
    · refine forall_mem_schedule scheduled fun place date _ _ => ?_
      simp [entryAt, placeOf, describe, groupIn, several]
  shared := forall_mem_schedule scheduled fun _ _ _ _ => ⟨rfl, rfl, rfl, rfl, rfl, rfl⟩

/-! ## The rows of a draft -/

/-- The rows of a draft spread what it asks for over as many months as it has installments, counted
from its own day or else from the current one.  They fail exactly for a draft whose last row would
lie behind the year 9999. -/
theorem rows_outcome (draft : EntryDraft) (owner : String) (account : Option Int) (world : World)
    (some_entry : 1 ≤ draft.installments) :
    (¬draft.Overruns world.today ∧ ∃ entries after,
        draft.rows owner account world = .ok entries after
        ∧ draft.SpreadsOver owner account (draft.date.getD world.today) world.today entries)
      ∨ (draft.Overruns world.today ∧ ∃ after,
        draft.rows owner account world = .error (.calendar (.yearOutOfRange 10000)) after) := by
  rw [rows_eq]
  by_cases overrun : draft.Overruns world.today
  · rw [schedule_of_overrun some_entry overrun]
    exact .inr ⟨overrun, _, rfl⟩
  · rcases exists_schedule_eq some_entry overrun with ⟨entries, scheduled⟩
    rw [scheduled]
    exact .inl ⟨overrun, entries, _, rfl, spreadsOver_of_schedule some_entry scheduled⟩

/-- A wardrobe in four installments, from the last day of November on. -/
def wardrobe : EntryDraft :=
  { amount := .ofCents false 25000, description := "Guarda-roupa", installments := 4,
    date := some ⟨2023, 11, 30, by decide⟩ }

/-- The rows of a wardrobe lie on the thirtieth of each month, but for the leap February. -/
theorem rows_outcome_wardrobe :
    let today : Date := ⟨2024, 2, 10, by decide⟩
    let world : World := { ledger := .empty, today := today, now := ⟨today, 0⟩ }
    1 ≤ wardrobe.installments ∧ ∃ entries after,
      wardrobe.rows "ana" (some 1) world = .ok entries after
      ∧ wardrobe.SpreadsOver "ana" (some 1) ⟨2023, 11, 30, by decide⟩ today entries
      ∧ entries.map NewEntry.date = [⟨2023, 11, 30, by decide⟩, ⟨2023, 12, 30, by decide⟩,
          ⟨2024, 1, 30, by decide⟩, ⟨2024, 2, 29, by decide⟩] := by
  intro today world
  have some_entry : 1 ≤ wardrobe.installments := by decide
  have dates : (wardrobe.schedule "ana" (some 1) (wardrobe.groupIn world) today).map
      (List.map NewEntry.date) = .ok [⟨2023, 11, 30, by decide⟩, ⟨2023, 12, 30, by decide⟩,
        ⟨2024, 1, 30, by decide⟩, ⟨2024, 2, 29, by decide⟩] := by
    decide +kernel
  rcases rows_outcome wardrobe "ana" (some 1) world some_entry with
    ⟨-, entries, after, run, spread⟩ | ⟨overrun, -⟩
  · refine ⟨some_entry, entries, after, run, spread, ?_⟩
    rw [rows_eq] at run
    split at run
    next listed scheduled =>
      cases run
      rw [scheduled] at dates
      exact Except.ok.inj dates
    next => cases run
  · exact absurd overrun (by decide +kernel)

end EntryDraft

end Cashbook
