import Cashbook.Posting.Schedule
import Cashbook.Proofs.Date.Months
import Mathlib.Data.List.Forall2

/-!
# What a schedule lists

The entries of a draft stand one month apart, counted from the day of the first one, so their
dates do not depend on each other.  A draft whose last entry would lie behind the calendar has no
schedule at all.
-/

namespace Cashbook.EntryDraft

variable {draft : EntryDraft} {owner : String} {account : Option Int} {group : Option String}
  {today base : Date} {count index : Nat} {entries : List NewEntry}

/-- Is the entry the one that a draft has at a place? -/
def IsEntryAt (draft : EntryDraft) (owner : String) (account : Option Int)
    (group : Option String) (today base : Date) (place : Nat) (entry : NewEntry) : Prop :=
  ∃ date : Date, date.IsMonthsAfter base (place - 1)
    ∧ entry = draft.entryAt owner account group today date place

/-- The entries of a draft follow one another month by month. -/
theorem entriesFrom_eq_ok_iff :
    draft.entriesFrom owner account group today base count index = .ok entries ↔
      List.Forall₂ (draft.IsEntryAt owner account group today base) (List.range' index count)
        entries := by
  induction count generalizing index entries with
  | zero => simp [entriesFrom, eq_comm]
  | succ count ih =>
      rw [List.range'_succ, List.forall₂_cons_left_iff]
      constructor
      · intro run
        cases step : base.addMonths (index - 1) with
        | error error => simp [entriesFrom, step, bind, Except.bind] at run
        | ok date =>
            cases rest : draft.entriesFrom owner account group today base count (index + 1) with
            | error error => simp [entriesFrom, step, rest, bind, Except.bind] at run
            | ok later =>
                simp only [entriesFrom, step, rest, bind, Except.bind, pure, Except.pure] at run
                cases run
                exact ⟨_, later, ⟨date, Date.addMonths_eq_ok_iff.mp step, rfl⟩, ih.mp rest, rfl⟩
      · rintro ⟨_, later, ⟨date, step, rfl⟩, rest, rfl⟩
        simp only [entriesFrom, Date.addMonths_eq_ok_iff.mpr step, ih.mpr rest, bind, Except.bind,
          pure, Except.pure]

/-- The first entry of a draft has the date of the draft. -/
theorem isEntryAt_one_iff {entry : NewEntry} :
    draft.IsEntryAt owner account group today base 1 entry ↔
      entry = draft.entryAt owner account group today base 1 := by
  constructor
  · rintro ⟨date, later, rfl⟩
    obtain rfl : base = date :=
      Except.ok.inj (base.addMonths_zero.symm.trans (Date.addMonths_eq_ok_iff.mpr later))
    rfl
  · rintro rfl
    exact ⟨base, Date.addMonths_eq_ok_iff.mp base.addMonths_zero, rfl⟩

theorem schedule_eq_ok_iff :
    draft.schedule owner account group today = .ok entries ↔
      List.Forall₂ (draft.IsEntryAt owner account group today (draft.date.getD today))
        (List.range' 1 draft.installments.toNat) entries :=
  entriesFrom_eq_ok_iff

/-- What holds for a draft at every place holds for every entry of its schedule. -/
theorem forall_mem_schedule {holds : NewEntry → Prop}
    (scheduled : draft.schedule owner account group today = .ok entries)
    (each : ∀ place date, 1 ≤ place → place ≤ draft.installments.toNat →
      holds (draft.entryAt owner account group today date place)) :
    ∀ entry ∈ entries, holds entry := by
  have listed := schedule_eq_ok_iff.mp scheduled
  have places : ∀ place ∈ List.range' 1 draft.installments.toNat,
      1 ≤ place ∧ place ≤ draft.installments.toNat := by
    intro place member
    rw [List.mem_range'_1] at member
    omega
  clear scheduled
  generalize List.range' 1 draft.installments.toNat = numbers at listed places
  induction listed with
  | nil => simp
  | cons first _ ih =>
      rw [List.forall_mem_cons] at places ⊢
      rcases first with ⟨date, -, rfl⟩
      exact ⟨each _ date places.1.1 places.1.2, ih places.2⟩

/-! ## The end of the calendar -/

/-- Would the last entry of a draft lie behind the year 9999? -/
def Overruns (draft : EntryDraft) (today : Date) : Prop :=
  10000 * 12 ≤ (draft.date.getD today).monthCount + (draft.installments - 1)

instance (draft : EntryDraft) (today : Date) : Decidable (draft.Overruns today) :=
  inferInstanceAs (Decidable (_ ≤ _))

theorem exists_entriesFrom_eq (in_calendar : base.monthCount + (index - 1 + count : Int) ≤ 120000)
    (positive : 1 ≤ index) : ∃ entries,
      draft.entriesFrom owner account group today base count index = .ok entries := by
  have bounds := base.monthCount_bounds
  induction count generalizing index with
  | zero => exact ⟨[], rfl⟩
  | succ count ih =>
      rcases Date.exists_addMonths_eq base (index - 1) (by omega) (by omega) with ⟨date, step⟩
      have next_in_calendar : base.monthCount + ((index + 1 : Nat) - 1 + count : Int) ≤ 120000 := by
        omega
      rcases ih next_in_calendar (by omega) with ⟨later, rest⟩
      refine ⟨draft.entryAt owner account group today date index :: later, ?_⟩
      simp only [entriesFrom, step, rest, bind, Except.bind, pure, Except.pure]

/-- The first entry behind the calendar stops the schedule, and its year is the one after the
last. -/
theorem entriesFrom_of_overrun (reached : base.monthCount + (index - 1 : Int) ≤ 120000)
    (overrun : 120000 < base.monthCount + (index - 1 + count : Int)) (positive : 1 ≤ index) :
    draft.entriesFrom owner account group today base count index
      = .error (.yearOutOfRange 10000) := by
  have bounds := base.monthCount_bounds
  induction count generalizing index with
  | zero => omega
  | succ count ih =>
      by_cases last : base.monthCount + (index - 1 : Int) = 120000
      · have step := base.addMonths_of_outside (index - 1) ⟨by omega, by omega⟩ (.inr last.ge)
        rw [last] at step
        rw [entriesFrom, step]
        rfl
      · rcases Date.exists_addMonths_eq base (index - 1) (by omega) (by omega) with ⟨date, step⟩
        have next_reached : base.monthCount + ((index + 1 : Nat) - 1 : Int) ≤ 120000 := by omega
        have rest := ih next_reached (by omega) (by omega)
        simp only [entriesFrom, step, rest, bind, Except.bind]

/-- A draft has a schedule unless its last entry lies behind the calendar. -/
theorem exists_schedule_eq (some_entry : 1 ≤ draft.installments)
    (in_calendar : ¬draft.Overruns today) :
    ∃ entries, draft.schedule owner account group today = .ok entries := by
  unfold Overruns at in_calendar
  exact exists_entriesFrom_eq (by omega) le_rfl

theorem schedule_of_overrun (some_entry : 1 ≤ draft.installments)
    (overrun : draft.Overruns today) :
    draft.schedule owner account group today = .error (.yearOutOfRange 10000) := by
  have bounds := (draft.date.getD today).monthCount_bounds
  unfold Overruns at overrun
  exact entriesFrom_of_overrun (by omega) (by omega) le_rfl

/-! ## Entries by their index -/

/-- The entry at an index of a schedule is the one of the draft so many months later. -/
theorem exists_getElem_eq (scheduled : draft.schedule owner account group today = .ok entries)
    (index : Nat) (inside : index < entries.length) :
    ∃ date : Date, date.IsMonthsAfter (draft.date.getD today) index
      ∧ entries[index] = draft.entryAt owner account group today date (index + 1) := by
  rcases List.forall₂_iff_get.mp (schedule_eq_ok_iff.mp scheduled) with ⟨length_eq, listed⟩
  have listed := listed index (length_eq ▸ inside) inside
  rw [List.get_eq_getElem, List.get_eq_getElem, List.getElem_range'] at listed
  rcases listed with ⟨date, later, entry_eq⟩
  refine ⟨date, ?_, ?_⟩
  · have place_eq : (((1 + 1 * index : Nat) : Int) - 1) = index := by
      omega
    rwa [place_eq] at later
  · rwa [one_mul, add_comm] at entry_eq

theorem isMonthsAfter_of_schedule
    (scheduled : draft.schedule owner account group today = .ok entries) (index : Nat)
    (inside : index < entries.length) :
    entries[index].date.IsMonthsAfter (draft.date.getD today) index := by
  rcases exists_getElem_eq scheduled index inside with ⟨date, later, entry_eq⟩
  rw [entry_eq]
  exact later

/-! ## Entries that are due -/

/-- Is the entry at a place due by a day? -/
def isDue (draft : EntryDraft) (today : Date) (place : Nat) : Bool :=
  match (draft.date.getD today).addMonths (place - 1) with
  | .ok date => decide (date ≤ today)
  | .error _ => false

/-- How many entries of a draft are due by a day. -/
def dueCount (draft : EntryDraft) (today : Date) : Nat :=
  (List.range' 1 draft.installments.toNat).countP (draft.isDue today)

theorem IsEntryAt.isDue_eq {place : Nat} {entry : NewEntry}
    (listed : draft.IsEntryAt owner account group today (draft.date.getD today) place entry) :
    draft.isDue today place = decide (entry.date ≤ today) := by
  rcases listed with ⟨date, step, rfl⟩
  rw [isDue, Date.addMonths_eq_ok_iff.mpr step]
  rfl

/-- As many entries of a schedule are due as the draft has. -/
theorem countP_of_schedule (scheduled : draft.schedule owner account group today = .ok entries) :
    entries.countP (fun entry => entry.date ≤ today) = draft.dueCount today := by
  unfold dueCount
  have listed := schedule_eq_ok_iff.mp scheduled
  clear scheduled
  generalize List.range' 1 draft.installments.toNat = places at listed ⊢
  induction listed with
  | nil => rfl
  | cons first _ ih => rw [List.countP_cons, List.countP_cons, ih, first.isDue_eq]

/-- A schedule has as many entries as the draft has installments. -/
theorem length_of_schedule (scheduled : draft.schedule owner account group today = .ok entries) :
    entries.length = draft.installments.toNat := by
  rw [← (schedule_eq_ok_iff.mp scheduled).length_eq, List.length_range']

end Cashbook.EntryDraft
