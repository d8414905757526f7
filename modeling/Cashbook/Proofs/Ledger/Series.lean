import Cashbook.Proofs.Evolution

/-!
# Series are whole

The rows of a series are written as one batch under a name that no other series has, and are never
touched again.  So storage holds a series as a whole or not at all, wherever it fails.
-/

namespace Cashbook

open Call

namespace Entry

variable {name description : String} {rows : List Entry}

/-- Is the row the one that a series of so many has at a place, counted from one? -/
structure IsInstallment (name description : String) (count : Nat) (first : Entry) (place : Nat)
    (row : Entry) : Prop where
  installment : row.installment = { index := some place, total := some count, group := some name }
  owner : row.owner = first.owner
  kind : row.kind = first.kind
  amount : row.amount = first.amount
  account : row.account = first.account
  card : row.card = first.card
  category : row.category = first.category
  date : row.date.IsMonthsAfter first.date (place - 1)
  description : row.description
    = description ++ " (" ++ Wording.number place ++ "/" ++ Wording.number count ++ ")"

/-- Are the rows a whole series, one for each month from the first one on? -/
def IsSeries (name : String) (rows : List Entry) : Prop :=
  1 < rows.length ∧ ∃ first description, rows.head? = some first
    ∧ List.Forall₂ (IsInstallment name description rows.length first)
        (List.range' 1 rows.length) rows

theorem IsSeries.group_eq (series : IsSeries name rows) :
    ∀ row ∈ rows, row.installment.group = some name := by
  rcases series with ⟨-, first, description, -, listed⟩
  generalize List.range' 1 rows.length = places at listed
  generalize rows.length = count at listed
  induction listed with
  | nil => simp
  | cons placed _ ih =>
      rw [List.forall_mem_cons]
      exact ⟨congrArg Installment.group placed.installment, ih⟩

end Entry

namespace Ledger

variable {before after : Ledger} {name : String} {rows : List Entry}

/-- The rows of a series. -/
def seriesOf (ledger : Ledger) (name : String) : List Entry :=
  ledger.entries.filter fun entry => entry.installment.group = some name

/-- Is every series whole, and has no row outside of all series a place in one? -/
structure HasWholeSeries (ledger : Ledger) : Prop where
  series : ∀ entry ∈ ledger.entries, ∀ name, entry.installment.group = some name →
    Entry.IsSeries name (ledger.seriesOf name)
  single : ∀ entry ∈ ledger.entries, entry.installment.group = none → entry.installment = {}

/-- A series that gets no row stays what it is. -/
theorem seriesOf_append (entries_eq : after.entries = before.entries ++ rows)
    (others : ∀ row ∈ rows, row.installment.group ≠ some name) :
    after.seriesOf name = before.seriesOf name := by
  have none_new : rows.filter (fun row => row.installment.group = some name) = [] := by
    rw [List.filter_eq_nil_iff]
    intro row member
    simp [others row member]
  rw [seriesOf, entries_eq, List.filter_append, none_new, List.append_nil, seriesOf]

/-- Rows without a place in a series leave all series whole. -/
theorem HasWholeSeries.append_singles (whole : before.HasWholeSeries)
    (entries_eq : after.entries = before.entries ++ rows)
    (singles : ∀ row ∈ rows, row.installment = {}) : after.HasWholeSeries where
  series := by
    intro entry member name grouped
    rw [seriesOf_append entries_eq fun row new => by simp [singles row new]]
    rcases List.mem_append.mp (entries_eq ▸ member) with earlier | new
    · exact whole.series entry earlier name grouped
    · simp [singles entry new] at grouped
  single := by
    intro entry member alone
    rcases List.mem_append.mp (entries_eq ▸ member) with earlier | new
    · exact whole.single entry earlier alone
    · exact singles entry new

/-- A whole series of a new name leaves all series whole. -/
theorem HasWholeSeries.append_series (whole : before.HasWholeSeries)
    (entries_eq : after.entries = before.entries ++ rows) (series : Entry.IsSeries name rows)
    (unused : ∀ entry ∈ before.entries, entry.installment.group ≠ some name) :
    after.HasWholeSeries where
  series := by
    intro entry member other grouped
    by_cases same : other = name
    · subst same
      have none_earlier :
          before.entries.filter (fun row => row.installment.group = some other) = [] := by
        rw [List.filter_eq_nil_iff]
        intro row earlier
        simp [unused row earlier]
      have all_new : rows.filter (fun row => row.installment.group = some other) = rows := by
        rw [List.filter_eq_self]
        intro row new
        simp [series.group_eq row new]
      rwa [seriesOf, entries_eq, List.filter_append, none_earlier, all_new, List.nil_append]
    · have elsewhere : ∀ row ∈ rows, row.installment.group ≠ some other := by
        intro row new
        rw [series.group_eq row new]
        simpa using Ne.symm same
      rw [seriesOf_append entries_eq elsewhere]
      rcases List.mem_append.mp (entries_eq ▸ member) with earlier | new
      · exact whole.series entry earlier other grouped
      · exact absurd grouped (elsewhere entry new)
  single := by
    intro entry member alone
    rcases List.mem_append.mp (entries_eq ▸ member) with earlier | new
    · exact whole.single entry earlier alone
    · rw [series.group_eq entry new] at alone
      cases alone

end Ledger

/-! ## The rows of a draft -/

namespace EntryDraft

variable {draft : EntryDraft} {owner name : String} {account : Option Int} {today base : Date}
  {entries : List NewEntry} {rows : List Entry}

/-- The row at a place is an installment of the series that the row at the first place begins. -/
theorem isInstallment_of_isEntryAt {place : Nat} {entry : NewEntry} {first row : Entry}
    (several : 1 < draft.installments)
    (starts : Entry.IsRowOf (draft.entryAt owner account (some name) today base 1) first)
    (listed : draft.IsEntryAt owner account (some name) today base place entry)
    (written : Entry.IsRowOf entry row) :
    Entry.IsInstallment name draft.description draft.installments.toNat first place row := by
  rcases starts with ⟨_, amount, stored, rfl⟩
  rcases listed with ⟨date, later, rfl⟩
  rcases written with ⟨_, same, same_stored, rfl⟩
  obtain rfl : amount = same := Option.some.inj (stored.symm.trans same_stored)
  have count : (draft.installments.toNat : Int) = draft.installments := by omega
  refine ⟨?_, rfl, rfl, rfl, rfl, rfl, rfl, later, ?_⟩
  · simp [Entry.ofNew, entryAt, placeOf, several, count]
  · simp [Entry.ofNew, entryAt, describe, several, count, Wording.number]

/-- The rows of a draft with several installments are a whole series. -/
theorem isSeries_of_schedule (several : 1 < draft.installments)
    (scheduled : draft.schedule owner account (some name) today = .ok entries)
    (of_entries : List.Forall₂ Entry.IsRowOf entries rows) : Entry.IsSeries name rows := by
  have count : rows.length = draft.installments.toNat := by
    rw [← of_entries.length_eq, length_of_schedule scheduled]
  have listed := schedule_eq_ok_iff.mp scheduled
  have begins : ∃ first, rows.head? = some first ∧ Entry.IsRowOf
      (draft.entryAt owner account (some name) today (draft.date.getD today) 1) first := by
    obtain ⟨more, more_eq⟩ : ∃ more, draft.installments.toNat = more + 1 :=
      ⟨draft.installments.toNat - 1, by omega⟩
    rw [more_eq, List.range'_succ] at listed
    rcases listed with _ | ⟨placed, -⟩
    rcases of_entries with _ | ⟨written, -⟩
    rw [isEntryAt_one_iff.mp placed] at written
    exact ⟨_, rfl, written⟩
  rcases begins with ⟨first, head, starts⟩
  refine ⟨by omega, first, draft.description, head, ?_⟩
  rw [count]
  generalize List.range' 1 draft.installments.toNat = places at listed ⊢
  clear scheduled head count
  induction listed generalizing rows with
  | nil =>
      cases of_entries
      exact .nil
  | cons placed _ ih =>
      rcases of_entries with _ | ⟨written, of_rest⟩
      exact .cons (isInstallment_of_isEntryAt several starts placed written) (ih of_rest)

/-- The row of a draft with one installment has no place in a series. -/
theorem installment_of_schedule (one : ¬1 < draft.installments)
    (scheduled : draft.schedule owner account none today = .ok entries)
    (of_entries : List.Forall₂ Entry.IsRowOf entries rows) :
    ∀ row ∈ rows, row.installment = {} := by
  refine Entry.forall_mem_rows of_entries (forall_mem_schedule scheduled fun place date _ _ => ?_)
  rintro _ ⟨id, stored, -, rfl⟩
  exact if_neg one

end EntryDraft

/-! ## Whatever is asked for -/

namespace World

variable {before after : World} {rows : List Entry} {Answer : Type}

/-- Are all series whole, and the names that are still to be drawn new ones? -/
structure HasWholeSeries (world : World) : Prop where
  ledger : world.ledger.HasWholeSeries
  fresh : world.IsFresh

theorem IsFresh.append (fresh : before.IsFresh) (le : before.groupsNamed ≤ after.groupsNamed)
    (entries_eq : after.ledger.entries = before.ledger.entries ++ rows)
    (named : ∀ row ∈ rows, ∀ name, row.installment.group = some name →
      ¬IsComing after.groupsNamed name) : after.IsFresh := by
  intro entry member name grouped
  rcases List.mem_append.mp (entries_eq ▸ member) with earlier | new
  · exact fun coming => fresh entry earlier name grouped (coming.mono le)
  · exact named entry new name grouped

theorem HasWholeSeries.append_singles (whole : before.HasWholeSeries)
    (follows : before.Follows after)
    (entries_eq : after.ledger.entries = before.ledger.entries ++ rows)
    (singles : ∀ row ∈ rows, row.installment = {}) : after.HasWholeSeries := by
  refine ⟨whole.ledger.append_singles entries_eq singles,
    whole.fresh.append follows.groupsNamed entries_eq fun row new name grouped => ?_⟩
  rw [singles row new] at grouped
  cases grouped

theorem HasWholeSeries.of_entries_eq (whole : before.HasWholeSeries)
    (follows : before.Follows after) (kept : after.ledger.entries = before.ledger.entries) :
    after.HasWholeSeries := by
  refine @HasWholeSeries.append_singles _ _ [] whole follows ?_ (by simp)
  rw [kept, List.append_nil]

/-- A series is given the next name, which no series has. -/
theorem HasWholeSeries.append_series (whole : before.HasWholeSeries)
    (drawn : before.groupsNamed < after.groupsNamed)
    (entries_eq : after.ledger.entries = before.ledger.entries ++ rows)
    (series : Entry.IsSeries (groupName (before.groupsNamed + 1)) rows) :
    after.HasWholeSeries := by
  constructor
  · refine whole.ledger.append_series entries_eq series fun entry earlier grouped => ?_
    exact whole.fresh entry earlier _ grouped ⟨_, Nat.lt_succ_self _, rfl⟩
  · refine whole.fresh.append drawn.le entries_eq fun row new name grouped => ?_
    rintro ⟨count, above, rfl⟩
    have same := groupName_injective
      (Option.some.inj ((series.group_eq row new).symm.trans grouped))
    omega

/-- What appends rows without a place in a series, or nothing when it fails, keeps all series
whole. -/
theorem maintains_of_singles {call : Call Answer} (proceeds : Proceeds call)
    (restores : Restores call)
    (done : ∀ world answer after, call world = .ok answer after →
      ∃ rows, after.ledger.entries = world.ledger.entries ++ rows
        ∧ ∀ row ∈ rows, row.installment = {}) : Call.Maintains HasWholeSeries call := by
  intro world whole
  have follows := proceeds world
  cases run : call world with
  | error failure after =>
      rw [worldAfter_of_error run] at follows ⊢
      exact whole.of_entries_eq follows (by rw [restores run])
  | ok answer after =>
      rw [worldAfter_of_ok run] at follows ⊢
      rcases done world answer after run with ⟨rows, entries_eq, singles⟩
      exact whole.append_singles follows entries_eq singles

theorem maintains_record {entries : List NewEntry}
    (singles : ∀ entry ∈ entries, entry.installment = {}) :
    Call.Maintains HasWholeSeries (Entry.record entries) := by
  refine maintains_of_singles (Entry.atomic_record entries).proceeds (Entry.restores_record entries)
    fun world ids after run => ?_
  rcases (Entry.recorded_of_record_eq_ok run).rows with ⟨rows, of_entries, -, entries_eq⟩
  refine ⟨rows, entries_eq, Entry.forall_mem_rows of_entries fun entry member row of_entry => ?_⟩
  rcases of_entry with ⟨id, stored, -, rfl⟩
  exact singles entry member

theorem maintains_perform (movement : Movement) (description : String) (date : Date) :
    Call.Maintains HasWholeSeries (Transfer.perform movement description date) := by
  refine maintains_of_singles (Transfer.proceeds_perform _ _ _) (restores_atomically _)
    fun world id after run => ?_
  have effect := Transfer.effect_of_perform_eq_ok run
  generalize after.ledger = later at effect ⊢
  cases effect
  exact ⟨_, rfl, by simp [Transfer.side]⟩

/-- A draft is written as a whole series or as rows without a place in one. -/
theorem maintains_post (draft : EntryDraft) (context : OwnerContext) :
    Call.Maintains HasWholeSeries (draft.post context) := by
  intro world whole
  have follows := (draft.atomic_post context).proceeds world
  cases run : draft.post context world with
  | error failure after =>
      rw [worldAfter_of_error run] at follows ⊢
      exact whole.of_entries_eq follows (by rw [EntryDraft.restores_post draft context run])
  | ok text after =>
      rw [worldAfter_of_ok run] at follows ⊢
      obtain ⟨account, entries, ids, passes, scheduled, record, -⟩ := EntryDraft.post_eq_ok run
      rcases (Entry.recorded_of_record_eq_ok record).rows with ⟨rows, of_entries, -, entries_eq⟩
      rw [EntryDraft.ledger_named] at entries_eq
      by_cases several : 1 < draft.installments
      · rw [EntryDraft.groupIn, if_pos several] at scheduled
        have drawn := ((Entry.atomic_record entries).proceeds.of_ok record).groupsNamed
        rw [EntryDraft.named, if_pos several] at drawn
        exact whole.append_series drawn entries_eq
          (EntryDraft.isSeries_of_schedule several scheduled of_entries)
      · rw [EntryDraft.groupIn, if_neg several] at scheduled
        exact whole.append_singles follows entries_eq
          (EntryDraft.installment_of_schedule several scheduled of_entries)

theorem isInvariant_hasWholeSeries : IsInvariant HasWholeSeries fun _ => True where
  prepares prepared whole :=
    whole.of_entries_eq prepared.toFollows (Ledger.entries_of_setUp prepared.setUp)
  posts _ _ := (maintains_post _ _).on
  moves _ := maintains_perform _ _ _
  rivals _ _ _ := trivial
  requests _ := trivial

end World

/-- Does the step leave it to drafts to give entries a place in a series? -/
def Step.LeavesPlaces : Step → Prop
  | ask (.record entries) => ∀ entry ∈ entries, entry.installment = {}
  | _ => True

theorem Step.maintains_hasWholeSeries {step : Step} (leaves : step.LeavesPlaces) :
    Maintains World.HasWholeSeries step.call := by
  cases step with
  | wait today now fault => exact fun world whole => ⟨whole.ledger, whole.fresh⟩
  | ask operation =>
      refine World.isInvariant_hasWholeSeries.maintains_operation ?_ World.maintains_post
      rintro entries rfl
      exact World.maintains_record leaves

/-- Whatever is asked for and wherever storage fails, every series that is there is there as a
whole, as long as it is drafts that make series. -/
theorem Ledger.hasWholeSeries_later (today : Date) (now : Instant) (steps : List Step)
    (leave : ∀ step ∈ steps, step.LeavesPlaces) :
    ((World.start today now).later steps).ledger.HasWholeSeries := by
  have started : (World.start today now).HasWholeSeries :=
    ⟨⟨by simp [World.start, empty], by simp [World.start, empty]⟩,
      by simp [World.IsFresh, World.start, empty]⟩
  have each : ∀ step ∈ steps, Maintains World.HasWholeSeries step.call :=
    fun step member => Step.maintains_hasWholeSeries (leave step member)
  exact (World.maintains_later each _ started).ledger

/-- A series that is lost when its commit fails, and asked for once more. -/
def retried : List Step :=
  [.ask (.createAccount "ana" "Carteira" .wallet (.ofCents false 20000)),
   .wait World.newYear.today World.newYear.now (some { point := .commit }),
   .ask Operation.sofa,
   .ask Operation.sofa]

/-- The series is there once, under the name that the second attempt has drawn. -/
theorem Ledger.hasWholeSeries_later_retried :
    let ledger := ((World.start World.newYear.today World.newYear.now).later retried).ledger
    ledger.entries.map Entry.installment
        = [{ index := some 1, total := some 2, group := some "group-2" },
           { index := some 2, total := some 2, group := some "group-2" }]
      ∧ ledger.HasWholeSeries := by
  have leave : ∀ step ∈ retried, step.LeavesPlaces := by
    simp [retried, Step.LeavesPlaces, Operation.sofa]
  exact ⟨by decide +kernel,
    hasWholeSeries_later World.newYear.today World.newYear.now retried leave⟩

end Cashbook
