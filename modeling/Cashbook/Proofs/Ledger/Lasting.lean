import Cashbook.Proofs.Ledger.Numbers

/-!
# What a number names for good

Whoever is answered with the number of a row can rely on it: whatever is asked for later and
wherever storage fails, it names the same row.  So do the numbers that entries and transfers hold.
Only the row of a chat is written again when the chat is bound again, and then it may go to another
owner.
-/

namespace Cashbook

open Call Money

/-! ## Bindings -/

section

variable {owner chat : String} {id : Int}

/-- Has an owner a binding of a chat with a number? -/
def Ledger.HasBinding (ledger : Ledger) (owner chat : String) (id : Int) : Prop :=
  ∃ binding ∈ ledger.bindings, binding.id = id ∧ binding.owner = owner ∧ binding.chat = chat

instance (ledger : Ledger) (owner chat : String) (id : Int) :
    Decidable (ledger.HasBinding owner chat id) :=
  inferInstanceAs (Decidable (∃ binding ∈ ledger.bindings,
    binding.id = id ∧ binding.owner = owner ∧ binding.chat = chat))

/-- A chat has the row that it was bound in, and this row the owner that it was bound to last. -/
theorem Reflects.hasBinding {ledger : Ledger} {earlier later : List BindingEvent}
    (reflects : Reflects ledger.bindings (earlier ++ .bound owner chat id :: later))
    (last : ∀ event ∈ later, ¬ event.Binds chat) : ledger.HasBinding owner chat id := by
  rcases reflects.kept owner chat id (List.mem_append_right _ List.mem_cons_self) with
    ⟨binding, member, rfl, rfl⟩
  rcases reflects.records binding member with ⟨front, back, events_eq, back_last, -⟩
  obtain ⟨same, -⟩ := BindingEvent.eq_of_last events_eq rfl rfl last back_last
  exact ⟨binding, member, rfl, (BindingEvent.bound.inj same).1.symm, rfl⟩

end

/-! ## Accounts of transfers -/

namespace Ledger

variable {before after : Ledger}

/-- Do all transfers join accounts that their owners have? -/
def JoinsAccounts (ledger : Ledger) : Prop :=
  ∀ transfer ∈ ledger.transfers, ledger.HasAccount transfer.owner transfer.source
    ∧ ledger.HasAccount transfer.owner transfer.target

theorem joinsAccounts_empty : empty.JoinsAccounts := by
  intro transfer member
  cases member

theorem Change.joinsAccounts (change : Change before after) (joins : before.JoinsAccounts) :
    after.JoinsAccounts := by
  have grows := change.grows
  have earlier : ∀ transfer ∈ before.transfers, after.HasAccount transfer.owner transfer.source
      ∧ after.HasAccount transfer.owner transfer.target :=
    fun transfer member => (joins transfer member).imp grows.account grows.account
  cases change with
  | recorded written new =>
      have unmoved : after.transfers = before.transfers := by
        rw [written.frame]
      exact fun transfer member => earlier transfer (unmoved ▸ member)
  | moved effect =>
      have there := effect.hasAccount.imp grows.account grows.account
      cases effect with
      | intro =>
        intro transfer member
        rcases List.mem_append.mp member with was | new
        · exact earlier transfer was
        · obtain rfl := List.mem_singleton.mp new
          exact there
  | _ => exact earlier

theorem joinsAccounts_later (today : Date) (now : Instant) (steps : List Step) :
    ((World.start today now).later steps).ledger.JoinsAccounts :=
  World.holds_later joinsAccounts_empty (fun _ _ change => change.joinsAccounts) today now steps

end Ledger

/-! ## Names -/

namespace World

open Ledger

variable {world before after : World} {table : Table} {id : Int} {row : Row}

/-- Does a number name a row in a world and in all that come about from it? -/
def NamesForGood (world : World) (table : Table) (id : Int) (row : Row) : Prop :=
  ∀ steps, (world.later steps).ledger.row? table id = some row

/-- What a number names it names for good. -/
theorem namesForGood_of_row? (named : world.ledger.row? table id = some row) :
    world.NamesForGood table id row :=
  fun steps => (world.continues_later steps).row?_eq_some named

theorem namesForGood_of_mem (numbered : world.ledger.IsNumbered)
    (member : row ∈ world.ledger.rows table) : world.NamesForGood table row.id row :=
  namesForGood_of_row? (numbered.row?_eq_some member)

/-- Is a number given to a new row, behind all that there were, and does it name this row for
good? -/
structure Issues (before after : World) (table : Table) (id : Int) (row : Row) : Prop where
  behind : ∀ other ∈ before.ledger.numbers table, other < id
  lasting : after.NamesForGood table id row

/-- A row that is written last, under the next number, is named by it for good. -/
theorem issues_of_rows_eq (numbered : after.ledger.IsNumbered)
    (rows_eq : after.ledger.rows table = before.ledger.rows table ++ [row]) (same : row.id = id)
    (next : id = nextId (before.ledger.numbers table)) : before.Issues after table id row := by
  subst same
  refine ⟨fun other taken => next ▸ lt_nextId taken, namesForGood_of_mem numbered ?_⟩
  rw [rows_eq]
  exact List.mem_append_right _ (List.mem_singleton_self _)

end World

/-- No call that succeeds leaves a gap. -/
theorem Call.Respects.isNumbered {Answer : Type} {call : Call Answer} {answer : Answer}
    {world after : World} (continues : Respects World.Continues call)
    (run : call world = .ok answer after) (numbered : world.ledger.IsNumbered) :
    after.ledger.IsNumbered :=
  (continues.of_ok run : world.ledger.Continues after.ledger).isNumbered numbered

/-! ## Writes -/

section

variable {world after : World} {owner name : String} {id : Int}

theorem Account.issues_of_create {kind : AccountKind} {opening : Decimal}
    (numbered : world.ledger.IsNumbered)
    (run : create owner name kind opening world = .ok id after) :
    ∃ amount, Stored.ofDecimal? opening = some amount
      ∧ world.Issues after .accounts id (.account id owner name kind amount world.now) := by
  have later := (prepares_create owner name kind opening).continues.isNumbered run numbered
  rcases create_eq_ok run with ⟨rfl, amount, stored, changed⟩
  refine ⟨amount, stored, World.issues_of_rows_eq later ?_ rfl rfl⟩
  rw [changed]
  exact List.map_append

theorem Card.issues_of_create {brand : String} {limit : Decimal} {closingDay dueDay : Int}
    (numbered : world.ledger.IsNumbered)
    (run : create owner name brand limit closingDay dueDay world = .ok id after) :
    ∃ amount, Stored.ofDecimal? limit = some amount
      ∧ world.Issues after .cards id
        (.card ⟨id, owner, name, brand, amount, closingDay, dueDay, true⟩) := by
  have later := (prepares_create owner name brand limit closingDay dueDay).continues.isNumbered run
    numbered
  rcases create_eq_ok run with ⟨rfl, amount, stored, changed⟩
  refine ⟨amount, stored, World.issues_of_rows_eq later ?_ rfl rfl⟩
  rw [changed]
  exact List.map_append

theorem Category.issues_of_create {kind : CategoryKind} (numbered : world.ledger.IsNumbered)
    (run : create owner name kind world = .ok id after) :
    world.Issues after .categories id (.category ⟨id, owner, name, kind⟩) := by
  have later := (prepares_create owner name kind).continues.isNumbered run numbered
  rcases create_eq_ok run with ⟨rfl, changed⟩
  refine World.issues_of_rows_eq later ?_ rfl rfl
  rw [changed]
  exact List.map_append

/-- The entries of a batch take new numbers in their order. -/
theorem Entry.issues_of_record {entries : List NewEntry} {ids : List Int}
    (numbered : world.ledger.IsNumbered) (run : record entries world = .ok ids after) :
    ids.Pairwise (· < ·) ∧ ∃ rows, List.Forall₂ IsRowOf entries rows ∧ ids = rows.map Entry.id
      ∧ ∀ row ∈ rows, world.Issues after .entries row.id (.entry row) := by
  have later := (continues_record entries).isNumbered run numbered
  obtain ⟨-, -, -, -, -, -, -, new, -⟩ := record_eq_ok run
  rcases (recorded_of_record_eq_ok run).rows with ⟨rows, of_entries, rfl, appended⟩
  refine ⟨new.rising, rows, of_entries, rfl, fun row member => ⟨?_, ?_⟩⟩
  · exact new.above row.id (List.mem_map_of_mem member)
  · have written : Ledger.Row.entry row ∈ after.ledger.rows .entries := by
      refine List.mem_map_of_mem ?_
      rw [appended]
      exact List.mem_append_right _ member
    exact World.namesForGood_of_mem later written

end

namespace Transfer

variable {movement : Movement} {description : String} {date : Date} {id : Int}
  {world after : World}

/-- Is this what a movement leaves on a date? -/
structure IsRecordOf (transfer : Transfer) (movement : Movement) (date : Date) : Prop where
  owner : transfer.owner = movement.owner
  source : transfer.source = movement.source
  target : transfer.target = movement.target
  amount : Stored.ofDecimal? movement.amount = some transfer.amount
  date : transfer.date = date

theorem continues_performRival (rival : Option Movement) :
    Respects World.Continues (performRival rival) := by
  cases rival with
  | none => exact respects_pure ()
  | some movement =>
      exact respects_get.bind fun _ => (continues_perform _ _ _).bind fun _ => respects_pure ()

/-- A transfer that succeeds has its effect behind that of one that slips in. -/
theorem exists_effect_of_execute (run : execute movement description date world = .ok id after) :
    ∃ middle : World, world.ledger.Continues middle.ledger
      ∧ Effect movement description date middle.ledger id after.ledger := by
  rcases bind_eq_ok_iff.mp run with ⟨_, begun, writing, run⟩
  rcases bind_eq_ok_iff.mp run with ⟨_, going, crashing, run⟩
  rcases bind_eq_ok_iff.mp run with ⟨shown, ready, racing, run⟩
  have same : ready.ledger = world.ledger := by
    rw [((reads_visit _).of_ok racing).ledger, ((reads_failAt _ _).of_ok crashing).ledger,
      ((reads_failAt _ _).of_ok writing).ledger]
  rw [← same]
  cases shown with
  | none => exact ⟨ready, .refl _, effect_of_perform_eq_ok run⟩
  | some fault =>
      rcases bind_eq_ok_iff.mp run with ⟨_, middle, slipped, performed⟩
      exact ⟨middle, (continues_performRival fault.rival).of_ok slipped,
        effect_of_perform_eq_ok performed⟩

/-- The record of a transfer comes last, under the next number. -/
theorem Effect.exists_record {before after : Ledger}
    (effect : Effect movement description date before id after) :
    ∃ transfer : Transfer, transfer.IsRecordOf movement date ∧ transfer.id = id
      ∧ id = Ledger.nextId (before.transfers.map Transfer.id)
      ∧ after.transfers = before.transfers ++ [transfer] := by
  cases effect with
  | intro source_found stored => exact ⟨_, ⟨rfl, rfl, rfl, stored, rfl⟩, rfl, rfl, rfl⟩

theorem issues_of_execute (numbered : world.ledger.IsNumbered)
    (run : execute movement description date world = .ok id after) :
    ∃ transfer : Transfer, transfer.IsRecordOf movement date
      ∧ world.Issues after .transfers id (.transfer transfer) := by
  rcases exists_effect_of_execute run with ⟨middle, continues, effect⟩
  have later := effect.continues.isNumbered (continues.isNumbered numbered)
  rcases effect.exists_record with ⟨transfer, of_movement, rfl, next, transfers_eq⟩
  have issues : middle.Issues after .transfers transfer.id (.transfer transfer) := by
    refine World.issues_of_rows_eq later ?_ rfl next
    change after.ledger.transfers.map _ = _
    rw [transfers_eq]
    exact List.map_append
  refine ⟨transfer, of_movement, fun other taken => ?_, issues.lasting⟩
  exact issues.behind other (continues.numbers_subset .transfers taken)

end Transfer

/-! ## Runs -/

namespace World

open Ledger

/-- Do numbers name the rows that they were given to, from a world on and for good? -/
structure KeepsNumbers (world : World) : Prop where
  /-- The rows of every table are numbered from one on, without a gap. -/
  gapless : ∀ table, IsGapless (world.ledger.numbers table)
  /-- Rows come one behind another, in the order that they are written in. -/
  ordered : ∀ steps table, world.ledger.rows table <+: (world.later steps).ledger.rows table
  /-- What a number names, it names for good. -/
  lasting : ∀ table id row, world.ledger.row? table id = some row →
    world.NamesForGood table id row
  /-- A new account takes a new number, which names it for good. -/
  opens : ∀ owner name kind opening id after,
    Account.create owner name kind opening world = .ok id after →
    ∃ amount, Stored.ofDecimal? opening = some amount
      ∧ world.Issues after .accounts id (.account id owner name kind amount world.now)
  /-- So does a new card. -/
  issuesCard : ∀ owner name brand limit closingDay dueDay id after,
    Card.create owner name brand limit closingDay dueDay world = .ok id after →
    ∃ amount, Stored.ofDecimal? limit = some amount
      ∧ world.Issues after .cards id
        (.card ⟨id, owner, name, brand, amount, closingDay, dueDay, true⟩)
  /-- So does a new category. -/
  names : ∀ owner name kind id after, Category.create owner name kind world = .ok id after →
    world.Issues after .categories id (.category ⟨id, owner, name, kind⟩)
  /-- So do the entries of a batch, in their order. -/
  records : ∀ entries ids after, Entry.record entries world = .ok ids after →
    ids.Pairwise (· < ·) ∧ ∃ rows, List.Forall₂ Entry.IsRowOf entries rows
      ∧ ids = rows.map Entry.id ∧ ∀ row ∈ rows, world.Issues after .entries row.id (.entry row)
  /-- So does the record of a transfer, behind that of one that slips in. -/
  moves : ∀ movement description date id after,
    Transfer.execute movement description date world = .ok id after →
    ∃ transfer : Transfer, transfer.IsRecordOf movement date
      ∧ world.Issues after .transfers id (.transfer transfer)
  /-- The number of a chat names its row for good, and the row is the owner's until the chat is
  bound again. -/
  binds : ∀ owner chat id after, Binding.assign owner chat world = .ok id after →
    after.NamesForGood .bindings id (.binding id chat)
      ∧ ∀ steps, (∀ event ∈ after.bindingEvents steps, ¬ event.Binds chat) →
        (after.later steps).ledger.HasBinding owner chat id
  /-- A row always refers to what it refers to now, and that is always the same row. -/
  refers : ∀ steps table, ∀ referrer ∈ world.ledger.rows table,
    referrer ∈ (world.later steps).ledger.rows table
      ∧ ∀ reference ∈ referrer.references, ∀ row,
        world.ledger.row? reference.1 reference.2 = some row →
        (world.later steps).ledger.row? reference.1 reference.2 = some row
  /-- A transfer refers to accounts and entries of its owner. -/
  joins : ∀ transfer ∈ world.ledger.transfers, ∀ reference ∈ (Row.transfer transfer).references,
    ∃ row : Row, row.owner? = some transfer.owner
      ∧ world.NamesForGood reference.1 reference.2 row

variable {world : World} {events : List BindingEvent}

/-- What a transfer refers to belongs to its owner. -/
theorem exists_namesForGood_of_joins (numbered : world.ledger.IsNumbered)
    (paired : world.ledger.IsPaired) (joins : world.ledger.JoinsAccounts) {transfer : Transfer}
    (member : transfer ∈ world.ledger.transfers) :
    ∀ reference ∈ (Row.transfer transfer).references, ∃ row : Row,
      row.owner? = some transfer.owner ∧ world.NamesForGood reference.1 reference.2 row := by
  have account : ∀ id, world.ledger.HasAccount transfer.owner id →
      ∃ row : Row, row.owner? = some transfer.owner ∧ world.NamesForGood .accounts id row := by
    rintro id ⟨account, there, rfl, own⟩
    have inside : Row.ofAccount account ∈ world.ledger.rows .accounts := List.mem_map_of_mem there
    exact ⟨.ofAccount account, congrArg some own, namesForGood_of_mem numbered inside⟩
  have entry : ∀ entry ∈ world.ledger.entries, entry.owner = transfer.owner →
      ∃ row : Row, row.owner? = some transfer.owner ∧ world.NamesForGood .entries entry.id row := by
    intro entry there own
    have inside : Row.entry entry ∈ world.ledger.rows .entries := List.mem_map_of_mem there
    exact ⟨.entry entry, congrArg some own, namesForGood_of_mem numbered inside⟩
  rcases paired.joined transfer member with
    ⟨outgoing, outgoing_there, incoming, incoming_there, pair⟩
  rcases joins transfer member with ⟨source, target⟩
  simp only [Row.references, List.forall_mem_cons]
  refine ⟨account _ source, account _ target, ?_, ?_, List.forall_mem_nil _⟩
  · exact pair.taken.id ▸ entry outgoing outgoing_there pair.taken.owner
  · exact pair.brought.id ▸ entry incoming incoming_there pair.brought.owner

/-- The number of a chat that is bound names its row for good. -/
theorem names_of_assign {owner chat : String} {id : Int} {after : World}
    (numbered : world.ledger.IsNumbered) (reflects : Reflects world.ledger.bindings events)
    (run : Binding.assign owner chat world = .ok id after) :
    after.NamesForGood .bindings id (.binding id chat)
      ∧ ∀ steps, (∀ event ∈ after.bindingEvents steps, ¬ event.Binds chat) →
        (after.later steps).ledger.HasBinding owner chat id := by
  have later := (Binding.prepares_assign owner chat).continues.isNumbered run numbered
  have told : Reflects after.ledger.bindings (events ++ [.bound owner chat id]) := by
    rcases Binding.assign_eq_ok run with ⟨rfl, bindings_eq⟩
    exact bindings_eq ▸ reflects.bound owner chat
  constructor
  · rcases told.hasBinding (by simp) with ⟨binding, member, rfl, -, rfl⟩
    have inside : Row.ofBinding binding ∈ after.ledger.rows .bindings := List.mem_map_of_mem member
    exact namesForGood_of_mem later inside
  · intro steps last
    have reflected := reflects_later after steps told
    rw [List.append_assoc, List.singleton_append] at reflected
    exact reflected.hasBinding last

/-- Whatever is asked for, in whatever order and wherever storage fails, the rows of every table are
numbered from one on, and each number names one row for good. -/
theorem keepsNumbers_later (today : Date) (now : Instant) (steps : List Step) :
    ((start today now).later steps).KeepsNumbers := by
  have numbered := isNumbered_later today now steps
  have paired := isPaired_later today now steps
  have joins := joinsAccounts_later today now steps
  have reflects := reflects_later (start today now) steps .nil
  generalize (start today now).later steps = world at numbered paired joins reflects
  have ordered : ∀ steps table,
      world.ledger.rows table <+: (world.later steps).ledger.rows table :=
    fun steps table => ((world.continues_later steps).rows table).stay
  exact {
    gapless := numbered
    ordered := ordered
    lasting := fun _ _ _ => namesForGood_of_row?
    opens := fun _ _ _ _ _ _ => Account.issues_of_create numbered
    issuesCard := fun _ _ _ _ _ _ _ _ => Card.issues_of_create numbered
    names := fun _ _ _ _ _ => Category.issues_of_create numbered
    records := fun _ _ _ => Entry.issues_of_record numbered
    moves := fun _ _ _ _ _ => Transfer.issues_of_execute numbered
    binds := fun _ _ _ _ => names_of_assign numbered reflects
    refers := fun steps table _ member =>
      ⟨(ordered steps table).subset member, fun _ _ _ named => namesForGood_of_row? named steps⟩
    joins := fun _ => exists_namesForGood_of_joins numbered paired joins }

/-- A number goes from one owner to another when its chat is bound again. -/
theorem rebound_number_changes_owner :
    ∃ id after, Binding.assign "ana" "7" (start newYear.today newYear.now) = .ok id after
      ∧ after.ledger.HasBinding "ana" "7" id
      ∧ (after.later [.ask (.bindChat "bruno" "7")]).ledger.HasBinding "bruno" "7" id
      ∧ ¬ (after.later [.ask (.bindChat "bruno" "7")]).ledger.HasBinding "ana" "7" id :=
  ⟨1, _, rfl, by decide +kernel, by decide +kernel, by decide +kernel⟩

end World

end Cashbook
