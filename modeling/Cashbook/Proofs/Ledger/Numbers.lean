import Cashbook.Proofs.Ledger.Bindings
import Cashbook.Proofs.Ledger.Pairing
import Cashbook.Proofs.Ledger.References

/-!
# The numbers of rows

The rows of a table are numbered from one on without a gap, in the order they are committed in: a
new row takes the number behind the largest one, a unit of work that fails gives its numbers back,
and no row is ever taken away.  So a number that was given once names one row for good, and with it
all that stays of this row: everything but the owner of a binding, what an account holds, and
whether the two are in use.  What entries and transfers refer to by numbers is therefore always the
same.
-/

namespace Cashbook

open Call Money

namespace Ledger

/-! ## Numbers without a gap -/

/-- Are these the numbers from one on, in their order? -/
def IsGapless (ids : List Int) : Prop :=
  ids = (List.range ids.length).map fun index : Nat => (index : Int) + 1

theorem foldl_max_range (count : Nat) :
    ((List.range count).map fun index : Nat => (index : Int) + 1).foldl max 0 = count := by
  induction count with
  | zero => rfl
  | succ count ih =>
      rw [List.range_succ, List.map_append, List.foldl_append, ih]
      exact max_eq_right (Int.le_add_one le_rfl)

/-- The next number is one more than there are rows. -/
theorem IsGapless.nextId_eq {ids : List Int} (gapless : IsGapless ids) :
    nextId ids = ids.length + 1 := by
  have largest := foldl_max_range ids.length
  rw [← gapless] at largest
  rw [nextId, largest]

/-- The next number leaves no gap. -/
theorem IsGapless.append_nextId {ids : List Int} (gapless : IsGapless ids) :
    IsGapless (ids ++ [nextId ids]) := by
  rw [IsGapless, List.length_append, List.length_singleton, List.range_succ, List.map_append,
    ← gapless, gapless.nextId_eq]
  rfl

theorem IsGapless.nodup {ids : List Int} (gapless : IsGapless ids) : ids.Nodup := by
  rw [gapless]
  refine List.nodup_range.map fun first second same => ?_
  exact Int.natCast_inj.mp (add_right_cancel same)

/-- Of two numbers one after the other, the second is the next one behind the first. -/
theorem nextId_append_nextId (ids : List Int) :
    nextId (ids ++ [nextId ids]) = nextId ids + 1 := by
  have largest : ids.foldl max 0 ≤ nextId ids := Int.le_add_one le_rfl
  rw [nextId, List.foldl_append]
  exact congrArg (· + 1) (max_eq_right largest)

/-! ## Rows -/

/-- The tables of a ledger. -/
inductive Table where
  | bindings
  | accounts
  | cards
  | categories
  | entries
  | transfers
deriving DecidableEq

/-- What stays of a row once it is written. -/
inductive Row where
  | binding (id : Int) (chat : String)
  | account (id : Int) (owner name : String) (kind : AccountKind) (opening : Stored)
      (writtenAt : Instant)
  | card (card : Card)
  | category (category : Category)
  | entry (entry : Entry)
  | transfer (transfer : Transfer)
deriving DecidableEq

namespace Row

/-- What stays of a binding, which may speak for another owner later. -/
def ofBinding (binding : Binding) : Row :=
  .binding binding.id binding.chat

/-- What stays of an account. -/
def ofAccount (account : Account) : Row :=
  .account account.id account.owner account.name account.kind account.opening account.writtenAt

/-- The number of a row. -/
def id : Row → Int
  | binding id _ => id
  | account id .. => id
  | card row => row.id
  | category row => row.id
  | entry row => row.id
  | transfer row => row.id

/-- Whose row it is, unless this may change. -/
def owner? : Row → Option String
  | binding .. => none
  | account _ owner .. => some owner
  | card row => some row.owner
  | category row => some row.owner
  | entry row => some row.owner
  | transfer row => some row.owner

/-- The rows that a row refers to, by their tables and numbers. -/
def references : Row → List (Table × Int)
  | entry row =>
      (row.account.toList ++ row.destination.toList).map (Table.accounts, ·)
        ++ row.card.toList.map (Table.cards, ·) ++ row.category.toList.map (Table.categories, ·)
  | transfer row =>
      [(.accounts, row.source), (.accounts, row.target), (.entries, row.outgoing),
        (.entries, row.incoming)]
  | _ => []

end Row

/-- What stays of the rows of a table, in their order. -/
def rows (ledger : Ledger) : Table → List Row
  | .bindings => ledger.bindings.map .ofBinding
  | .accounts => ledger.accounts.map .ofAccount
  | .cards => ledger.cards.map .card
  | .categories => ledger.categories.map .category
  | .entries => ledger.entries.map .entry
  | .transfers => ledger.transfers.map .transfer

/-- The numbers of the rows of a table, in their order. -/
def numbers (ledger : Ledger) : Table → List Int
  | .bindings => ledger.bindings.map Binding.id
  | .accounts => ledger.accounts.map Account.id
  | .cards => ledger.cards.map Card.id
  | .categories => ledger.categories.map Category.id
  | .entries => ledger.entries.map Entry.id
  | .transfers => ledger.transfers.map Transfer.id

theorem map_id_rows (ledger : Ledger) (table : Table) :
    (ledger.rows table).map Row.id = ledger.numbers table := by
  cases table <;> exact List.map_map

/-- The row that a number names. -/
def row? (ledger : Ledger) (table : Table) (id : Int) : Option Row :=
  (ledger.rows table).find? fun row => row.id = id

/-- Are the rows of every table numbered from one on? -/
def IsNumbered (ledger : Ledger) : Prop :=
  ∀ table, IsGapless (ledger.numbers table)

theorem isNumbered_empty : empty.IsNumbered := by
  intro table
  cases table <;> rfl

variable {before middle after ledger : Ledger} {table : Table} {row : Row} {id : Int}

theorem IsNumbered.row?_eq_some (numbered : ledger.IsNumbered) (member : row ∈ ledger.rows table) :
    ledger.row? table row.id = some row := by
  have distinct := (numbered table).nodup
  rw [← map_id_rows] at distinct
  refine find?_eq_some_of_unique member (decide_eq_true rfl) fun other inside same => ?_
  exact List.inj_on_of_nodup_map distinct inside member (of_decide_eq_true same)

/-! ## Rows that stay -/

/-- Do rows stay where they are, and do those behind them leave no gap? -/
structure Extends (rows later : List Row) : Prop where
  stay : rows <+: later
  gapless : IsGapless (rows.map Row.id) → IsGapless (later.map Row.id)

theorem Extends.refl (rows : List Row) : Extends rows rows :=
  ⟨List.prefix_rfl, fun gapless => gapless⟩

theorem extends_of_eq {rows later : List Row} (same : later = rows) : Extends rows later :=
  same ▸ .refl rows

theorem Extends.trans {rows later last : List Row} (first : Extends rows later)
    (second : Extends later last) : Extends rows last :=
  ⟨first.stay.trans second.stay, second.gapless ∘ first.gapless⟩

section

variable {Item : Type} {items : List Item} {keep : Item → Row} {change : Item → Item} {item : Item}

/-- Rows that change in what does not stay are the same rows. -/
theorem extends_map (same : ∀ item ∈ items, keep (change item) = keep item) :
    Extends (items.map keep) ((items.map change).map keep) := by
  apply extends_of_eq
  rw [List.map_map]
  exact List.map_congr_left same

/-- One more row, with the next number, leaves no gap. -/
theorem extends_append (next : (keep item).id = nextId (items.map fun item => (keep item).id)) :
    Extends (items.map keep) ((items ++ [item]).map keep) where
  stay := by
    rw [List.map_append]
    exact List.prefix_append _ _
  gapless gapless := by
    rw [List.map_map] at gapless
    rw [List.map_map, List.map_append]
    change IsGapless (_ ++ [(keep item).id])
    rw [next]
    exact gapless.append_nextId

end

/-- Does every table of one ledger extend that of another? -/
structure Continues (before after : Ledger) : Prop where
  bindings : Extends (before.rows .bindings) (after.rows .bindings) := by exact .refl _
  accounts : Extends (before.rows .accounts) (after.rows .accounts) := by exact .refl _
  cards : Extends (before.rows .cards) (after.rows .cards) := by exact .refl _
  categories : Extends (before.rows .categories) (after.rows .categories) := by exact .refl _
  entries : Extends (before.rows .entries) (after.rows .entries) := by exact .refl _
  transfers : Extends (before.rows .transfers) (after.rows .transfers) := by exact .refl _

namespace Continues

theorem refl (ledger : Ledger) : ledger.Continues ledger :=
  {}

theorem trans (first : before.Continues middle) (second : middle.Continues after) :
    before.Continues after where
  bindings := first.bindings.trans second.bindings
  accounts := first.accounts.trans second.accounts
  cards := first.cards.trans second.cards
  categories := first.categories.trans second.categories
  entries := first.entries.trans second.entries
  transfers := first.transfers.trans second.transfers

theorem rows (continues : before.Continues after) :
    ∀ table, Extends (before.rows table) (after.rows table)
  | .bindings => continues.bindings
  | .accounts => continues.accounts
  | .cards => continues.cards
  | .categories => continues.categories
  | .entries => continues.entries
  | .transfers => continues.transfers

theorem isNumbered (continues : before.Continues after) (numbered : before.IsNumbered) :
    after.IsNumbered := by
  intro table
  have gapless := (continues.rows table).gapless
  rw [map_id_rows, map_id_rows] at gapless
  exact gapless (numbered table)

theorem numbers_subset (continues : before.Continues after) (table : Table) :
    before.numbers table ⊆ after.numbers table := by
  rw [← map_id_rows, ← map_id_rows]
  exact ((continues.rows table).stay.map Row.id).subset

/-- What a number names stays. -/
theorem row?_eq_some (continues : before.Continues after)
    (named : before.row? table id = some row) :
    after.row? table id = some row := by
  rcases (continues.rows table).stay with ⟨added, rows_eq⟩
  rw [row?, ← rows_eq, List.find?_append]
  exact Option.or_eq_some_iff.mpr (.inl named)

end Continues

/-! ## Changes -/

/-- What stays of accounts does not depend on what they hold. -/
theorem extends_accounts (kept : after.emptied = before.emptied) :
    Extends (before.rows .accounts) (after.rows .accounts) := by
  have of_emptied : ∀ ledger : Ledger,
      ledger.emptied.map Row.ofAccount = ledger.rows .accounts := by
    intro ledger
    rw [emptied, List.map_map]
    rfl
  apply extends_of_eq
  rw [← of_emptied, kept, of_emptied]

/-- A chat that is bound keeps its row or takes the next one. -/
theorem extends_assigned (owner chat : String) (bindings : List Binding) :
    Extends (bindings.map .ofBinding)
      ((Binding.assigned owner chat bindings).2.map .ofBinding) := by
  unfold Binding.assigned
  cases bindings.find? fun binding => binding.chat = chat with
  | none => exact extends_append rfl
  | some binding =>
      refine extends_map fun other _ => ?_
      split_ifs
      · rfl
      · rfl

end Ledger

/-- A transfer writes two entries and a record, each with the next number. -/
theorem Transfer.Effect.continues {movement : Movement} {description : String} {date : Date}
    {id : Int} {before after : Ledger}
    (effect : Effect movement description date before id after) : before.Continues after := by
  have kept := effect.emptied_eq
  cases effect with
  | intro =>
    refine {
      accounts := Ledger.extends_accounts kept
      entries := ?_
      transfers := Ledger.extends_append rfl }
    change Ledger.Extends _ ((before.entries ++ _ :: [_]).map .entry)
    rw [List.append_cons]
    refine (Ledger.extends_append rfl).trans (Ledger.extends_append ?_)
    change _ = Ledger.nextId ((before.entries ++ [_]).map Entry.id)
    rw [List.map_append]
    exact (Ledger.nextId_append_nextId _).symm

namespace Ledger

variable {before after : Ledger}

/-- Every change keeps all rows and leaves no gap, provided that a batch leaves none. -/
theorem Change.continues (change : Change before after)
    (entries : IsGapless (before.numbers .entries) → IsGapless (after.numbers .entries)) :
    before.Continues after := by
  cases change with
  | bound owner chat => exact { bindings := extends_assigned owner chat before.bindings }
  | released id =>
      refine { bindings := extends_map fun binding _ => ?_ }
      split_ifs <;> rfl
  | opened stored owner name kind now => exact { accounts := extends_append rfl }
  | closed id =>
      refine { accounts := extends_map fun account _ => ?_ }
      split_ifs <;> rfl
  | issued stored owner name brand closingDay dueDay => exact { cards := extends_append rfl }
  | named owner name kind => exact { categories := extends_append rfl }
  | recorded written new =>
      rcases written.rows with ⟨rows, -, -, appended⟩
      refine {
        bindings := extends_of_eq (by rw [written.frame]; rfl)
        accounts := extends_accounts written.kept
        cards := extends_of_eq (by rw [written.frame]; rfl)
        categories := extends_of_eq (by rw [written.frame]; rfl)
        entries := ⟨?_, ?_⟩
        transfers := extends_of_eq (by rw [written.frame]; rfl) }
      · change before.entries.map _ <+: after.entries.map _
        rw [appended, List.map_append]
        exact List.prefix_append _ _
      · rwa [map_id_rows, map_id_rows]
  | moved effect => exact effect.continues

/-- What touches neither entries nor transfers leaves no gap. -/
theorem continues_of_setUp (setUp : Relation.ReflTransGen IsSetUp before after) :
    before.Continues after := by
  induction setUp with
  | refl => exact .refl _
  | @tail middle after _ last ih =>
      refine ih.trans (last.change.continues fun gapless => ?_)
      change IsGapless (after.entries.map Entry.id)
      rw [last.entries]
      exact gapless

end Ledger

/-! ## Writes -/

namespace World

/-- Do all tables keep their rows, and leave no gap? -/
def Continues (before after : World) : Prop :=
  before.ledger.Continues after.ledger

instance : IsKept Continues :=
  ⟨fun world => .refl world.ledger, .trans⟩

end World

theorem Call.Prepares.continues {Answer : Type} {call : Call Answer} (prepares : Prepares call) :
    Respects World.Continues call :=
  fun world => Ledger.continues_of_setUp (prepares world).setUp

namespace Entry

variable {entries : List NewEntry} {ids : List Int} {world after : World}

/-- The rows of a batch take the next numbers one after another. -/
theorem isGapless_of_mapM_insert (run : entries.mapM insert world = .ok ids after)
    (gapless : Ledger.IsGapless (world.ledger.numbers .entries)) :
    Ledger.IsGapless (after.ledger.numbers .entries) := by
  induction entries generalizing world ids with
  | nil =>
      cases run
      exact gapless
  | cons entry rest ih =>
      rw [List.mapM_cons] at run
      rcases bind_eq_ok_iff.mp run with ⟨id, middle, first, run⟩
      rcases bind_eq_ok_iff.mp run with ⟨later, last, others, run⟩
      cases run
      obtain ⟨stored, -, -, -, rfl⟩ := insert_eq_ok_iff.mp first
      apply ih others
      change Ledger.IsGapless ((world.ledger.entries ++ [_]).map Entry.id)
      rw [List.map_append]
      exact gapless.append_nextId

/-- A batch that is written keeps all rows and leaves no gap. -/
theorem continues_of_record_eq_ok (run : record entries world = .ok ids after) :
    world.ledger.Continues after.ledger := by
  obtain ⟨-, -, -, -, -, -, -, new, -⟩ := record_eq_ok run
  refine (Ledger.Change.recorded (recorded_of_record_eq_ok run) new).continues fun gapless => ?_
  obtain ⟨changes, -, built, written, changed, -, -, -, -, -, inserted, applied, -, rfl⟩ :=
    record_eq_ok_iff.mp run
  have same : changed.ledger.entries = written.ledger.entries := by
    rw [(forM_applyChange_eq_ok applied).1]
  change Ledger.IsGapless (changed.ledger.entries.map Entry.id)
  rw [same]
  exact isGapless_of_mapM_insert inserted gapless

theorem continues_record (entries : List NewEntry) : Respects World.Continues (record entries) :=
  (restores_record entries).holds_worldAfter (fun world later => world.ledger.Continues later)
    (fun world => .refl world.ledger) fun _ _ _ => continues_of_record_eq_ok

end Entry

theorem EntryDraft.continues_post (draft : EntryDraft) (context : OwnerContext) :
    Respects World.Continues (draft.post context) := by
  refine (restores_post draft context).holds_worldAfter
    (fun world later => world.ledger.Continues later) (fun world => .refl world.ledger) ?_
  intro world text after run
  obtain ⟨account, entries, ids, -, -, record, -⟩ := post_eq_ok run
  rw [← ledger_named draft world]
  exact Entry.continues_of_record_eq_ok record

theorem Transfer.continues_perform (movement : Movement) (description : String) (date : Date) :
    Respects World.Continues (perform movement description date) :=
  (restores_atomically _).holds_worldAfter (fun world later => world.ledger.Continues later)
    (fun world => .refl world.ledger) fun _ _ _ run => (effect_of_perform_eq_ok run).continues

/-- To continue a ledger is kept by all ways of writing. -/
theorem isInvariant_continues (origin : Ledger) :
    IsInvariant (fun world => origin.Continues world.ledger) fun _ => True where
  prepares prepared continues := continues.trans (Ledger.continues_of_setUp prepared.setUp)
  posts _ _ := fun world _ continues => continues.trans (EntryDraft.continues_post _ _ world)
  moves _ := fun world continues => continues.trans (Transfer.continues_perform _ _ _ world)
  rivals _ _ _ := trivial
  requests _ := trivial

/-! ## Runs -/

/-- Every operation keeps all rows and leaves no gap, wherever storage fails. -/
theorem Operation.continues_call (operation : Operation) :
    Respects World.Continues operation.call := by
  intro world
  exact (isInvariant_continues world.ledger).maintains_operation
    (fun entries _ later continues => continues.trans (Entry.continues_record entries later))
    (fun draft context later continues => continues.trans (draft.continues_post context later))
    world (.refl world.ledger)

theorem Step.continues_call (step : Step) : Respects World.Continues step.call := by
  cases step with
  | wait today now fault => exact fun world => .refl world.ledger
  | ask operation => exact operation.continues_call

namespace World

theorem continues_later (world : World) (steps : List Step) :
    world.ledger.Continues (world.later steps).ledger := by
  have kept : ∀ step ∈ steps,
      Call.Maintains (fun later => world.ledger.Continues later.ledger) step.call :=
    fun step _ later continues => continues.trans (step.continues_call later)
  exact maintains_later kept world (.refl world.ledger)

theorem isNumbered_later (today : Date) (now : Instant) (steps : List Step) :
    ((start today now).later steps).ledger.IsNumbered :=
  (continues_later (start today now) steps).isNumbered Ledger.isNumbered_empty

end World

end Cashbook
