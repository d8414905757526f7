import Cashbook.Ledger.AccountName
import Cashbook.Ledger.Bindings
import Cashbook.Ledger.Cards
import Cashbook.Ledger.Categories
import Cashbook.Ledger.Transfers
import Cashbook.Proofs.Naming
import Cashbook.Summary

/-!
# Names of series in a ledger

Reading and writing a ledger does the same up to the names of series: entries keep them, a
selection compares them, and nothing else looks at them.
-/

namespace Cashbook.Renaming

open Call Money

variable {first shift : Nat} {exchange : Renaming first shift}

/-- A reading that does not see names is the same with other names. -/
theorem ignores_read {Answer : Type} {read : Ledger → Answer}
    (same : ∀ ledger, read (exchange.ledger ledger) = read ledger) :
    exchange.Ignores (do return read (← Call.ledger)) := by
  refine matches_ledger.bind fun ledger => ?_
  rw [same]
  exact matches_pure _

theorem ignores_forM {Item : Type} {work : Item → Call PUnit} (items : List Item)
    (same : ∀ item, exchange.Ignores (work item)) : exchange.Ignores (items.forM work) := by
  have matched : exchange.Matches id (items.forM work) ((items.map id).forM work) :=
    matches_forM items same
  rwa [List.map_id] at matched

/-! ## Chats, accounts, cards and categories -/

theorem ignores_findBinding (chat : String) : exchange.Ignores (Binding.find chat) :=
  (ignores_failAt _ _).bind fun _ => ignores_read fun _ => rfl

theorem ignores_assign (owner chat : String) : exchange.Ignores (Binding.assign owner chat) :=
  Matches.atomically <| matches_ledger.bind fun _ => (matches_putLedger _).bind fun _ =>
    matches_pure _

theorem ignores_deactivateBinding (id : Int) : exchange.Ignores (Binding.deactivate id) :=
  (ignores_checkWord _).bind fun _ => ignores_changeLedger fun _ => rfl

theorem ignores_createAccount (owner name : String) (kind : AccountKind) (opening : Decimal) :
    exchange.Ignores (Account.create owner name kind opening) :=
  Matches.atomically <| (ignores_checkQuiet _).bind fun _ => (ignores_storable _ _).bind fun _ =>
    matches_get.bind fun _ => (matches_putLedger _).bind fun _ => matches_pure _

theorem ignores_findAccount (owner : String) (id : Int) :
    exchange.Ignores (Account.find owner id) :=
  (ignores_checkWord _).bind fun _ => ignores_read fun _ => rfl

theorem ignores_listAccounts (owner : String) (limit : Option Int) :
    exchange.Ignores (Account.list owner limit) :=
  (ignores_failAt _ _).bind fun _ => (ignores_checkWord? _).bind fun _ => ignores_read fun _ => rfl

theorem ignores_among (owner : String) (ids : List Int) :
    exchange.Ignores (Account.among owner ids) :=
  (ignores_forM ids ignores_checkWord).bind fun _ => ignores_read fun _ => rfl

theorem ignores_deactivateAccount (id : Int) : exchange.Ignores (Account.deactivate id) :=
  (ignores_checkWord _).bind fun _ => ignores_changeLedger fun _ => rfl

theorem ignores_resolve (owner text : String) : exchange.Ignores (Account.resolve owner text) := by
  unfold Account.resolve
  split
  · exact (ignores_findAccount _ _).bind fun _ => .ite (matches_throw _) (matches_pure _)
  · refine (ignores_listAccounts _ _).bind fun accounts => ?_
    simp only [id_eq]
    split
    · exact matches_pure _
    · exact matches_throw _

theorem ignores_createCard (owner name brand : String) (limit : Decimal) (closingDay dueDay : Int) :
    exchange.Ignores (Card.create owner name brand limit closingDay dueDay) :=
  Matches.atomically <| (ignores_checkQuiet _).bind fun _ => (ignores_checkWord _).bind fun _ =>
    (ignores_checkWord _).bind fun _ => (ignores_storable _ _).bind fun _ =>
      matches_ledger.bind fun _ => (matches_putLedger _).bind fun _ => matches_pure _

theorem ignores_findCard (owner : String) (id : Int) : exchange.Ignores (Card.find owner id) :=
  (ignores_checkWord _).bind fun _ => ignores_read fun _ => rfl

theorem ignores_createCategory (owner name : String) (kind : CategoryKind) :
    exchange.Ignores (Category.create owner name kind) :=
  Matches.atomically <| matches_ledger.bind fun _ => (matches_putLedger _).bind fun _ =>
    matches_pure _

theorem ignores_listCategories (owner : String) : exchange.Ignores (Category.list owner) :=
  ignores_read fun _ => rfl

/-! ## Entries -/

/-- Entries keep their numbers. -/
theorem map_id_entries (ledger : Ledger) :
    (exchange.ledger ledger).entries.map Entry.id = ledger.entries.map Entry.id := by
  simp [Renaming.ledger, Renaming.entry, Function.comp_def]

/-- Rows that are appended are appended with their new names. -/
theorem matches_append (ledger : Ledger) (rows : List Entry) :
    exchange.Matches id (putLedger { ledger with entries := ledger.entries ++ rows })
      (putLedger { exchange.ledger ledger with
        entries := (exchange.ledger ledger).entries ++ rows.map exchange.entry }) := by
  have appended : exchange.ledger { ledger with entries := ledger.entries ++ rows }
      = { exchange.ledger ledger with
          entries := (exchange.ledger ledger).entries ++ rows.map exchange.entry } := by
    simp [Renaming.ledger]
  exact appended ▸ matches_putLedger _

theorem matches_collect (changes : List Entry.Change) (entries : List NewEntry) :
    exchange.Matches id (Entry.collect changes entries)
      (Entry.collect changes (entries.map exchange.newEntry)) := by
  induction entries generalizing changes with
  | nil => exact matches_pure _
  | cons entry rest ih =>
      exact (ignores_failAt _ _).bind fun _ => (ignores_ofArithmetic _).bind fun next => ih next

theorem matches_insert (entry : NewEntry) :
    exchange.Matches id (Entry.insert entry) (Entry.insert (exchange.newEntry entry)) := by
  have numbers : exchange.Ignores (Entry.checkNumbers entry) :=
    (ignores_checkWord? _).bind fun _ => (ignores_checkWord? _).bind fun _ =>
      (ignores_checkWord? _).bind fun _ => (ignores_checkWord? _).bind fun _ =>
        ignores_checkWord? _
  refine numbers.bind fun _ => (ignores_storable _ _).bind fun amount =>
    matches_ledger.bind fun ledger => ?_
  rw [map_id_entries]
  exact (matches_append ledger _).bind fun _ => matches_pure _

theorem ignores_applyChange (change : Entry.Change) :
    exchange.Ignores (Entry.applyChange change) := by
  refine .ite ?_ (matches_pure _)
  refine (ignores_failAt _ _).bind fun _ => matches_ledger.bind fun ledger => ?_
  rw [show (exchange.ledger ledger).account? change.owner change.account
    = ledger.account? change.owner change.account from rfl]
  split
  · exact matches_throw _
  · exact (ignores_storable _ _).bind fun _ => (ignores_storedResult _ _).bind fun _ =>
      matches_putLedger _

/-- A batch does not see names when the writing of its rows does not. -/
theorem matches_recordWith {write written : Call (List Int)}
    (writes : exchange.Matches id write written) (entries : List NewEntry) :
    exchange.Matches id (Entry.recordWith write entries)
      (Entry.recordWith written (entries.map exchange.newEntry)) := by
  have quiet : exchange.Matches id (entries.forM fun entry => checkQuiet entry.amount)
      ((entries.map exchange.newEntry).forM fun entry => checkQuiet entry.amount) :=
    matches_forM entries fun entry => ignores_checkQuiet entry.amount
  exact (ignores_failAt _ _).bind fun _ => Matches.atomically <|
    (matches_collect [] entries).bind fun changes => quiet.bind fun _ =>
      writes.bind fun _ =>
        (ignores_forM changes ignores_applyChange).bind fun _ => matches_pure _

/-- A batch is written with the new names. -/
theorem matches_record (entries : List NewEntry) :
    exchange.Matches id (Entry.record entries) (Entry.record (entries.map exchange.newEntry)) :=
  matches_recordWith (matches_mapM entries matches_insert) entries

theorem matches_recordTorn (entries : List NewEntry) :
    exchange.Matches id (Entry.recordTorn entries)
      (Entry.recordTorn (entries.map exchange.newEntry)) :=
  matches_recordWith (matches_throw _) entries

/-- An entry is found with its new name. -/
theorem matches_findEntry (id : Int) :
    exchange.Matches (Option.map exchange.entry) (Entry.find id) (Entry.find id) := by
  refine (ignores_checkWord _).bind fun _ => matches_ledger.bind fun ledger => ?_
  have same : (exchange.ledger ledger).entries.find? (fun entry => entry.id = id)
      = (ledger.entries.find? fun entry => entry.id = id).map exchange.entry :=
    List.find?_map ..
  rw [same]
  exact matches_pure _

/-- A selection admits an entry whatever the names. -/
theorem admits_selection (selection : Entry.Selection) (entry : Entry) :
    (exchange.selection selection).admits (exchange.entry entry) = selection.admits entry := by
  unfold Entry.Selection.admits
  congr 1
  simp only [Renaming.selection, Renaming.entry, Renaming.installment]
  cases selection.group with
  | none => rfl
  | some group =>
      cases entry.installment.group with
      | none => rfl
      | some name => simp [exchange.injective.eq_iff]

theorem selected_ledger (ledger : Ledger) (owner : String) (selection : Entry.Selection) :
    Entry.selected (exchange.ledger ledger) owner (exchange.selection selection)
      = (Entry.selected ledger owner selection).map exchange.entry := by
  unfold Entry.selected
  have sorted : ∀ entries : List Entry,
      (entries.mergeSort Entry.listedBefore).map exchange.entry
        = (entries.map exchange.entry).mergeSort Entry.listedBefore :=
    fun _ => List.map_mergeSort fun _ _ _ _ => rfl
  rw [sorted, Renaming.ledger, List.filter_map]
  congr 2
  apply List.filter_congr
  intro entry _
  simp only [Function.comp_apply, admits_selection]
  rfl

/-- Entries are listed with their new names. -/
theorem matches_listEntries (owner : String) (selection : Entry.Selection) :
    exchange.Matches (List.map exchange.entry) (Entry.list owner selection)
      (Entry.list owner (exchange.selection selection)) := by
  refine (ignores_failAt _ _).bind fun _ => matches_ledger.bind fun ledger => ?_
  rw [selected_ledger]
  exact matches_pure _

/-- A report does not see names. -/
theorem ignores_report (owner : String) (day : Date) :
    exchange.Ignores (MonthlyReport.load owner day) := by
  refine (ignores_ofCalendar _).bind fun range => ?_
  rcases range with ⟨start, last⟩
  have total_map : ∀ kind (entries : List Entry),
      MonthlyReport.total kind (entries.map exchange.entry) = MonthlyReport.total kind entries := by
    intro kind entries
    unfold MonthlyReport.total
    rw [List.filter_map, List.map_map]
    rfl
  refine (matches_listEntries owner { first := some start, last := some last }).bind
    fun entries => ?_
  rw [total_map, total_map]
  exact (ignores_ofArithmetic _).bind fun _ => (ignores_ofArithmetic _).bind fun _ =>
    matches_pure _

/-! ## Transfers -/

theorem ignores_debit (movement : Movement) : exchange.Ignores (Transfer.debit movement) := by
  refine (ignores_checkWord _).bind fun _ => matches_ledger.bind fun ledger => ?_
  rw [show (exchange.ledger ledger).account? movement.owner movement.source
    = ledger.account? movement.owner movement.source from rfl]
  split
  · exact matches_throw _
  · split
    · exact matches_throw _
    · exact .ite ((ignores_storedResult _ _).bind fun _ => matches_putLedger _) (matches_throw _)

theorem ignores_credit (movement : Movement) : exchange.Ignores (Transfer.credit movement) := by
  refine (ignores_checkWord _).bind fun _ => matches_ledger.bind fun ledger => ?_
  rw [show (exchange.ledger ledger).account? movement.owner movement.target
    = ledger.account? movement.owner movement.target from rfl]
  split
  · exact matches_throw _
  · exact (ignores_storable _ _).bind fun _ => (ignores_storedResult _ _).bind fun _ =>
      matches_putLedger _

theorem ignores_writeRows (movement : Movement) (description : String) (date : Date) :
    exchange.Ignores (Transfer.writeRows movement description date) := by
  refine (ignores_storable _ _).bind fun amount => matches_ledger.bind fun ledger => ?_
  rw [map_id_entries]
  exact (matches_append ledger _).bind fun _ => (ignores_failAt _ _).bind fun _ =>
    matches_ledger.bind fun _ => (matches_putLedger _).bind fun _ => matches_pure _

theorem ignores_performWith {write : Call Int} (writes : exchange.Ignores write)
    (movement : Movement) : exchange.Ignores (Transfer.performWith write movement) :=
  Matches.atomically <| (ignores_checkQuiet _).bind fun _ => (ignores_debit _).bind fun _ =>
    (ignores_credit _).bind fun _ => writes

theorem ignores_performRival (rival : Option Movement) :
    exchange.Ignores (Transfer.performRival rival) := by
  cases rival with
  | none => exact matches_pure _
  | some movement =>
      exact matches_get.bind fun _ =>
        (ignores_performWith (ignores_writeRows _ _ _) _).bind fun _ => matches_pure _

theorem ignores_executeWith {write : Call Int} (writes : exchange.Ignores write)
    (movement : Movement) : exchange.Ignores (Transfer.executeWith write movement) := by
  refine (ignores_failAt _ _).bind fun _ => (ignores_failAt _ _).bind fun _ =>
    (ignores_visit _).bind fun shown => ?_
  cases shown with
  | none => exact ignores_performWith writes _
  | some fault => exact (ignores_performRival _).bind fun _ => ignores_performWith writes _

theorem ignores_execute (movement : Movement) (description : String) (date : Date) :
    exchange.Ignores (Transfer.execute movement description date) :=
  ignores_executeWith (ignores_writeRows _ _ _) movement

theorem ignores_findTransfer (id : Int) : exchange.Ignores (Transfer.find id) :=
  (ignores_checkWord _).bind fun _ => ignores_read fun _ => rfl

end Cashbook.Renaming
