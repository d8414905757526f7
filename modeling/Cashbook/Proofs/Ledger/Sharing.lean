import Cashbook.Ledger.Accounts
import Cashbook.Ledger.Cards
import Cashbook.Ledger.Categories
import Cashbook.Ledger.Transfers
import Cashbook.Proofs.Ledger.Recording
import Cashbook.Proofs.Ledger.TwoRuns
import Cashbook.Summary

/-!
# Ledgers that share the rows of an owner

Whatever the ledger is asked for an owner is answered from the owner's own rows, and whatever it
writes for the owner it writes to them.  So two ledgers that share these rows answer alike and share
them afterwards, whoever else has rows in them.  The numbers of new rows may differ.
-/

namespace Cashbook

open Call Money

/-! ## Rows of owners -/

namespace Ledger

/-- The rows of some owners. -/
def only (chosen : String → Prop) [DecidablePred chosen] (ledger : Ledger) : Ledger where
  bindings := ledger.bindings.filter fun binding => chosen binding.owner
  accounts := ledger.accounts.filter fun account => chosen account.owner
  cards := ledger.cards.filter fun card => chosen card.owner
  categories := ledger.categories.filter fun category => chosen category.owner
  entries := ledger.entries.filter fun entry => chosen entry.owner
  transfers := ledger.transfers.filter fun transfer => chosen transfer.owner

/-- Another balance changes nothing about whose an account is. -/
theorem only_setBalance (chosen : String → Prop) [DecidablePred chosen] (ledger : Ledger)
    (owner : String) (id : Int) (balance : Stored) :
    (ledger.setBalance owner id balance).only chosen
      = (ledger.only chosen).setBalance owner id balance := by
  simp only [only, setBalance, List.filter_map, Ledger.mk.injEq, true_and, and_true]
  congr 1
  apply List.filter_congr
  intro account _
  simp only [Function.comp_apply]
  split_ifs <;> rfl

/-- Do two ledgers have the same rows of an owner, entries and transfers aside? -/
structure Shares (owner : String) (first second : Ledger) : Prop where
  bindings : (second.only (· = owner)).bindings = (first.only (· = owner)).bindings
  accounts : (second.only (· = owner)).accounts = (first.only (· = owner)).accounts
  cards : (second.only (· = owner)).cards = (first.only (· = owner)).cards
  categories : (second.only (· = owner)).categories = (first.only (· = owner)).categories

/-- Do two ledgers have the same rows of an owner, transfers aside? -/
structure Agrees (owner : String) (first second : Ledger) : Prop extends
    Shares owner first second where
  entries : (second.only (· = owner)).entries = (first.only (· = owner)).entries

section Tables

variable {Row : Type} {own wanted : Row → Bool} {rows others : List Row}

/-- Rows that are wanted among an owner's are the same where the owner's are. -/
theorem filter_eq_of_own (within : ∀ row, wanted row = true → own row = true)
    (same : others.filter own = rows.filter own) : others.filter wanted = rows.filter wanted := by
  have narrowed : ∀ table : List Row, table.filter wanted = (table.filter own).filter wanted := by
    intro table
    rw [List.filter_filter]
    apply List.filter_congr
    intro row _
    cases here : wanted row with
    | false => rfl
    | true => rw [within row here, Bool.and_self]
  rw [narrowed others, narrowed rows, same]

theorem find?_eq_of_own (within : ∀ row, wanted row = true → own row = true)
    (same : others.filter own = rows.filter own) : others.find? wanted = rows.find? wanted := by
  rw [← List.head?_filter, ← List.head?_filter, filter_eq_of_own within same]

end Tables

variable {owner : String} {first second : Ledger}

namespace Shares

theorem account? (shares : first.Shares owner second) (id : Int) :
    second.account? owner id = first.account? owner id :=
  find?_eq_of_own (by simp) shares.accounts

theorem activeOf (shares : first.Shares owner second) :
    Account.activeOf second owner = Account.activeOf first owner :=
  congrArg (List.mergeSort · Account.listedBefore) (filter_eq_of_own (by simp_all) shares.accounts)

theorem allOf (shares : first.Shares owner second) :
    Category.allOf second owner = Category.allOf first owner :=
  congrArg (List.mergeSort · Category.listedBefore) shares.categories

/-- Another balance for an account of the owner is shared as well. -/
theorem setBalance (shares : first.Shares owner second) (id : Int) (balance : Stored) :
    (first.setBalance owner id balance).Shares owner (second.setBalance owner id balance) := by
  refine ⟨shares.bindings, ?_, shares.cards, shares.categories⟩
  rw [only_setBalance, only_setBalance, Ledger.setBalance, Ledger.setBalance, shares.accounts]

end Shares

theorem Agrees.selected (agrees : first.Agrees owner second) (selection : Entry.Selection) :
    Entry.selected second owner selection = Entry.selected first owner selection :=
  congrArg (List.mergeSort · Entry.listedBefore) (filter_eq_of_own (by simp_all) agrees.entries)

end Ledger

/-- Do two worlds differ in nothing but ledgers that share the rows of an owner? -/
abbrev World.Shares (owner : String) : World → World → Prop :=
  World.Beside (Ledger.Shares owner)

/-- Do two worlds differ in nothing but ledgers that agree on the rows of an owner? -/
abbrev World.Agrees (owner : String) : World → World → Prop :=
  World.Beside (Ledger.Agrees owner)

/-! ## Reading -/

variable {owner : String} {rows : Ledger → Ledger → Prop}

theorem Account.keeps_find (id : Int) : Keeps (World.Shares owner) (Account.find owner id) :=
  (keeps_checkWord _).bind_same fun _ => keeps_read fun _ _ shares => shares.account? id

theorem Account.keeps_list (shares : ∀ ledger other, rows ledger other → ledger.Shares owner other)
    (limit : Option Int) : Keeps (World.Beside rows) (Account.list owner limit) :=
  (keeps_failAt _ _).bind_same fun _ => (keeps_checkWord? _).bind_same fun _ =>
    keeps_read fun _ _ together => by rw [(shares _ _ together).activeOf]

theorem Account.keeps_among (ids : List Int) :
    Keeps (World.Shares owner) (Account.among owner ids) :=
  (keeps_forM fun id _ => keeps_checkWord id).bind_same fun _ =>
    keeps_read fun _ _ shares => Ledger.filter_eq_of_own (by simp) shares.accounts

theorem Card.keeps_find (id : Int) : Keeps (World.Shares owner) (Card.find owner id) :=
  (keeps_checkWord _).bind_same fun _ =>
    keeps_read fun _ _ shares => Ledger.find?_eq_of_own (by simp) shares.cards

theorem Category.keeps_list
    (shares : ∀ ledger other, rows ledger other → ledger.Shares owner other) :
    Keeps (World.Beside rows) (Category.list owner) :=
  keeps_read fun _ _ together => (shares _ _ together).allOf

theorem Entry.keeps_list (selection : Entry.Selection) :
    Keeps (World.Agrees owner) (Entry.list owner selection) :=
  (keeps_failAt _ _).bind_same fun _ => keeps_read fun _ _ agrees => agrees.selected selection

theorem MonthlyReport.keeps_load (day : Date) :
    Keeps (World.Agrees owner) (MonthlyReport.load owner day) :=
  (keeps_ofCalendar _).bind_same fun _ => (Entry.keeps_list _).bind_same fun _ =>
    (keeps_ofArithmetic _).bind_same fun _ => (keeps_ofArithmetic _).bind_same fun _ => keeps_pure _

/-! ## Entries -/

namespace Entry

variable {changes : List Change} {entries : List NewEntry}

/-- What is collected from an owner's entries are changes of the owner's accounts. -/
theorem parallel_collect (of_entries : ∀ entry ∈ entries, entry.owner = owner)
    (of_changes : ∀ change ∈ changes, change.owner = owner) :
    Parallel (World.Beside rows)
      (fun summed other => summed = other ∧ ∀ change ∈ summed, change.owner = owner)
      (World.Beside rows) (collect changes entries) (collect changes entries) := by
  induction entries generalizing changes with
  | nil => exact parallel_pure ⟨rfl, of_changes⟩
  | cons entry rest ih =>
      rw [List.forall_mem_cons] at of_entries
      refine (keeps_failAt _ _).bind_same fun _ => (parallel_ofArithmetic _).bind ?_
      rintro next _ ⟨rfl, added⟩
      exact ih of_entries.2 (owner_of_addEntry of_entries.1 of_changes added)

/-- New entries leave the other tables alone, whatever their numbers. -/
theorem parallel_insert (entry : NewEntry) :
    Parallel (World.Shares owner) (fun _ _ => True) (World.Shares owner) (insert entry)
      (insert entry) := by
  have numbers : Keeps (World.Shares owner) (checkNumbers entry) :=
    (keeps_checkWord? _).bind_same fun _ => (keeps_checkWord? _).bind_same fun _ =>
      (keeps_checkWord? _).bind_same fun _ => (keeps_checkWord? _).bind_same fun _ =>
        keeps_checkWord? _
  refine numbers.bind_same fun _ => (keeps_storable _ _).bind_same fun amount =>
    parallel_ledger.bind fun current other shares => ?_
  refine (parallel_putLedger ?_).bind fun _ _ _ => parallel_pure trivial
  exact ⟨shares.bindings, shares.accounts, shares.cards, shares.categories⟩

theorem keeps_applyChange {change : Change} (of_owner : change.owner = owner) :
    Keeps (World.Shares owner) (applyChange change) := by
  subst of_owner
  refine .ite ((keeps_failAt _ _).bind_same fun _ =>
    parallel_ledger.bind fun current other shares => ?_) (keeps_pure _)
  rw [shares.account? change.account]
  split
  · exact parallel_throw _
  · exact (keeps_storable _ _).bind_same fun _ => (keeps_storedResult _ _).bind_same fun balance =>
      parallel_putLedger (shares.setBalance _ balance)

/-- A batch of an owner's entries is written alike. -/
theorem parallel_record (of_entries : ∀ entry ∈ entries, entry.owner = owner) :
    Parallel (World.Shares owner) (fun _ _ => True) (World.Shares owner) (record entries)
      (record entries) := by
  refine (keeps_failAt _ _).bind_same fun _ => Parallel.unit <|
    (parallel_collect of_entries (by simp)).bind ?_
  rintro changes _ ⟨rfl, of_changes⟩
  exact (keeps_forM fun entry _ => keeps_checkQuiet entry.amount).bind_same fun _ =>
    (parallel_mapM (List.forall₂_same.mpr fun entry _ => parallel_insert entry)).bind fun _ _ _ =>
      (keeps_forM fun change member => keeps_applyChange (of_changes change member)).bind_same
        fun _ => parallel_pure trivial

end Entry

/-! ## Transfers -/

namespace Transfer

variable {movement : Movement}

theorem keeps_debit (movement : Movement) :
    Keeps (World.Shares movement.owner) (debit movement) := by
  refine (keeps_checkWord _).bind_same fun _ =>
    parallel_ledger.bind fun current other shares => ?_
  rw [shares.account? movement.source]
  split
  · exact parallel_throw _
  · split
    · exact parallel_throw _
    · exact .ite ((keeps_storedResult _ _).bind_same fun balance =>
        parallel_putLedger (shares.setBalance _ balance)) (parallel_throw _)

theorem keeps_credit (movement : Movement) :
    Keeps (World.Shares movement.owner) (credit movement) := by
  refine (keeps_checkWord _).bind_same fun _ =>
    parallel_ledger.bind fun current other shares => ?_
  rw [shares.account? movement.target]
  split
  · exact parallel_throw _
  · exact (keeps_storable _ _).bind_same fun _ => (keeps_storedResult _ _).bind_same fun balance =>
      parallel_putLedger (shares.setBalance _ balance)

/-- The rows of a transfer leave the other tables alone, whatever their numbers. -/
theorem parallel_writeRows (movement : Movement) (description : String) (date : Date) :
    Parallel (World.Shares owner) (fun _ _ => True) (World.Shares owner)
      (writeRows movement description date) (writeRows movement description date) := by
  refine (keeps_storable _ _).bind_same fun amount =>
    parallel_ledger.bind fun current other shares => ?_
  refine (parallel_putLedger
    ⟨shares.bindings, shares.accounts, shares.cards, shares.categories⟩).bind_same fun _ =>
      (keeps_failAt _ _).bind_same fun _ => parallel_ledger.bind fun later otherLater together => ?_
  exact (parallel_putLedger
    ⟨together.bindings, together.accounts, together.cards, together.categories⟩).bind_same
      fun _ => parallel_pure trivial

/-- A transfer is done alike if its rows are written alike. -/
theorem parallel_executeWith {write : Call Int} (movement : Movement)
    (same : Parallel (World.Shares movement.owner) (fun _ _ => True) (World.Shares movement.owner)
      write write) :
    Parallel (World.Shares movement.owner) (fun _ _ => True) (World.Shares movement.owner)
      (executeWith write movement) (executeWith write movement) := by
  refine (keeps_failAt _ _).bind_same fun _ => (keeps_failAt _ _).bind_same fun _ =>
    (parallel_visit _).bind ?_
  rintro _ _ ⟨rfl, rfl⟩
  exact Parallel.unit <| (keeps_checkQuiet _).bind_same fun _ => (keeps_debit _).bind_same
    fun _ => (keeps_credit _).bind_same fun _ => same

end Transfer

end Cashbook
