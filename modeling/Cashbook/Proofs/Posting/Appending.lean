import Cashbook.Proofs.Ledger.Changes
import Cashbook.Proofs.Posting.Effects

/-!
# Entries are appended

Entries are only ever written behind those that are there.  A batch writes its own rows and a
transfer writes rows of its kind.
-/

namespace Cashbook

open Call

namespace Ledger

variable {new wider : Entry → Prop} {before middle after : Ledger}

/-- Does a ledger come about by appending entries of some kind? -/
def Appends (new : Entry → Prop) (before after : Ledger) : Prop :=
  ∃ rows, after.entries = before.entries ++ rows ∧ ∀ row ∈ rows, new row

theorem Appends.of_entries_eq (same : after.entries = before.entries) : Appends new before after :=
  ⟨[], by rw [same, List.append_nil], List.forall_mem_nil new⟩

theorem Appends.trans (first : Appends new before middle) (second : Appends new middle after) :
    Appends new before after := by
  rcases first with ⟨rows, middle_eq, first_new⟩
  rcases second with ⟨others, after_eq, second_new⟩
  refine ⟨rows ++ others, by rw [after_eq, middle_eq, List.append_assoc], ?_⟩
  exact List.forall_mem_append.mpr ⟨first_new, second_new⟩

theorem Appends.mono (appends : Appends new before after) (weaken : ∀ row, new row → wider row) :
    Appends wider before after := by
  rcases appends with ⟨rows, after_eq, all_new⟩
  exact ⟨rows, after_eq, fun row member => weaken row (all_new row member)⟩

/-- What is appended are the entries behind those that were there. -/
theorem Appends.of_drop (appends : Appends wider before after)
    (each : ∀ row ∈ after.entries.drop before.entries.length, new row) :
    Appends new before after := by
  rcases appends with ⟨rows, after_eq, -⟩
  rw [after_eq, List.drop_left] at each
  exact ⟨rows, after_eq, each⟩

/-- A transfer writes rows of its kind. -/
theorem appends_of_effect {movement : Movement} {description : String} {date : Date} {id : Int}
    (effect : Transfer.Effect movement description date before id after) :
    Appends (·.kind = .transfer) before after := by
  cases effect with
  | intro => exact ⟨_, rfl, by simp [Transfer.side]⟩

/-- A batch writes the rows of its entries. -/
theorem appends_of_recorded {entries : List NewEntry} {ids : List Int}
    (written : Entry.Recorded entries ids before after) :
    Appends (fun row => ∃ entry ∈ entries, Entry.IsRowOf entry row) before after := by
  rcases written.rows with ⟨rows, of_entries, -, after_eq⟩
  exact ⟨rows, after_eq, Entry.forall_mem_rows of_entries fun entry member row of_entry =>
    ⟨entry, member, of_entry⟩⟩

/-- No change takes entries away. -/
theorem Change.appends (change : Change before after) : Appends (fun _ => True) before after := by
  cases change with
  | recorded written => exact (appends_of_recorded written).mono fun _ _ => trivial
  | moved effect => exact (appends_of_effect effect).mono fun _ _ => trivial
  | bound | released | opened | closed | issued | named => exact .of_entries_eq rfl

theorem Evolves.appends (evolves : Evolves before after) :
    Appends (fun _ => True) before after := by
  induction evolves with
  | refl => exact .of_entries_eq rfl
  | tail _ last ih => exact ih.trans last.appends

end Ledger

/-! ## Calls -/

variable {Answer : Type} {call : Call Answer} {effect : Ledger → Answer → Ledger → Prop}
  {new : Entry → Prop} {world : World}

/-- A call appends what its effect writes, and the rows of a transfer that slips in. -/
theorem Call.HasEffect.appends (affected : HasEffect call effect world)
    (of_transfer : ∀ row : Entry, row.kind = .transfer → new row)
    (each : ∀ begun answer after, effect begun answer after → begun.Appends new after) :
    world.ledger.Appends new (call.worldAfter world).ledger := by
  rcases affected with ⟨begun, begins, ended⟩
  have begun_appends : world.ledger.Appends new begun := by
    cases begins with
    | alone => exact .of_entries_eq rfl
    | behind _ _ _ slipped => exact (Ledger.appends_of_effect slipped).mono of_transfer
  refine begun_appends.trans ?_
  cases run : call world with
  | ok answer after =>
      rw [run] at ended
      rw [worldAfter_of_ok run]
      exact each begun answer after.ledger ended
  | error failure after =>
      rw [run] at ended
      rw [worldAfter_of_error run]
      exact .of_entries_eq (congrArg Ledger.entries ended)

theorem Entry.appends_record (entries : List NewEntry) (world : World) :
    world.ledger.Appends (fun row => ∃ entry ∈ entries, IsRowOf entry row)
      ((record entries).worldAfter world).ledger := by
  cases run : record entries world with
  | ok ids after =>
      rw [worldAfter_of_ok run]
      exact Ledger.appends_of_recorded (recorded_of_record_eq_ok run)
  | error failure after =>
      rw [worldAfter_of_error run]
      exact .of_entries_eq (congrArg Ledger.entries (restores_record entries run))

/-- A transfer that slips in writes rows of its kind as well. -/
theorem Transfer.appends_execute (movement : Movement) (description : String) (date : Date)
    (world : World) :
    world.ledger.Appends (·.kind = .transfer)
      ((execute movement description date).worldAfter world).ledger :=
  (hasEffect_execute movement description date world).appends (fun _ transfer => transfer)
    fun _ _ _ effect => Ledger.appends_of_effect effect

/-- A draft is posted as rows of the owner that it is posted for. -/
theorem Draft.appends_post (draft : Draft) (context : OwnerContext) (world : World) :
    world.ledger.Appends (fun row => row.kind = .transfer ∨ row.owner = context.owner)
      ((draft.post context).worldAfter world).ledger := by
  refine (draft.hasEffect_post context world).appends (fun _ transfer => .inl transfer) ?_
  intro begun text after effect
  cases effect with
  | transfer moved => exact (Ledger.appends_of_effect moved).mono fun _ transfer => .inl transfer
  | @entries draft account group entries ids after passes scheduled recorded =>
    have own : ∀ entry ∈ entries, entry.owner = context.owner :=
      EntryDraft.forall_mem_schedule scheduled fun _ _ _ _ => rfl
    refine (Ledger.appends_of_recorded recorded).mono ?_
    rintro row ⟨entry, member, id, stored, -, rfl⟩
    exact .inr (own entry member)

end Cashbook
