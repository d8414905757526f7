import Cashbook.Proofs.Invariants

/-!
# How a ledger comes about

Whatever is asked for, in whatever order and wherever storage fails, changes the ledger by its
writes only.  What every change keeps is therefore true of all ledgers that come about from the
empty one.
-/

namespace Cashbook

open Call

/-! ## Operations -/

theorem EntryDraft.evolves_post (draft : EntryDraft) (context : OwnerContext) :
    Evolves (draft.post context) := by
  apply evolves_of_change (restores_post draft context)
  intro world text after run
  obtain ⟨account, entries, ids, -, -, record, -⟩ := post_eq_ok run
  obtain ⟨-, -, -, -, -, -, -, new, -⟩ := Entry.record_eq_ok record
  rw [← ledger_named draft world]
  exact .recorded (Entry.recorded_of_record_eq_ok record) new

/-- To have come about from a ledger is kept by all ways of writing. -/
theorem isInvariant_evolves (origin : Ledger) :
    IsInvariant (fun world => origin.Evolves world.ledger) fun _ => True where
  prepares prepared evolved :=
    evolved.trans (Relation.ReflTransGen.mono (fun _ _ => Ledger.IsSetUp.change) _ _
      prepared.setUp)
  posts _ _ := fun world _ evolved => evolved.trans (EntryDraft.evolves_post _ _ world)
  moves _ := fun world evolved => evolved.trans (Transfer.evolves_perform _ _ _ world)
  rivals _ _ _ := trivial
  requests _ := trivial

/-- Every operation changes the ledger by its writes only. -/
theorem Operation.evolves_call (operation : Operation) : Evolves operation.call := by
  intro world
  exact (isInvariant_evolves world.ledger).maintains_operation
    (fun entries _ later evolved => evolved.trans (Entry.evolves_record entries later))
    (fun draft context later evolved => evolved.trans (draft.evolves_post context later))
    world .refl

theorem Step.evolves_call (step : Step) : Evolves step.call := by
  cases step with
  | wait today now fault => exact fun world => .refl
  | ask operation => exact operation.evolves_call

namespace World

/-- A world with an empty ledger. -/
def start (today : Date) (now : Instant) : World where
  ledger := .empty
  today := today
  now := now

/-- The world after steps, one after another; a step that fails does not stop the others. -/
def later (world : World) (steps : List Step) : World :=
  steps.foldl (fun world step => step.call.worldAfter world) world

/-- What each step keeps, all steps together keep. -/
theorem maintains_later {holds : World → Prop} {steps : List Step}
    (each : ∀ step ∈ steps, Call.Maintains holds step.call) (world : World)
    (started : holds world) : holds (world.later steps) := by
  induction steps generalizing world with
  | nil => exact started
  | cons step rest ih =>
      rw [List.forall_mem_cons] at each
      exact ih each.2 _ (each.1 world started)

theorem evolves_later (world : World) (steps : List Step) : world.Evolves (world.later steps) := by
  have kept : ∀ step ∈ steps,
      Call.Maintains (fun later => world.ledger.Evolves later.ledger) step.call :=
    fun step _ later evolved => evolved.trans (step.evolves_call later)
  exact maintains_later kept world .refl

/-- What the empty ledger has and every change keeps, all ledgers have that come about. -/
theorem holds_later {property : Ledger → Prop} (empty : property .empty)
    (change : ∀ before after, Ledger.Change before after → property before → property after)
    (today : Date) (now : Instant) (steps : List Step) :
    property ((start today now).later steps).ledger := by
  have evolves : Ledger.Evolves .empty ((start today now).later steps).ledger :=
    evolves_later (start today now) steps
  generalize ((start today now).later steps).ledger = ledger at evolves
  induction evolves with
  | refl => exact empty
  | tail _ last ih => exact change _ _ last ih

end World

end Cashbook
