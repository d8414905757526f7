import Cashbook.Proofs.Posting.Drafts

/-!
# What posting does to a ledger

Posting adds one transfer, or the rows of one schedule, or nothing.  A transfer that another one
slips in before begins from what that one has left; whatever the fault, a post that fails has added
nothing to the ledger that it begins from.
-/

namespace Cashbook

open Call Money

namespace Transfer

variable {movement : Movement} {description : String} {date : Date} {world middle : World}
  {begun : Ledger} {id : Int}

/-- The ledgers that a transfer may begin from: the one at hand, or, where another transfer slips
in, what that one makes of it. -/
inductive Begins (world : World) : Ledger → Prop where
  | alone : Begins world world.ledger
  | behind {fault : Fault} {rival : Movement} {id : Int} {begun : Ledger}
      (armed : world.fault = some fault) (point : fault.point = .race)
      (slips : fault.rival = some rival)
      (effect : Effect rival "race" world.today world.ledger id begun) : Begins world begun

/-- Where no other transfer slips in, a transfer begins from the ledger at hand. -/
theorem Begins.eq_of_isRaceless (begins : Begins world begun) (raceless : world.IsRaceless) :
    begun = world.ledger := by
  cases begins with
  | alone => rfl
  | behind armed point => exact absurd point (raceless _ armed)

/-- What a call has only read does not change where a transfer begins. -/
theorem Begins.of_rests (begins : Begins middle begun) (rests : world.Rests middle) :
    Begins world begun := by
  cases begins with
  | alone =>
      rw [rests.ledger]
      exact .alone
  | behind armed point slips effect =>
      rcases rests.fault _ armed with ⟨earlier, earlier_armed, same_point, same_rival⟩
      rw [rests.today, rests.ledger] at effect
      exact .behind earlier_armed (same_point.symm.trans point) (same_rival.symm.trans slips)
        effect

/-- The rival does all of its work before the transfer begins, or nothing. -/
theorem begins_performRival {fault : Fault} (armed : world.fault = some fault)
    (point : fault.point = .race) (rests : world.Rests middle) :
    Begins world (worldAfter (performRival fault.rival) middle).ledger := by
  cases slips : fault.rival with
  | none =>
      change Begins world middle.ledger
      rw [rests.ledger]
      exact .alone
  | some rival =>
      have performed : performRival (some rival) middle
          = (perform rival "race" middle.today >>= fun _ => pure ()) middle := rfl
      cases run : perform rival "race" middle.today middle with
      | ok id after =>
          rw [bind_of_ok run] at performed
          rw [worldAfter_of_ok performed]
          have effect := effect_of_perform_eq_ok run
          rw [rests.today, rests.ledger] at effect
          exact .behind armed point slips effect
      | error failure after =>
          rw [bind_of_error run] at performed
          rw [worldAfter_of_error performed, ledger_of_atomically_error run, rests.ledger]
          exact .alone

end Transfer

namespace Call

variable {Answer Next : Type} {call : Call Answer} {next : Answer → Call Next}
  {effect : Ledger → Answer → Ledger → Prop} {later : Ledger → Next → Ledger → Prop}
  {world middle after : World} {failure : Failure}

/-- Does a result tell of an effect on a ledger if it is an answer, and leave the ledger alone if
it is a failure? -/
def TellsOf (effect : Ledger → Answer → Ledger → Prop) (begun : Ledger) :
    EStateM.Result Failure World Answer → Prop
  | .ok answer after => effect begun answer after.ledger
  | .error _ after => after.ledger = begun

/-- Does a call have an effect on the ledger that it begins from if it succeeds, and none if it
fails? -/
def HasEffect (call : Call Answer) (effect : Ledger → Answer → Ledger → Prop) (world : World) :
    Prop :=
  ∃ begun, Transfer.Begins world begun ∧ TellsOf effect begun (call world)

theorem hasEffect_of_ok {answer : Answer} (run : call world = .ok answer after)
    (affected : effect world.ledger answer after.ledger) : HasEffect call effect world := by
  refine ⟨world.ledger, .alone, ?_⟩
  rw [run]
  exact affected

theorem hasEffect_of_error (run : call world = .error failure after)
    (kept : after.ledger = world.ledger) : HasEffect call effect world := by
  refine ⟨world.ledger, .alone, ?_⟩
  rw [run]
  exact kept

/-- The effect of what follows a step that has only read. -/
theorem HasEffect.bind_of_ok {answer : Answer} (rests : world.Rests middle)
    (step : call world = .ok answer middle) (rest : HasEffect (next answer) later middle) :
    HasEffect (call >>= next) later world := by
  rcases rest with ⟨begun, begins, ended⟩
  refine ⟨begun, begins.of_rests rests, ?_⟩
  rw [Call.bind_of_ok step]
  exact ended

/-- What is only read before has no effect. -/
theorem Reads.bind_hasEffect (first : Reads call)
    (rest : ∀ answer middle, call world = .ok answer middle →
      HasEffect (next answer) later middle) : HasEffect (call >>= next) later world := by
  cases step : call world with
  | ok answer middle => exact .bind_of_ok (first.of_ok step) step (rest answer middle step)
  | error failure middle =>
      exact hasEffect_of_error (bind_of_error step) (first.of_error step).ledger

/-- What cannot fail behind an effect and only reads leaves it as it is. -/
theorem HasEffect.bind_sure (affected : HasEffect call effect world)
    (sure : ∀ answer middle, call world = .ok answer middle →
      ∃ result, next answer middle = .ok result middle)
    (each : ∀ begun answer result after, effect begun answer after → later begun result after) :
    HasEffect (call >>= next) later world := by
  rcases affected with ⟨begun, begins, ended⟩
  refine ⟨begun, begins, ?_⟩
  cases step : call world with
  | ok answer middle =>
      rcases sure answer middle step with ⟨result, last⟩
      rw [step] at ended
      rw [Call.bind_of_ok step, last]
      exact each begun answer result middle.ledger ended
  | error failure middle =>
      rw [step] at ended
      rw [bind_of_error step]
      exact ended

theorem HasEffect.mono {other : Ledger → Answer → Ledger → Prop}
    (affected : HasEffect call effect world)
    (each : ∀ begun answer after, effect begun answer after → other begun answer after) :
    HasEffect call other world := by
  rcases affected with ⟨begun, begins, told⟩
  refine ⟨begun, begins, ?_⟩
  cases run : call world with
  | ok answer after =>
      rw [run] at told
      exact each begun answer after.ledger told
  | error failure after =>
      rw [run] at told
      exact told

end Call

/-! ## Transfers -/

/-- A unit of work that fails leaves the ledger as it begins. -/
theorem Transfer.perform_outcome (movement : Movement) (description : String) (date : Date)
    (world : World) :
    TellsOf (Effect movement description date) world.ledger
      (perform movement description date world) := by
  cases run : perform movement description date world with
  | ok id after => exact effect_of_perform_eq_ok run
  | error failure after => exact ledger_of_atomically_error run

/-- Behind a rival, a transfer does all of its work or nothing to what the rival has left. -/
theorem Transfer.behind_outcome {fault : Fault} {world middle : World}
    (movement : Movement) (description : String) (date : Date) (armed : world.fault = some fault)
    (point : fault.point = .race) (rests : world.Rests middle) :
    ∃ begun, Begins world begun ∧
      TellsOf (Effect movement description date) begun
        ((performRival fault.rival >>= fun _ => perform movement description date) middle) := by
  have begins := begins_performRival armed point rests
  refine ⟨_, begins, ?_⟩
  cases rival : performRival fault.rival middle with
  | ok _ left =>
      rw [worldAfter_of_ok rival, bind_of_ok rival]
      exact perform_outcome movement description date left
  | error failure left =>
      rw [worldAfter_of_error rival, bind_of_error rival]
      rfl

/-- A transfer does all of its work or nothing, whether another one slips in before or not. -/
theorem Transfer.hasEffect_execute (movement : Movement) (description : String) (date : Date)
    (world : World) :
    HasEffect (execute movement description date) (Effect movement description date) world := by
  apply Reads.bind_hasEffect (reads_failAt _ _)
  intro _ world _
  apply Reads.bind_hasEffect (reads_failAt _ _)
  intro _ world _
  cases race : visit .race world with
  | error failure middle =>
      exact hasEffect_of_error (bind_of_error race) ((reads_visit _).of_error race).ledger
  | ok shown middle =>
      have rests := (reads_visit _).of_ok race
      cases shown with
      | none =>
          apply HasEffect.bind_of_ok rests race
          exact ⟨middle.ledger, .alone, perform_outcome movement description date middle⟩
      | some fault =>
          rcases fault_of_visit_eq_ok race with ⟨armed, point⟩
          rcases behind_outcome movement description date armed point rests with
            ⟨begun, begins, ended⟩
          refine ⟨begun, begins, ?_⟩
          rw [bind_of_ok race]
          exact ended

/-- A request moves money or changes nothing. -/
theorem Movement.hasEffect_request (owner : String) (source target : Int) (amount : Decimal)
    (description : Option String) (world : World) :
    HasEffect (request owner source target (some amount) description)
      (Transfer.Effect ⟨owner, source, target, amount⟩ (describe description) world.today)
      world := by
  rw [request_eq]
  apply Reads.bind_hasEffect (reads_validate _)
  intro _ middle valid
  obtain rfl := (validate_eq_ok valid).1
  exact .bind_of_ok (.refl _) (get_apply _) (Transfer.hasEffect_execute ..)

/-! ## Drafts -/

/-- What posting a draft makes of a ledger: the rows of its schedule and what they add, or a
transfer. -/
inductive Draft.Effect (context : OwnerContext) (today : Date) (before : Ledger) :
    Draft → Ledger → Prop where
  | entries {draft : EntryDraft} {account : Option Account} {group : Option String}
      {entries : List NewEntry} {ids : List Int} {after : Ledger}
      (passes : draft.Passes context before account)
      (scheduled : draft.schedule context.owner (account.map Account.id) group today = .ok entries)
      (recorded : Entry.Recorded entries ids before after) :
      Effect context today before (.entry draft) after
  | transfer {draft : TransferDraft} {id : Int} {after : Ledger}
      (moved : Transfer.Effect ⟨context.owner, draft.source, draft.target, draft.amount⟩
        (Movement.describe (some draft.description)) today before id after) :
      Effect context today before (.transfer draft) after

/-- The rows of a schedule are one month apart. -/
theorem EntryDraft.date_of_schedule {draft : EntryDraft} {owner : String} {account : Option Int}
    {group : Option String} {today : Date} {entries : List NewEntry} {rows : List Entry}
    (scheduled : draft.schedule owner account group today = .ok entries)
    (of_entries : List.Forall₂ Entry.IsRowOf entries rows) (index : Nat)
    (inside : index < rows.length) :
    rows[index].date.IsMonthsAfter (draft.date.getD today) index := by
  rcases List.forall₂_iff_get.mp of_entries with ⟨rows_length, of_entry⟩
  have among_entries : index < entries.length := rows_length ▸ inside
  rcases of_entry index among_entries inside with ⟨id, stored, -, row_eq⟩
  have same : rows[index].date = entries[index].date := congrArg Entry.date row_eq
  rw [same]
  exact isMonthsAfter_of_schedule scheduled index among_entries

theorem EntryDraft.hasEffect_post (draft : EntryDraft) (context : OwnerContext) (world : World) :
    HasEffect (draft.post context)
      (fun begun _ after => Draft.Effect context world.today begun (.entry draft) after) world := by
  cases run : draft.post context world with
  | ok text after =>
      obtain ⟨account, entries, ids, passes, scheduled, record, -⟩ := post_eq_ok run
      have recorded := Entry.recorded_of_record_eq_ok record
      rw [ledger_named] at recorded
      exact hasEffect_of_ok run (.entries passes scheduled recorded)
  | error failure after => exact hasEffect_of_error run (restores_post draft context run)

/-- Once a transfer is written, its accounts are found, so the confirmation cannot fail. -/
theorem TransferDraft.hasEffect_post (draft : TransferDraft) (context : OwnerContext)
    (world : World) :
    HasEffect (draft.post context)
      (fun begun _ after => Draft.Effect context world.today begun (.transfer draft) after)
      world := by
  apply (Movement.hasEffect_request ..).bind_sure
  · intro id middle done
    rcases Movement.request_eq_ok done with ⟨given, checked, given_eq, valid, -⟩
    rcases Movement.validate_eq_ok valid with ⟨-, -, -, admitted⟩
    rw [bind_of_ok (Account.among_of_words admitted.source_word admitted.target_word ..)]
    exact ⟨_, rfl⟩
  · intro begun id text after moved
    exact .transfer moved

/-- A draft is posted as a whole or not at all. -/
theorem Draft.hasEffect_post (draft : Draft) (context : OwnerContext) (world : World) :
    HasEffect (draft.post context)
      (fun begun _ after => draft.Effect context world.today begun after) world := by
  cases draft with
  | entry draft => exact draft.hasEffect_post context world
  | transfer draft => exact draft.hasEffect_post context world

end Cashbook
