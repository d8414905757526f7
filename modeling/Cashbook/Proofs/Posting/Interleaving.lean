import Cashbook.Proofs.Ledger.Events
import Cashbook.Proofs.Ledger.Solvency
import Cashbook.Proofs.Posting.Requests
import Mathlib.Data.List.Induction

/-!
# Requests that come at the same time

A request is checked in one step and carried out in another one, and between the two any number of
other requests and incomes may have their turns.  What a request was checked against may then be
out of date.  Still no balance falls below zero, because a transfer looks at the source again; and
each request moves its money once or not at all.
-/

namespace Cashbook

open Call

/-! ## Requests under way -/

/-- How far a request has come. -/
inductive Stage where
  | waiting
  | checked
  | done (id : Int)
  | refused (failure : Failure)
deriving DecidableEq

/-- Has a request come to an end? -/
def Stage.HasEnded : Stage → Prop
  | waiting | checked => False
  | done _ | refused _ => True

/-- How many turns a request has taken, up to two. -/
def Stage.turnsTaken : Stage → Nat
  | waiting => 0
  | checked => 1
  | done _ | refused _ => 2

theorem Stage.hasEnded_of_turnsTaken {stage : Stage} (taken : 2 ≤ stage.turnsTaken) :
    stage.HasEnded := by
  cases stage with
  | waiting => simp [turnsTaken] at taken
  | checked => simp [turnsTaken] at taken
  | done id => trivial
  | refused failure => trivial

/-- A request that is under way. -/
structure Attempt where
  movement : Movement
  description : Option String
  stage : Stage := .waiting
deriving DecidableEq

namespace Attempt

/-- The stage after the next turn of a request, and the world that the turn leaves behind. -/
def advance (attempt : Attempt) (world : World) : Stage × World :=
  match attempt.stage with
  | .waiting =>
      match attempt.movement.validate world with
      | .ok _ after => (.checked, after)
      | .error failure after => (.refused failure, after)
  | .checked =>
      match Transfer.execute attempt.movement (Movement.describe attempt.description) world.today
        world with
      | .ok id after => (.done id, after)
      | .error failure after => (.refused failure, after)
  | stage => (stage, world)

/-- Two turns without another one in between are the request. -/
theorem advance_advance {movement : Movement} {description : Option String} {stage : Stage}
    {world middle : World}
    (first : advance ⟨movement, description, .waiting⟩ world = (stage, middle)) :
    advance ⟨movement, description, stage⟩ middle
      = match Movement.request movement.owner movement.source movement.target
          (some movement.amount) description world with
        | .ok id after => (.done id, after)
        | .error failure after => (.refused failure, after) := by
  rw [Movement.request_eq]
  cases check : movement.validate world with
  | error failure checked =>
      rw [bind_of_error check]
      simp only [advance, check] at first
      rcases Prod.mk.inj first with ⟨rfl, rfl⟩
      rfl
  | ok _ checked =>
      rw [bind_of_ok check, bind_of_ok (get_apply _)]
      simp only [advance, check] at first
      rcases Prod.mk.inj first with ⟨rfl, rfl⟩
      rfl

end Attempt

/-- A world where requests are under way. -/
structure Traffic where
  world : World
  attempts : List Attempt

/-- Who has the next turn. -/
inductive Turn where
  /-- The clock is set, and storage is about to fail somewhere or nowhere. -/
  | wait (today : Date) (now : Instant) (fault : Option Fault)
  /-- A batch of entries is written. -/
  | record (entries : List NewEntry)
  /-- A request takes its next step. -/
  | advance (index : Nat)

namespace Turn

/-- Is this a turn of a request? -/
def isOf (index : Nat) : Turn → Bool
  | advance other => other == index
  | _ => false

/-- Does no other transfer slip in unseen, and is nothing but income written? -/
def IsOrdinary : Turn → Prop
  | wait _ _ fault => ∀ shown, fault = some shown → shown.point ≠ .race
  | record entries => ∀ entry ∈ entries, Entry.IsIncome entry
  | advance _ => True

end Turn

namespace Traffic

/-- What a turn makes of the traffic. -/
def next (traffic : Traffic) : Turn → Traffic
  | .wait today now fault =>
      { traffic with world := { traffic.world with today := today, now := now, fault := fault } }
  | .record entries => { traffic with world := (Entry.record entries).worldAfter traffic.world }
  | .advance index =>
      match traffic.attempts[index]? with
      | none => traffic
      | some attempt =>
          let (stage, after) := attempt.advance traffic.world
          ⟨after, traffic.attempts.set index { attempt with stage := stage }⟩

/-- What turns make of the traffic, one after another. -/
def run (traffic : Traffic) (turns : List Turn) : Traffic :=
  turns.foldl next traffic

end Traffic

/-! ## What has been done -/

namespace Traffic

/-- Does a turn leave the ledger as it finds it? -/
def LeavesLedger (traffic : Traffic) (turn : Turn) : Prop :=
  (traffic.next turn).world.ledger = traffic.world.ledger

/-- A turn that is no request's writes the batch that it answers with numbers, and nothing else. -/
def OnlyRecords (traffic : Traffic) : Turn → Prop
  | .record entries =>
      match Entry.record entries traffic.world with
      | .ok ids _ =>
          Entry.Recorded entries ids traffic.world.ledger
            (traffic.next (.record entries)).world.ledger
      | .error .. => traffic.LeavesLedger (.record entries)
  | turn => traffic.LeavesLedger turn

/-- A request has moved its money in one of its turns, if it is done, and all its other turns have
left the ledger alone. -/
structure HasServed (start : Traffic) (turns : List Turn) (index : Nat) (attempt : Attempt)
    (stage : Stage) : Prop where
  idle : (∀ id, stage ≠ .done id) → ∀ earlier, earlier ++ [.advance index] <+: turns →
    (start.run earlier).LeavesLedger (.advance index)
  once : ∀ id, stage = .done id → ∃ earlier, earlier ++ [.advance index] <+: turns
    ∧ Transfer.Effect attempt.movement (Movement.describe attempt.description)
        (start.run earlier).world.today (start.run earlier).world.ledger id
        ((start.run earlier).next (.advance index)).world.ledger
    ∧ ∀ other ≠ earlier, other ++ [.advance index] <+: turns →
        (start.run other).LeavesLedger (.advance index)

end Traffic

/-! ## One turn -/

/-- A turn of a request moves its money, if it was checked, or leaves the ledger alone. -/
theorem Attempt.advance_cases {attempt : Attempt} {world after : World} {stage : Stage}
    (raceless : world.IsRaceless) (run : attempt.advance world = (stage, after)) :
    world.Follows after ∧ min 2 (attempt.stage.turnsTaken + 1) ≤ stage.turnsTaken
    ∧ (after.ledger = world.ledger ∧ (∀ id, stage = .done id ↔ attempt.stage = .done id)
        ∧ (stage = .checked → attempt.movement.amount.IsUnsigned)
      ∨ attempt.stage = .checked ∧ ∃ id, stage = .done id
        ∧ Transfer.Effect attempt.movement (Movement.describe attempt.description) world.today
            world.ledger id after.ledger) := by
  rcases attempt with ⟨movement, description, reached⟩
  cases reached with
  | waiting =>
      cases check : movement.validate world with
      | ok _ middle =>
          simp only [advance, check] at run
          rcases Prod.mk.inj run with ⟨rfl, rfl⟩
          have rests := (Movement.reads_validate movement).of_ok check
          refine ⟨rests.toFollows, le_rfl, .inl ⟨rests.ledger, by simp, fun _ => ?_⟩⟩
          exact Decimal.isUnsigned_of_isNotPositive (Movement.validate_eq_ok check).2.1
      | error failure middle =>
          simp only [advance, check] at run
          rcases Prod.mk.inj run with ⟨rfl, rfl⟩
          have rests := (Movement.reads_validate movement).of_error check
          exact ⟨rests.toFollows, Nat.le_succ 1, .inl ⟨rests.ledger, by simp, nofun⟩⟩
  | checked =>
      have atomic := Transfer.atomic_execute movement (Movement.describe description) world.today
      cases work : Transfer.execute movement (Movement.describe description) world.today world with
      | ok id middle =>
          simp only [advance, work] at run
          rcases Prod.mk.inj run with ⟨rfl, rfl⟩
          exact ⟨atomic.proceeds.of_ok work, le_rfl,
            .inr ⟨rfl, id, rfl, Transfer.effect_of_execute_eq_ok raceless work⟩⟩
      | error failure middle =>
          simp only [advance, work] at run
          rcases Prod.mk.inj run with ⟨rfl, rfl⟩
          exact ⟨atomic.proceeds.of_error work, le_rfl,
            .inl ⟨atomic.ledger_of_error raceless work, by simp, nofun⟩⟩
  | done id =>
      rcases Prod.mk.inj run with ⟨rfl, rfl⟩
      exact ⟨World.Follows.refl world, min_le_left _ _, .inl ⟨rfl, fun _ => Iff.rfl, nofun⟩⟩
  | refused failure =>
      rcases Prod.mk.inj run with ⟨rfl, rfl⟩
      exact ⟨World.Follows.refl world, min_le_left _ _, .inl ⟨rfl, fun _ => Iff.rfl, nofun⟩⟩

namespace Traffic

variable {start now : Traffic} {turns : List Turn} {turn : Turn}

/-- One more turn goes on from where the turns before have led. -/
theorem run_append_singleton (start : Traffic) (turns : List Turn) (turn : Turn) :
    start.run (turns ++ [turn]) = (start.run turns).next turn := by
  rw [run, List.foldl_append]
  rfl

/-- The turns of a longer run are the last one and those of the shorter run. -/
theorem prefix_append_singleton_iff {earlier : List Turn} {own last : Turn} :
    earlier ++ [own] <+: turns ++ [last]
      ↔ earlier = turns ∧ own = last ∨ earlier ++ [own] <+: turns := by
  rw [List.prefix_concat_iff, List.append_singleton_inj]

namespace HasServed

variable {attempt : Attempt} {index : Nat} {stage later : Stage}

/-- A turn that leaves the ledger alone changes nothing about what a request has done. -/
theorem append_idle (served : start.HasServed turns index attempt stage)
    (leaves : turn = .advance index → (start.run turns).LeavesLedger turn)
    (same : ∀ id, later = .done id ↔ stage = .done id) :
    start.HasServed (turns ++ [turn]) index attempt later where
  idle := by
    intro undone earlier comes
    rcases prefix_append_singleton_iff.mp comes with ⟨rfl, rfl⟩ | before
    · exact leaves rfl
    · exact served.idle (fun id => mt (same id).mpr (undone id)) earlier before
  once := by
    intro id done
    rcases served.once id ((same id).mp done) with ⟨earlier, comes, effect, others⟩
    refine ⟨earlier, prefix_append_singleton_iff.mpr (.inr comes), effect, ?_⟩
    intro other apart other_comes
    rcases prefix_append_singleton_iff.mp other_comes with ⟨rfl, rfl⟩ | before
    · exact leaves rfl
    · exact others other apart before

/-- A request that has done nothing so far does all it does in the turn that moves its money. -/
theorem append_move {id : Int} (served : start.HasServed turns index attempt stage)
    (undone : ∀ id, stage ≠ .done id)
    (effect : Transfer.Effect attempt.movement (Movement.describe attempt.description)
      (start.run turns).world.today (start.run turns).world.ledger id
      ((start.run turns).next (.advance index)).world.ledger) :
    start.HasServed (turns ++ [.advance index]) index attempt (.done id) where
  idle := fun other => absurd rfl (other id)
  once := by
    rintro _ ⟨⟩
    refine ⟨turns, List.prefix_rfl, effect, ?_⟩
    intro other apart other_comes
    rcases prefix_append_singleton_iff.mp other_comes with ⟨same, -⟩ | before
    · exact absurd same apart
    · exact served.idle undone other before

end HasServed

/-- What is known of a request after some turns. -/
structure Stands (start : Traffic) (turns : List Turn) (index : Nat) (attempt : Attempt)
    (stage : Stage) : Prop where
  served : start.HasServed turns index attempt stage
  taken : min 2 (turns.countP (Turn.isOf index)) ≤ stage.turnsTaken
  unsigned : stage = .checked → attempt.movement.amount.IsUnsigned

namespace Stands

variable {attempt : Attempt} {index : Nat} {stage later : Stage}

/-- The turns of others change nothing about a request. -/
theorem others (stands : start.Stands turns index attempt stage)
    (turn_other : turn.isOf index = false) :
    start.Stands (turns ++ [turn]) index attempt stage where
  served := by
    refine stands.served.append_idle ?_ fun _ => Iff.rfl
    rintro rfl
    simp [Turn.isOf] at turn_other
  taken := by
    have same : (turns ++ [turn]).countP (Turn.isOf index) = turns.countP (Turn.isOf index) := by
      simp [List.countP_append, turn_other]
    rw [same]
    exact stands.taken
  unsigned := stands.unsigned

/-- A turn of its own takes a request on. -/
theorem own (stands : start.Stands turns index attempt stage)
    (served : start.HasServed (turns ++ [.advance index]) index attempt later)
    (taken : min 2 (stage.turnsTaken + 1) ≤ later.turnsTaken)
    (unsigned : later = .checked → attempt.movement.amount.IsUnsigned) :
    start.Stands (turns ++ [.advance index]) index attempt later where
  served := served
  taken := by
    have one_more : (turns ++ [Turn.advance index]).countP (Turn.isOf index)
        = turns.countP (Turn.isOf index) + 1 := by
      simp [List.countP_append, Turn.isOf]
    have before := stands.taken
    rw [one_more]
    omega
  unsigned := unsigned

end Stands

/-- What holds after some turns. -/
structure IsSound (start : Traffic) (turns : List Turn) (now : Traffic) : Prop where
  raceless : now.world.IsRaceless
  solvent : now.world.ledger.IsSolvent
  length : now.attempts.length = start.attempts.length
  attempts : ∀ (index : Nat) (attempt : Attempt), start.attempts[index]? = some attempt →
    ∃ stage, now.attempts[index]? = some { attempt with stage := stage }
    ∧ start.Stands turns index attempt stage

/-- A turn that touches no request keeps what holds, if no balance falls below zero in it. -/
theorem IsSound.aside {world : World} (sound : start.IsSound turns now)
    (turn_aside : ∀ index attempt, start.attempts[index]? = some attempt → turn.isOf index = false)
    (raceless : world.IsRaceless) (solvent : world.ledger.IsSolvent) :
    start.IsSound (turns ++ [turn]) { now with world := world } where
  raceless := raceless
  solvent := solvent
  length := sound.length
  attempts := by
    intro index attempt made
    rcases sound.attempts index attempt made with ⟨stage, reached, stands⟩
    exact ⟨stage, reached, stands.others (turn_aside index attempt made)⟩

/-- A turn of a request takes that request on and leaves the others where they are. -/
theorem IsSound.advance {index : Nat} {attempt : Attempt} {stage : Stage} {world : World}
    (sound : start.IsSound turns now) (made : start.attempts[index]? = some attempt)
    (stands : start.Stands (turns ++ [.advance index]) index attempt stage)
    (raceless : world.IsRaceless) (solvent : world.ledger.IsSolvent) :
    start.IsSound (turns ++ [.advance index])
      ⟨world, now.attempts.set index { attempt with stage := stage }⟩ where
  raceless := raceless
  solvent := solvent
  length := by rw [List.length_set, sound.length]
  attempts := by
    intro other asked other_made
    by_cases same : other = index
    · subst same
      obtain rfl := Option.some.inj (made.symm.trans other_made)
      rcases sound.attempts other attempt made with ⟨earlier, reached, -⟩
      rcases List.getElem?_eq_some_iff.mp reached with ⟨within, -⟩
      exact ⟨stage, List.getElem?_set_self within, stands⟩
    · rcases sound.attempts other asked other_made with ⟨reached_stage, reached, other_stands⟩
      have apart : (Turn.advance index).isOf other = false := by
        rw [Turn.isOf, beq_eq_false_iff_ne]
        exact Ne.symm same
      refine ⟨reached_stage, ?_, other_stands.others apart⟩
      rw [List.getElem?_set_ne (Ne.symm same), reached]

/-- A batch is written as a whole or not at all. -/
theorem onlyRecords_record (raceless : now.world.IsRaceless) (entries : List NewEntry) :
    now.OnlyRecords (.record entries) := by
  simp only [OnlyRecords, LeavesLedger, Traffic.next]
  cases run : Entry.record entries now.world with
  | ok ids after =>
      rw [worldAfter_of_ok run]
      exact Entry.recorded_of_record_eq_ok run
  | error failure after =>
      rw [worldAfter_of_error run]
      exact (Entry.atomic_record entries).ledger_of_error raceless run

/-- Incomes keep what holds. -/
theorem IsSound.record {entries : List NewEntry} (sound : start.IsSound turns now)
    (incomes : ∀ entry ∈ entries, Entry.IsIncome entry) :
    start.IsSound (turns ++ [.record entries]) (now.next (.record entries)) := by
  have atomic := Entry.atomic_record entries
  have raceless := (atomic.proceeds now.world).isRaceless sound.raceless
  refine sound.aside (fun _ _ _ => rfl) raceless ?_
  cases run : Entry.record entries now.world with
  | ok ids after =>
      rw [worldAfter_of_ok run]
      exact Entry.isSolvent_of_record_eq_ok incomes run sound.solvent
  | error failure after =>
      rw [worldAfter_of_error run, atomic.ledger_of_error sound.raceless run]
      exact sound.solvent

/-- A turn of a request that nobody made changes nothing. -/
theorem next_advance_of_none {index : Nat} (length : now.attempts.length = start.attempts.length)
    (unmade : start.attempts[index]? = none) : now.next (.advance index) = now := by
  have absent : now.attempts[index]? = none := by
    rw [List.getElem?_eq_none_iff, length]
    exact List.getElem?_eq_none_iff.mp unmade
  simp only [Traffic.next, absent]

/-- A turn of a request moves its money as a whole or changes nothing, and keeps what holds. -/
theorem IsSound.advance_of_some {index : Nat} {attempt : Attempt}
    (sound : start.IsSound turns (start.run turns))
    (made : start.attempts[index]? = some attempt) :
    start.IsSound (turns ++ [.advance index]) ((start.run turns).next (.advance index)) := by
  rcases sound.attempts index attempt made with ⟨stage, reached, stands⟩
  generalize turn_run :
    ({ attempt with stage := stage } : Attempt).advance (start.run turns).world = result
  rcases result with ⟨later, after⟩
  have next_eq : (start.run turns).next (.advance index)
      = ⟨after, (start.run turns).attempts.set index { attempt with stage := later }⟩ := by
    simp only [Traffic.next, reached, turn_run]
  have now_after : ((start.run turns).next (.advance index)).world = after := by rw [next_eq]
  rcases Attempt.advance_cases sound.raceless turn_run with ⟨follows, taken, same | moved⟩
  · rcases same with ⟨ledger_eq, done_iff, unsigned⟩
    have leaves : (start.run turns).LeavesLedger (.advance index) := by
      rw [LeavesLedger, now_after, ledger_eq]
    rw [next_eq]
    refine sound.advance made (stands.own ?_ taken unsigned) (follows.isRaceless sound.raceless) ?_
    · exact stands.served.append_idle (fun _ => leaves) done_iff
    · rw [ledger_eq]
      exact sound.solvent
  · rcases moved with ⟨checked, id, rfl, effect⟩
    obtain rfl : stage = .checked := checked
    have served := stands.served.append_move nofun (by rw [now_after]; exact effect)
    rw [next_eq]
    exact sound.advance made (stands.own served taken nofun) (follows.isRaceless sound.raceless)
      (effect.isSolvent (stands.unsigned rfl) sound.solvent)

/-- What holds is kept by every turn. -/
theorem IsSound.next (sound : start.IsSound turns (start.run turns))
    (ordinary : turn.IsOrdinary) :
    start.IsSound (turns ++ [turn]) ((start.run turns).next turn) := by
  cases turn with
  | wait today time fault => exact sound.aside (fun _ _ _ => rfl) ordinary sound.solvent
  | record entries => exact sound.record ordinary
  | advance index =>
      cases made : start.attempts[index]? with
      | none =>
          rw [next_advance_of_none sound.length made]
          refine sound.aside ?_ sound.raceless sound.solvent
          intro other attempt other_made
          rw [Turn.isOf, beq_eq_false_iff_ne]
          rintro rfl
          cases made.symm.trans other_made
      | some attempt => exact sound.advance_of_some made

/-- Before any turn no request has done anything. -/
theorem isSound_nil (raceless : start.world.IsRaceless) (solvent : start.world.ledger.IsSolvent)
    (waiting : ∀ attempt ∈ start.attempts, attempt.stage = .waiting) :
    start.IsSound [] start where
  raceless := raceless
  solvent := solvent
  length := rfl
  attempts := by
    intro index attempt made
    have stage_eq := waiting attempt (List.mem_of_getElem? made)
    refine ⟨attempt.stage, made, ?_, Nat.zero_le _, by simp [stage_eq]⟩
    exact ⟨fun _ earlier comes => by simp at comes, fun id done => by simp [stage_eq] at done⟩

/-- What holds at the start is kept by all turns. -/
theorem IsSound.run (sound : start.IsSound [] start) (ordinary : ∀ turn ∈ turns, turn.IsOrdinary) :
    start.IsSound turns (start.run turns) := by
  induction turns using List.reverseRecOn with
  | nil => exact sound
  | append_singleton turns turn ih =>
      rw [List.forall_mem_append] at ordinary
      rw [run_append_singleton]
      exact (ih ordinary.1).next (ordinary.2 turn (List.mem_singleton_self turn))

/-- A turn that is no request's writes a batch or leaves the ledger alone. -/
theorem IsSound.onlyRecords (sound : start.IsSound turns now)
    (aside : ∀ index attempt, start.attempts[index]? = some attempt → turn.isOf index = false) :
    now.OnlyRecords turn := by
  cases turn with
  | wait today time fault => exact rfl
  | record entries => exact onlyRecords_record sound.raceless entries
  | advance index =>
      have unmade : start.attempts[index]? = none := by
        by_contra made
        rcases Option.ne_none_iff_exists'.mp made with ⟨attempt, made⟩
        simpa [Turn.isOf] using aside index attempt made
      rw [OnlyRecords, LeavesLedger, next_advance_of_none sound.length unmade]
      all_goals nofun

/-- In whatever order requests and incomes have their turns, no balance falls below zero on the
way.  A request that is done has moved its money in exactly one of its turns and has changed nothing
in the others; a request that is refused or still under way has changed nothing in any; with two
turns every request has ended.  Besides, nothing but the batches that are answered with numbers
changes the ledger. -/
theorem solvent_and_settled (raceless : start.world.IsRaceless)
    (solvent : start.world.ledger.IsSolvent)
    (waiting : ∀ attempt ∈ start.attempts, attempt.stage = .waiting)
    (ordinary : ∀ turn ∈ turns, turn.IsOrdinary) :
    (∀ earlier, earlier <+: turns → (start.run earlier).world.ledger.IsSolvent)
    ∧ (start.run turns).attempts.length = start.attempts.length
    ∧ (∀ (index : Nat) (attempt : Attempt), start.attempts[index]? = some attempt →
        ∃ stage, (start.run turns).attempts[index]? = some { attempt with stage := stage }
          ∧ start.HasServed turns index attempt stage
          ∧ (2 ≤ turns.countP (Turn.isOf index) → stage.HasEnded))
    ∧ ∀ earlier turn, earlier ++ [turn] <+: turns →
        (∀ index attempt, start.attempts[index]? = some attempt → turn.isOf index = false) →
        (start.run earlier).OnlyRecords turn := by
  have sound_before : ∀ earlier, earlier <+: turns →
      start.IsSound earlier (start.run earlier) := fun earlier comes =>
    (isSound_nil raceless solvent waiting).run fun turn here => ordinary turn (comes.subset here)
  have sound := sound_before turns List.prefix_rfl
  refine ⟨fun earlier comes => (sound_before earlier comes).solvent, sound.length, ?_, ?_⟩
  · intro index attempt made
    rcases sound.attempts index attempt made with ⟨stage, reached, stands⟩
    refine ⟨stage, reached, stands.served, fun twice => ?_⟩
    have taken := stands.taken
    rw [min_eq_left twice] at taken
    exact Stage.hasEnded_of_turnsTaken taken
  · intro earlier turn comes aside
    have before := (List.prefix_append earlier [turn]).trans comes
    exact (sound_before earlier before).onlyRecords aside

/-- Two requests for more than one account holds. -/
def rivals : Traffic where
  world := World.newYear.run
    [.create "ana" "Corrente" .checking (.ofCents false 100000),
     .create "ana" "Poupança" .savings (.ofCents false 20000)]
  attempts :=
    [{ movement := ⟨"ana", 1, 2, .ofCents false 50000⟩, description := none },
     { movement := ⟨"ana", 1, 2, .ofCents false 90000⟩, description := none }]

/-- A refund that comes in between. -/
def refund : NewEntry where
  owner := "ana"
  kind := .income
  amount := .ofCents false 5000
  description := "Reembolso"
  date := World.newYear.today
  account := some 2

/-- Both requests are checked before either moves its money. -/
def rivalTurns : List Turn :=
  [.advance 0, .advance 1, .advance 1, .record [refund], .advance 0]

/-- The request that moves its money last is refused, though its check had passed, and all its turns
have left the ledger alone. -/
theorem solvent_and_settled_rivals :
    (rivals.run rivalTurns).attempts.map Attempt.stage
      = [.refused (.insufficientFunds none), .done 1]
    ∧ (rivals.run rivalTurns).world.ledger.accounts.map (fun account => account.balance.toDecimal)
      = [.ofCents false 10000, .ofCents false 115000]
    ∧ (rivals.run rivalTurns).world.ledger.IsSolvent
    ∧ ∃ stage, (rivals.run rivalTurns).attempts[0]?
          = some { movement := ⟨"ana", 1, 2, .ofCents false 50000⟩,
                   description := none,
                   stage := stage }
        ∧ rivals.HasServed rivalTurns 0
            { movement := ⟨"ana", 1, 2, .ofCents false 50000⟩, description := none } stage
        ∧ (2 ≤ rivalTurns.countP (Turn.isOf 0) → stage.HasEnded) := by
  have faultless : rivals.world.fault = none := by decide +kernel
  have raceless : rivals.world.IsRaceless := by simp [World.IsRaceless, faultless]
  have income : Entry.IsIncome refund := by decide +kernel
  have ordinary : ∀ turn ∈ rivalTurns, turn.IsOrdinary := by
    simp [rivalTurns, Turn.IsOrdinary, income]
  have solved := solvent_and_settled raceless (by decide +kernel) (by decide +kernel) ordinary
  exact ⟨by decide +kernel, by decide +kernel, solved.1 _ List.prefix_rfl, solved.2.2.1 0 _ rfl⟩

end Traffic

end Cashbook
