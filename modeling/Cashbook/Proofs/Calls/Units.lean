import Cashbook.Proofs.Calls.Checking

/-!
# Units of work

A unit of work leaves the ledger alone when it fails, and so does a call that comes to its unit by
reading and cannot fail behind it.
-/

namespace Cashbook.Call

variable {Answer Next : Type} {call : Call Answer} {next : Answer → Call Next}
  {world after : World} {failure : Failure} {point : FaultPoint}

/-- A call that leaves the ledger alone when it fails, unless another transfer slips in. -/
structure Atomic (call : Call Answer) : Prop where
  proceeds : Proceeds call
  ledger_of_error : ∀ {world failure after}, world.IsRaceless →
    call world = .error failure after → after.ledger = world.ledger

theorem Reads.atomic (reads : Reads call) : Atomic call :=
  ⟨reads.proceeds, fun _ run => (reads.of_error run).ledger⟩

/-- What reads first is still atomic. -/
theorem Reads.bind_atomic (first : Reads call) (second : ∀ answer, Atomic (next answer)) :
    Atomic (call >>= next) := by
  refine ⟨first.proceeds.bind fun answer => (second answer).proceeds, ?_⟩
  intro world failure after raceless run
  rcases bind_eq_error_iff.mp run with early | ⟨answer, middle, step, late⟩
  · exact (first.of_error early).ledger
  · have rests := first.of_ok step
    rw [(second answer).ledger_of_error (rests.isRaceless raceless) late, rests.ledger]

/-- What cannot fail afterwards is still atomic. -/
theorem Atomic.bind_sure (atomic : Atomic call)
    (sure : ∀ answer, ∃ last, next answer = (pure last : Call Next)) : Atomic (call >>= next) := by
  refine ⟨atomic.proceeds.bind fun answer => ?_, ?_⟩
  · rcases sure answer with ⟨last, same⟩
    rw [same]
    exact respects_pure last
  · intro world failure after raceless run
    rcases bind_eq_error_iff.mp run with early | ⟨answer, middle, step, late⟩
    · exact atomic.ledger_of_error raceless early
    · rcases sure answer with ⟨last, same⟩
      rw [same] at late
      cases late

theorem Atomic.bind_pure (atomic : Atomic call) (change : Answer → Next) :
    Atomic (call >>= fun answer => pure (change answer)) :=
  atomic.bind_sure fun answer => ⟨change answer, rfl⟩

theorem Atomic.map (atomic : Atomic call) (change : Answer → Next) : Atomic (change <$> call) := by
  rw [map_eq_bind]
  exact atomic.bind_pure change

theorem Atomic.ite {condition : Prop} [Decidable condition] {other : Call Answer}
    (first : Atomic call) (second : Atomic other) :
    Atomic (if condition then call else other) := by
  split_ifs
  · exact first
  · exact second

/-- What is done about a failure does not write, so the ledger is left alone all the same. -/
theorem Atomic.tryCatch {handler : Failure → Call Answer} (atomic : Atomic call)
    (rescue : ∀ failure, Reads (handler failure)) : Atomic (tryCatch call handler) := by
  refine ⟨atomic.proceeds.tryCatch fun failure => (rescue failure).proceeds, ?_⟩
  intro world failure after raceless run
  rw [tryCatch_apply] at run
  cases step : call world with
  | ok answer middle => simp [step] at run
  | error early middle =>
      rw [step] at run
      rw [((rescue early).of_error run).ledger, atomic.ledger_of_error raceless step]

theorem proceeds_atomically {work : Call Answer} (proceeds : Proceeds work) :
    Proceeds (atomically work) := by
  have committed : Proceeds (do
      let answer ← work
      failAt .commit (.writeFailed .insideUnit)
      return answer) :=
    proceeds.bind fun _ => (reads_failAt _ _).proceeds.bind fun _ => respects_pure _
  intro world
  unfold worldAfter atomically
  split
  next answer after run =>
    split at run
    next done => exact committed.of_ok (done.trans run)
    next => cases run
  next failure after run =>
    split at run
    next => cases run
    next failed =>
      cases run
      exact (committed.of_error failed).trans (World.follows_putLedger _ _)

theorem atomic_atomically {work : Call Answer} (proceeds : Proceeds work) :
    Atomic (atomically work) :=
  ⟨proceeds_atomically proceeds, fun _ => ledger_of_atomically_error⟩

/-- A call that leaves the ledger alone when it fails, whatever slips in. -/
def Restores (call : Call Answer) : Prop :=
  ∀ ⦃world failure after⦄, call world = .error failure after → after.ledger = world.ledger

theorem Reads.restores (reads : Reads call) : Restores call :=
  fun _ _ _ run => (reads.of_error run).ledger

/-- What reads first still leaves the ledger alone when it fails. -/
theorem Reads.bind_restores (first : Reads call) (second : ∀ answer, Restores (next answer)) :
    Restores (call >>= next) := by
  intro world failure after run
  rcases bind_eq_error_iff.mp run with early | ⟨answer, middle, step, late⟩
  · exact (first.of_error early).ledger
  · rw [second answer late, (first.of_ok step).ledger]

/-- What cannot fail afterwards changes nothing about that. -/
theorem Restores.bind_pure (restores : Restores call) (change : Answer → Next) :
    Restores (call >>= fun answer => pure (change answer)) := by
  intro world failure after run
  rcases bind_eq_error_iff.mp run with early | ⟨answer, middle, step, late⟩
  · exact restores early
  · cases late

theorem Restores.map (restores : Restores call) (change : Answer → Next) :
    Restores (change <$> call) := by
  rw [map_eq_bind]
  exact restores.bind_pure change

theorem Restores.ite {condition : Prop} [Decidable condition] {other : Call Answer}
    (first : Restores call) (second : Restores other) :
    Restores (if condition then call else other) := by
  split_ifs
  · exact first
  · exact second

/-- What is done about a failure does not write. -/
theorem Restores.tryCatch {handler : Failure → Call Answer} (restores : Restores call)
    (rescue : ∀ failure, Reads (handler failure)) : Restores (tryCatch call handler) := by
  intro world failure after run
  rw [tryCatch_apply] at run
  cases step : call world with
  | ok answer middle => simp [step] at run
  | error early middle =>
      rw [step] at run
      rw [((rescue early).of_error run).ledger, restores step]

theorem restores_atomically (work : Call Answer) : Restores (atomically work) :=
  fun _ _ _ => ledger_of_atomically_error

/-- A unit of work that is committed has done its work. -/
theorem atomically_eq_ok {work : Call Answer} {answer : Answer}
    (run : atomically work world = .ok answer after) :
    ∃ middle, work world = .ok answer middle ∧ middle.Rests after := by
  unfold atomically at run
  split at run
  next done =>
    cases run
    rcases bind_eq_ok_iff.mp done with ⟨first, middle, worked, rest⟩
    rcases bind_eq_ok_iff.mp rest with ⟨_, last, committed, ended⟩
    cases ended
    exact ⟨middle, worked, (reads_failAt _ _).of_ok committed⟩
  next => cases run

/-- A unit of work is committed exactly when it is done and the commit is passed. -/
theorem atomically_eq_ok_iff {work : Call Answer} {answer : Answer} :
    atomically work world = .ok answer after ↔ ∃ middle fault, work world = .ok answer middle
      ∧ pass? .commit middle.fault = some fault ∧ after = { middle with fault := fault } := by
  have kept : atomically work world = .ok answer after ↔ (do
      let answer ← work
      failAt .commit (.writeFailed .insideUnit)
      return answer : Call Answer) world = .ok answer after := by
    unfold atomically
    cases (do
      let answer ← work
      failAt .commit (.writeFailed .insideUnit)
      return answer : Call Answer) world <;> simp
  rw [kept]
  constructor
  · intro run
    rcases bind_eq_ok_iff.mp run with ⟨first, middle, worked, rest⟩
    rcases bind_eq_ok_iff.mp rest with ⟨_, last, committed, ended⟩
    rcases failAt_eq_ok_iff.mp committed with ⟨fault, passed, rfl⟩
    cases ended
    exact ⟨middle, fault, worked, passed, rfl⟩
  · rintro ⟨middle, fault, worked, passed, rfl⟩
    rw [bind_of_ok worked, bind_of_ok (failAt_eq_ok_iff.mpr ⟨fault, passed, rfl⟩)]
    rfl

/-- A unit of work that never comes to its end gives up all it did. -/
theorem reads_atomically {work : Call Answer} (proceeds : Proceeds work)
    (fails : ∀ world answer after, atomically work world ≠ .ok answer after) :
    Reads (atomically work) := by
  intro world
  cases run : atomically work world with
  | ok answer after => exact absurd run (fails world answer after)
  | error failure after =>
      rw [worldAfter_of_error run]
      exact ⟨(proceeds_atomically proceeds).of_error run, ledger_of_atomically_error run⟩

/-- A unit of work that fails gives up all it did to the ledger. -/
theorem atomically_of_error {work : Call Answer} (failed : work world = .error failure after) :
    atomically work world = .error failure { after with ledger := world.ledger } := by
  unfold atomically
  rw [bind_of_error failed]

/-- Where the commit does not fail, work that is done is committed. -/
theorem atomically_of_committable {work : Call Answer} {answer : Answer}
    (worked : work world = .ok answer after)
    (committable : ∀ fault, after.fault = some fault → fault.point ≠ .commit) :
    atomically work world = .ok answer after := by
  unfold atomically
  rw [bind_of_ok worked, bind_of_ok (failAt_of_point_ne committable _)]
  rfl

/-- Without a fault, work that is done is committed. -/
theorem atomically_of_faultless {work : Call Answer} {answer : Answer}
    (worked : work world = .ok answer after) (faultless : after.fault = none) :
    atomically work world = .ok answer after :=
  atomically_of_committable worked (World.point_ne_of_faultless faultless _)

end Cashbook.Call
