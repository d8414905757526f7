import Cashbook.Proofs.Calls.Units

/-!
# How calls fail

A call fails in the ways in which its steps do.  What is written where everything fits fails by a
fault of storage only.
-/

namespace Cashbook.Call

variable {Answer Next : Type} {call : Call Answer} {next : Answer → Call Next}
  {world after : World} {failure : Failure} {point : FaultPoint}

/-! ## Kinds of failures -/

section FailsAs

variable {kind : Failure → Prop}

/-- A call that fails in one kind of way only. -/
def FailsAs (kind : Failure → Prop) (call : Call Answer) : Prop :=
  ∀ ⦃world failure after⦄, call world = .error failure after → kind failure

theorem failsAs_pure (answer : Answer) : FailsAs kind (pure answer : Call Answer) := by
  rintro world failure after ⟨⟩

theorem failsAs_throw (of_kind : kind failure) : FailsAs kind (throw failure : Call Answer) := by
  rintro world _ after ⟨⟩
  exact of_kind

theorem failsAs_get : FailsAs kind (get : Call World) := by
  rintro world failure after ⟨⟩

theorem failsAs_ledger : FailsAs kind ledger := by
  rintro world failure after ⟨⟩

theorem FailsAs.bind (first : FailsAs kind call) (second : ∀ answer, FailsAs kind (next answer)) :
    FailsAs kind (call >>= next) := by
  intro world failure after run
  rcases bind_eq_error_iff.mp run with early | ⟨answer, middle, -, late⟩
  · exact first early
  · exact second answer late

theorem FailsAs.ite {condition : Prop} [Decidable condition] {other : Call Answer}
    (first : FailsAs kind call) (second : FailsAs kind other) :
    FailsAs kind (if condition then call else other) := by
  split_ifs
  · exact first
  · exact second

/-- A call that fails in no way gives an answer. -/
theorem FailsAs.exists_eq_ok (never : FailsAs (fun _ => False) call) (world : World) :
    ∃ answer after, call world = .ok answer after := by
  cases run : call world with
  | ok answer after => exact ⟨answer, after, rfl⟩
  | error failure after => exact (never run).elim

/-- What is done about a failure decides which failures are left. -/
theorem failsAs_tryCatch {handler : Failure → Call Answer}
    (rescue : ∀ failure, FailsAs kind (handler failure)) :
    FailsAs kind (tryCatch call handler) := by
  intro world failure after run
  rw [tryCatch_apply] at run
  cases step : call world with
  | ok answer middle => simp [step] at run
  | error early middle =>
      rw [step] at run
      exact rescue early run

theorem failsAs_failAt (of_kind : kind failure) : FailsAs kind (failAt point failure) := by
  intro world other after run
  rcases bind_eq_error_iff.mp run with early | ⟨shown, middle, -, late⟩
  · have sure : ∃ shown after, visit point world = .ok shown after := by
      unfold visit
      cases world.fault with
      | none => exact ⟨_, _, rfl⟩
      | some fault =>
          dsimp only
          split_ifs
          · exact ⟨_, _, rfl⟩
          · exact ⟨_, _, rfl⟩
          · exact ⟨_, _, rfl⟩
    rcases sure with ⟨shown, after, sure⟩
    rw [sure] at early
    cases early
  · exact FailsAs.ite (failsAs_throw of_kind) (failsAs_pure ()) late

theorem failsAs_ofArithmetic {result : Except Decimal.ArithmeticError Answer}
    (of_kind : ∀ error, kind (.arithmetic error)) : FailsAs kind (ofArithmetic result) := by
  cases result with
  | ok answer => exact failsAs_pure answer
  | error error => exact failsAs_throw (of_kind error)

theorem failsAs_ofCalendar {result : Except CalendarError Answer}
    (of_kind : ∀ error, kind (.calendar error)) : FailsAs kind (ofCalendar result) := by
  cases result with
  | ok answer => exact failsAs_pure answer
  | error error => exact failsAs_throw (of_kind error)

theorem failsAs_putLedger (new : Ledger) : FailsAs kind (putLedger new) := by
  rintro world failure after ⟨⟩

theorem failsAs_forM {Item : Type} {work : Item → Call PUnit} {items : List Item}
    (each : ∀ item ∈ items, FailsAs kind (work item)) : FailsAs kind (items.forM work) := by
  induction items with
  | nil => exact failsAs_pure _
  | cons item rest ih =>
      rw [List.forall_mem_cons] at each
      exact each.1.bind fun _ => ih each.2

theorem failsAs_atomically {work : Call Answer} (of_commit : kind (.writeFailed .insideUnit))
    (fails : FailsAs kind work) : FailsAs kind (atomically work) := by
  intro world failure after run
  have committed : FailsAs kind (do
      let answer ← work
      failAt .commit (.writeFailed .insideUnit)
      return answer) :=
    fails.bind fun _ => (failsAs_failAt of_commit).bind fun _ => failsAs_pure _
  unfold atomically at run
  split at run
  next => cases run
  next failed =>
    cases run
    exact committed failed

theorem failsAs_checkWord? {number : Option Int} (of_kind : kind .idTooLarge) :
    FailsAs kind (checkWord? number) := by
  cases number with
  | none => exact failsAs_pure ()
  | some number => exact .ite (failsAs_throw of_kind) (failsAs_pure ())

end FailsAs

/-! ## Failing because of faults only -/

/-- Is the failure the one of a write that storage has let down? -/
def IsFaulty (failure : Failure) : Prop :=
  failure = .writeFailed .insideUnit ∨ failure = .writeFailed .onEntry

/-- Does a call write all it should unless a fault shows? -/
def FailsByFault (call : Call Answer) (world : World) : Prop :=
  ∀ ⦃failure after⦄, call world = .error failure after → world.fault ≠ none ∧ IsFaulty failure

theorem failsByFault_of_eq_ok {answer : Answer} (run : call world = .ok answer after) :
    FailsByFault call world := by
  intro failure ended failed
  rw [run] at failed
  cases failed

theorem failsByFault_failAt (faulty : IsFaulty failure) :
    FailsByFault (failAt point failure) world := by
  intro other after run
  refine ⟨fun faultless => ?_, failsAs_failAt faulty run⟩
  rw [failAt_of_faultless faultless] at run
  cases run

theorem FailsByFault.bind (proceeds : Proceeds call) (first : FailsByFault call world)
    (second : ∀ answer middle, call world = .ok answer middle →
      FailsByFault (next answer) middle) : FailsByFault (call >>= next) world := by
  intro failure after run
  rcases bind_eq_error_iff.mp run with early | ⟨answer, middle, step, late⟩
  · exact first early
  · rcases second answer middle step late with ⟨armed, faulty⟩
    refine ⟨fun faultless => armed ?_, faulty⟩
    exact Option.eq_none_iff_forall_ne_some.mpr fun fault shown => by
      rcases (proceeds.of_ok step).fault fault shown with ⟨earlier, earlier_armed, -⟩
      simp [faultless] at earlier_armed

/-- A step that is done leaves the rest to fail. -/
theorem FailsByFault.bind_of_ok {answer : Answer} (proceeds : Proceeds call)
    (step : call world = .ok answer after) (rest : FailsByFault (next answer) after) :
    FailsByFault (call >>= next) world := by
  refine (failsByFault_of_eq_ok step).bind proceeds fun other middle run => ?_
  rw [step] at run
  cases run
  exact rest

/-- Work that fails by faults only is committed but for a fault. -/
theorem FailsByFault.atomically {work : Call Answer} (proceeds : Proceeds work)
    (sure : FailsByFault work world) : FailsByFault (atomically work) world := by
  have committed : FailsByFault (do
      let answer ← work
      failAt .commit (.writeFailed .insideUnit)
      return answer) world :=
    sure.bind proceeds fun answer middle _ =>
      (failsByFault_failAt (.inl rfl)).bind (reads_failAt _ _).proceeds fun _ _ _ =>
        failsByFault_of_eq_ok (pure_apply _ _)
  intro failure after run
  unfold Call.atomically at run
  split at run
  next => cases run
  next failed =>
    cases run
    exact committed failed

end Cashbook.Call
