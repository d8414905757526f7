import Cashbook.Proofs.Calls.Reading

/-!
# Where calls may stop

Storage may fail at certain places, and a call may refuse what it is given.  Neither changes the
ledger: a place is passed unless the fault shows, and a check that passes changes nothing.
-/

namespace Cashbook.Call

variable {Answer Next : Type} {call : Call Answer} {next : Answer → Call Next}
  {world after : World} {failure : Failure} {point : FaultPoint}

/-! ## Places where storage may fail -/

theorem reads_visit (point : FaultPoint) : Reads (visit point) := by
  intro world
  unfold worldAfter visit
  cases armed : world.fault with
  | none => exact World.Rests.refl world
  | some fault =>
      dsimp only
      split_ifs
      · exact ⟨⟨rfl, rfl, by simp, le_rfl⟩, rfl⟩
      · refine ⟨⟨rfl, rfl, ?_, le_rfl⟩, rfl⟩
        intro later later_armed
        obtain rfl := Option.some.inj later_armed
        exact ⟨fault, armed, rfl, rfl⟩
      · exact World.Rests.refl world

theorem reads_failAt (point : FaultPoint) (failure : Failure) : Reads (failAt point failure) := by
  refine (reads_visit point).bind fun shown => ?_
  exact .ite (respects_throw failure) (respects_pure ())

/-- Nothing shows where no fault is armed. -/
theorem visit_of_faultless (faultless : world.fault = none) (point : FaultPoint) :
    visit point world = .ok none world := by
  simp [visit, faultless]

/-- Nothing shows where something else is armed. -/
theorem visit_of_point_ne (elsewhere : ∀ fault, world.fault = some fault → fault.point ≠ point) :
    visit point world = .ok none world := by
  unfold visit
  cases armed : world.fault with
  | none => rfl
  | some fault => simp [elsewhere fault armed]

/-- What shows was armed for the place. -/
theorem fault_of_visit_eq_ok {fault : Fault} (run : visit point world = .ok (some fault) after) :
    world.fault = some fault ∧ fault.point = point := by
  unfold visit at run
  split at run
  next => cases run
  next armed =>
    split_ifs at run with here
    · cases run
      exact ⟨armed, here⟩
    · cases run
    · cases run

/-- No other transfer slips in where none is about to. -/
theorem visit_race_of_isRaceless (raceless : world.IsRaceless) :
    visit .race world = .ok none world :=
  visit_of_point_ne raceless

theorem failAt_of_faultless (faultless : world.fault = none) (point : FaultPoint)
    (failure : Failure) : failAt point failure world = .ok () world := by
  rw [failAt, bind_of_ok (visit_of_faultless faultless point)]
  rfl

theorem failAt_of_point_ne (elsewhere : ∀ fault, world.fault = some fault → fault.point ≠ point)
    (failure : Failure) : failAt point failure world = .ok () world := by
  rw [failAt, bind_of_ok (visit_of_point_ne elsewhere)]
  rfl

/-- What is left of an armed fault when a place is visited and it does not show there. -/
def pass? (point : FaultPoint) : Option Fault → Option (Option Fault)
  | none => some none
  | some fault =>
      if fault.point = point then
        if fault.countdown = 1 then none
        else some (some { fault with countdown := fault.countdown - 1 })
      else
        some (some fault)

/-- What is left of an armed fault when a place is visited so many times. -/
def passEach? (point : FaultPoint) : Nat → Option Fault → Option (Option Fault)
  | 0, fault => some fault
  | times + 1, fault => (pass? point fault).bind (passEach? point times)

theorem passEach?_none (point : FaultPoint) (times : Nat) :
    passEach? point times none = some none := by
  induction times with
  | zero => rfl
  | succ times ih => exact ih

theorem failAt_eq (point : FaultPoint) (failure : Failure) (world : World) :
    failAt point failure world = match pass? point world.fault with
      | some fault => .ok () { world with fault := fault }
      | none => .error failure { world with fault := none } := by
  obtain ⟨current, today, now, armed, named⟩ := world
  cases armed with
  | none => rfl
  | some fault =>
      by_cases here : fault.point = point
      · by_cases last : fault.countdown = 1
        · have shown : visit point ⟨current, today, now, some fault, named⟩
              = .ok (some fault) ⟨current, today, now, none, named⟩ := by
            simp only [visit, here, last, if_true]
          rw [failAt, bind_of_ok shown]
          simp only [pass?, here, last, if_true]
          rfl
        · have waits : visit point ⟨current, today, now, some fault, named⟩
              = .ok none ⟨current, today, now,
                some { fault with countdown := fault.countdown - 1 }, named⟩ := by
            simp only [visit, here, last, if_true, if_false]
          rw [failAt, bind_of_ok waits]
          simp only [pass?, here, last, if_true, if_false]
          rfl
      · have elsewhere : visit point ⟨current, today, now, some fault, named⟩
            = .ok none ⟨current, today, now, some fault, named⟩ := by
          simp only [visit, here, if_false]
        rw [failAt, bind_of_ok elsewhere]
        simp only [pass?, here, if_false]
        rfl

/-- A place is passed unless the fault shows, and nothing but the fault changes. -/
theorem failAt_eq_ok_iff : failAt point failure world = .ok () after ↔
    ∃ fault, pass? point world.fault = some fault ∧ after = { world with fault := fault } := by
  rw [failAt_eq]
  cases pass? point world.fault with
  | none => simp
  | some fault =>
      constructor
      · rintro ⟨⟩
        exact ⟨fault, rfl, rfl⟩
      · rintro ⟨_, ⟨⟩, rfl⟩
        rfl

/-! ## Checks -/

theorem reads_checkWord (number : Int) : Reads (checkWord number) :=
  .ite (respects_throw _) (respects_pure ())

theorem reads_checkWord? (number : Option Int) : Reads (checkWord? number) := by
  cases number with
  | none => exact respects_pure ()
  | some number => exact reads_checkWord number

theorem reads_checkQuiet (amount : Decimal) : Reads (checkQuiet amount) :=
  .ite (respects_throw _) (respects_pure ())

theorem reads_storable (column : String) (amount : Decimal) : Reads (storable column amount) := by
  unfold storable
  split
  · exact respects_pure _
  · exact respects_throw _

theorem reads_storedResult (column : String) (result : Option Money.Stored) :
    Reads (storedResult column result) := by
  cases result with
  | none => exact respects_throw _
  | some stored => exact respects_pure stored

theorem reads_ofArithmetic (result : Except Decimal.ArithmeticError Answer) :
    Reads (ofArithmetic result) := by
  cases result with
  | ok answer => exact respects_pure answer
  | error error => exact respects_throw _

theorem reads_ofCalendar (result : Except CalendarError Answer) : Reads (ofCalendar result) := by
  cases result with
  | ok answer => exact respects_pure answer
  | error error => exact respects_throw _

/-- A check of 64 bits that passes changes nothing. -/
theorem checkWord_eq_ok_iff {number : Int} :
    checkWord number world = .ok () after ↔ Integer.isWord number = true ∧ after = world := by
  unfold checkWord
  cases Integer.isWord number <;> simp [throw_apply, pure_apply, eq_comm]

/-- A number beyond 64 bits does not pass. -/
theorem checkWord_of_not_isWord {number : Int} (large : Integer.isWord number = false) :
    checkWord number world = .error .idTooLarge world := by
  rw [checkWord, large]
  rfl

theorem checkWord?_eq_ok_iff {number : Option Int} :
    checkWord? number world = .ok () after ↔
      (∀ given, number = some given → Integer.isWord given = true) ∧ after = world := by
  cases number with
  | none =>
      constructor
      · rintro ⟨⟩
        exact ⟨by simp, rfl⟩
      · rintro ⟨-, rfl⟩
        rfl
  | some number =>
      rw [checkWord?, checkWord_eq_ok_iff]
      simp only [Option.some.injEq, forall_eq']

theorem checkWord?_of_word {number : Option Int}
    (word : ∀ given, number = some given → Integer.isWord given = true) :
    checkWord? number world = .ok () world :=
  checkWord?_eq_ok_iff.mpr ⟨word, rfl⟩

theorem checkQuiet_eq_ok_iff {amount : Decimal} :
    checkQuiet amount world = .ok () after ↔ amount.isSignaling = false ∧ after = world := by
  unfold checkQuiet
  cases amount.isSignaling <;> simp [throw_apply, pure_apply, eq_comm]

theorem storable_eq_ok_iff {column : String} {amount : Decimal} {stored : Money.Stored} :
    storable column amount world = .ok stored after
      ↔ Money.Stored.ofDecimal? amount = some stored ∧ after = world := by
  unfold storable
  cases Money.Stored.ofDecimal? amount <;> simp [throw_apply, pure_apply, eq_comm]

theorem storedResult_eq_ok_iff {column : String} {result : Option Money.Stored}
    {stored : Money.Stored} :
    storedResult column result world = .ok stored after
      ↔ result = some stored ∧ after = world := by
  cases result <;> simp [storedResult, throw_apply, pure_apply, eq_comm]

theorem ofArithmetic_eq_ok_iff {result : Except Decimal.ArithmeticError Answer}
    {answer : Answer} :
    ofArithmetic result world = .ok answer after ↔ result = .ok answer ∧ after = world := by
  cases result <;> simp [ofArithmetic, throw_apply, pure_apply, eq_comm]

end Cashbook.Call
