import Cashbook.Proofs.Calls.Failing
import Mathlib.Data.List.Forall2

/-!
# Two runs side by side

One call is run in one world and another call in another one.  From worlds that are related the runs
end alike if each of their steps does: both with one failure, or both with answers that are related,
and in related worlds again.
-/

namespace Cashbook.Call

variable {Answer Other Next OtherNext : Type}

/-- Do two runs end with one failure, or with related answers, and in related worlds? -/
inductive EndsAlike (answers : Answer → Other → Prop) (worlds : World → World → Prop) :
    EStateM.Result Failure World Answer → EStateM.Result Failure World Other → Prop where
  | ok {answer : Answer} {other : Other} {first second : World} (told : answers answer other)
      (left : worlds first second) : EndsAlike answers worlds (.ok answer first) (.ok other second)
  | error {failure : Failure} {first second : World} (left : worlds first second) :
      EndsAlike answers worlds (.error failure first) (.error failure second)

/-- Do two calls end alike wherever they begin in related worlds? -/
def Parallel (before : World → World → Prop) (answers : Answer → Other → Prop)
    (after : World → World → Prop) (call : Call Answer) (other : Call Other) : Prop :=
  ∀ ⦃first second : World⦄, before first second →
    EndsAlike answers after (call first) (other second)

/-- Does a call answer alike in all related worlds, and are these related afterwards? -/
abbrev Keeps (worlds : World → World → Prop) (call : Call Answer) : Prop :=
  Parallel worlds Eq worlds call call

variable {before middle after worlds : World → World → Prop} {answers : Answer → Other → Prop}
  {nextAnswers : Next → OtherNext → Prop} {call : Call Answer} {other : Call Other}

/-! ## Ends -/

theorem EndsAlike.mono {weaker : World → World → Prop} {weakerAnswers : Answer → Other → Prop}
    {result : EStateM.Result Failure World Answer}
    {otherResult : EStateM.Result Failure World Other}
    (alike : EndsAlike answers worlds result otherResult)
    (weaken_answers : ∀ answer other, answers answer other → weakerAnswers answer other)
    (weaken : ∀ first second, worlds first second → weaker first second) :
    EndsAlike weakerAnswers weaker result otherResult := by
  cases alike with
  | ok told left => exact .ok (weaken_answers _ _ told) (weaken _ _ left)
  | error left => exact .error (weaken _ _ left)

/-- What is known of each run by itself may be told of both. -/
theorem EndsAlike.with_runs {later : World → World → Prop} {told : Answer → Other → Prop}
    {first second : World} (alike : EndsAlike answers worlds (call first) (other second))
    (tell : ∀ answer otherAnswer ended otherEnded, call first = .ok answer ended →
      other second = .ok otherAnswer otherEnded → answers answer otherAnswer →
      told answer otherAnswer)
    (left : later (call.worldAfter first) (other.worldAfter second)) :
    EndsAlike told later (call first) (other second) := by
  unfold worldAfter at left
  generalize run : call first = result at alike tell left
  generalize other_run : other second = otherResult at alike tell left
  cases alike with
  | ok same _ => exact .ok (tell _ _ _ _ rfl rfl same) left
  | error _ => exact .error left

/-! ## Rules -/

theorem Parallel.mono {stronger weaker : World → World → Prop}
    (same : Parallel before answers after call other)
    (strengthen : ∀ first second, stronger first second → before first second)
    (weaken : ∀ first second, after first second → weaker first second) :
    Parallel stronger answers weaker call other :=
  fun _ _ related => (same (strengthen _ _ related)).mono (fun _ _ told => told) weaken

theorem parallel_pure {answer : Answer} {otherAnswer : Other} (told : answers answer otherAnswer) :
    Parallel worlds answers worlds (pure answer) (pure otherAnswer) :=
  fun _ _ related => .ok told related

theorem keeps_pure (answer : Answer) : Keeps worlds (pure answer : Call Answer) :=
  parallel_pure rfl

theorem parallel_throw (failure : Failure) :
    Parallel worlds answers worlds (throw failure) (throw failure) :=
  fun _ _ related => .error related

theorem parallel_get : Parallel worlds worlds worlds get get :=
  fun _ _ related => .ok related related

/-- Steps one after another end alike if each step does.  Worlds that are related after the first
step must be related at the end as well, since the first step may fail. -/
theorem Parallel.bind_weaker {next : Answer → Call Next} {otherNext : Other → Call OtherNext}
    (step : Parallel before answers middle call other)
    (weaken : ∀ first second, middle first second → after first second)
    (rest : ∀ answer otherAnswer, answers answer otherAnswer →
      Parallel middle nextAnswers after (next answer) (otherNext otherAnswer)) :
    Parallel before nextAnswers after (call >>= next) (other >>= otherNext) := by
  intro first second related
  have alike := step related
  generalize run : call first = result at alike
  generalize other_run : other second = otherResult at alike
  cases alike with
  | ok told later =>
      rw [bind_of_ok run, bind_of_ok other_run]
      exact rest _ _ told later
  | error later =>
      rw [bind_of_error run, bind_of_error other_run]
      exact .error (weaken _ _ later)

theorem Parallel.bind {next : Answer → Call Next} {otherNext : Other → Call OtherNext}
    (step : Parallel worlds answers worlds call other)
    (rest : ∀ answer otherAnswer, answers answer otherAnswer →
      Parallel worlds nextAnswers worlds (next answer) (otherNext otherAnswer)) :
    Parallel worlds nextAnswers worlds (call >>= next) (other >>= otherNext) :=
  step.bind_weaker (fun _ _ related => related) rest

/-- After a step with one answer, what follows need only be compared for that answer. -/
theorem Parallel.bind_same {step otherStep : Call Answer} {next : Answer → Call Next}
    {otherNext : Answer → Call OtherNext} (same : Parallel worlds Eq worlds step otherStep)
    (rest : ∀ answer, Parallel worlds nextAnswers worlds (next answer) (otherNext answer)) :
    Parallel worlds nextAnswers worlds (step >>= next) (otherStep >>= otherNext) := by
  refine same.bind ?_
  rintro answer _ rfl
  exact rest answer

theorem Parallel.map {change : Answer → Next} {otherChange : Other → OtherNext}
    (step : Parallel worlds answers worlds call other)
    (told : ∀ answer otherAnswer, answers answer otherAnswer →
      nextAnswers (change answer) (otherChange otherAnswer)) :
    Parallel worlds nextAnswers worlds (change <$> call) (otherChange <$> other) := by
  rw [map_eq_bind, map_eq_bind]
  exact step.bind fun _ _ same => parallel_pure (told _ _ same)

theorem Parallel.ite {condition : Prop} [Decidable condition] {second : Call Answer}
    {otherSecond : Call Other} (yes : Parallel before answers after call other)
    (no : Parallel before answers after second otherSecond) :
    Parallel before answers after (if condition then call else second)
      (if condition then other else otherSecond) := by
  split_ifs
  · exact yes
  · exact no

/-- What is done about one failure must end alike as well. -/
theorem Parallel.tryCatch {handler : Failure → Call Answer} {otherHandler : Failure → Call Other}
    (step : Parallel before answers worlds call other)
    (rescue : ∀ failure, Parallel worlds answers worlds (handler failure) (otherHandler failure)) :
    Parallel before answers worlds (tryCatch call handler) (tryCatch other otherHandler) := by
  intro first second related
  have alike := step related
  rw [tryCatch_apply, tryCatch_apply]
  generalize call first = result, other second = otherResult at alike
  cases alike with
  | ok told later => exact .ok told later
  | error later => exact rescue _ later

section Lists

variable {Item OtherItem : Type} {items : List Item} {others : List OtherItem}

/-- Loops over related items end alike if the work on each of them does. -/
theorem parallel_forM {work : Item → Call PUnit} {otherWork : OtherItem → Call PUnit}
    (same : List.Forall₂ (fun item otherItem =>
      Parallel worlds Eq worlds (work item) (otherWork otherItem)) items others) :
    Parallel worlds Eq worlds (items.forM work) (others.forM otherWork) := by
  induction same with
  | nil => exact parallel_pure rfl
  | cons first rest ih => exact first.bind_same fun _ => ih

theorem keeps_forM {work : Item → Call PUnit}
    (same : ∀ item ∈ items, Keeps worlds (work item)) : Keeps worlds (items.forM work) :=
  parallel_forM (List.forall₂_same.mpr same)

theorem parallel_mapM {work : Item → Call Answer} {otherWork : OtherItem → Call Other}
    (same : List.Forall₂ (fun item otherItem =>
      Parallel worlds answers worlds (work item) (otherWork otherItem)) items others) :
    Parallel worlds (List.Forall₂ answers) worlds (items.mapM work) (others.mapM otherWork) := by
  induction same with
  | nil => exact parallel_pure .nil
  | cons first rest ih =>
      rw [List.mapM_cons, List.mapM_cons]
      exact first.bind fun _ _ told => ih.bind fun _ _ later => parallel_pure (.cons told later)

end Lists

/-! ## Checks and units of work -/

theorem keeps_checkWord (number : Int) : Keeps worlds (checkWord number) :=
  .ite (parallel_throw _) (keeps_pure ())

theorem keeps_checkWord? (number : Option Int) : Keeps worlds (checkWord? number) := by
  cases number with
  | none => exact keeps_pure ()
  | some number => exact keeps_checkWord number

theorem keeps_checkQuiet (amount : Decimal) : Keeps worlds (checkQuiet amount) :=
  .ite (parallel_throw _) (keeps_pure ())

theorem keeps_storable (column : String) (amount : Decimal) :
    Keeps worlds (storable column amount) := by
  unfold storable
  split
  · exact keeps_pure _
  · exact parallel_throw _

theorem keeps_storedResult (column : String) (result : Option Money.Stored) :
    Keeps worlds (storedResult column result) := by
  cases result with
  | none => exact parallel_throw _
  | some stored => exact keeps_pure stored

/-- What arithmetic gives is known to be its result. -/
theorem parallel_ofArithmetic (result : Except Decimal.ArithmeticError Answer) :
    Parallel worlds (fun answer other => answer = other ∧ result = .ok answer) worlds
      (ofArithmetic result) (ofArithmetic result) := by
  cases result with
  | ok answer => exact parallel_pure ⟨rfl, rfl⟩
  | error error => exact parallel_throw _

theorem keeps_ofArithmetic (result : Except Decimal.ArithmeticError Answer) :
    Keeps worlds (ofArithmetic result) := by
  cases result with
  | ok answer => exact keeps_pure answer
  | error error => exact parallel_throw _

theorem keeps_ofCalendar (result : Except CalendarError Answer) :
    Keeps worlds (ofCalendar result) := by
  cases result with
  | ok answer => exact keeps_pure answer
  | error error => exact parallel_throw _

/-- Units of work end alike if the work does and worlds stay related when both ledgers are put
back. -/
theorem Parallel.atomically (commit : Keeps worlds (failAt .commit (.writeFailed .insideUnit)))
    (restore : ∀ first second ended otherEnded, worlds first second → worlds ended otherEnded →
      worlds { ended with ledger := first.ledger } { otherEnded with ledger := second.ledger })
    (work : Parallel worlds answers worlds call other) :
    Parallel worlds answers worlds (atomically call) (Call.atomically other) := by
  intro first second related
  have kept (answer : Answer) (otherAnswer : Other) (told : answers answer otherAnswer) :
      Parallel worlds answers worlds (failAt .commit (.writeFailed .insideUnit) >>= fun _ =>
          pure answer) (failAt .commit (.writeFailed .insideUnit) >>= fun _ => pure otherAnswer) :=
    commit.bind_same fun _ => parallel_pure told
  have alike := work.bind kept related
  unfold Call.atomically
  generalize (call >>= _) first = result, (other >>= _) second = otherResult at alike ⊢
  cases alike with
  | ok told later => exact .ok told later
  | error later => exact .error (restore _ _ _ _ related later)

end Cashbook.Call

/-! ## Worlds beside each other -/

namespace Cashbook

/-- Do two worlds without a fault differ only in their ledgers, and are these related? -/
structure World.Beside (rows : Ledger → Ledger → Prop) (first second : World) : Prop where
  faultless : first.fault = none
  same : second = { first with ledger := second.ledger }
  rows : rows first.ledger second.ledger

/-- Related ledgers stand beside each other in one world. -/
theorem World.beside_of_faultless {rows : Ledger → Ledger → Prop} {world : World} {other : Ledger}
    (faultless : world.fault = none) (related : rows world.ledger other) :
    world.Beside rows { world with ledger := other } :=
  ⟨faultless, rfl, related⟩

namespace World.Beside

variable {rows later : Ledger → Ledger → Prop} {first second : World}

theorem second_faultless (beside : first.Beside rows second) : second.fault = none := by
  rw [beside.same]
  exact beside.faultless

theorem today (beside : first.Beside rows second) : second.today = first.today := by
  rw [beside.same]

/-- Other related ledgers may take the place of these. -/
theorem putLedger {new other : Ledger} (beside : first.Beside rows second)
    (related : later new other) :
    ({ first with ledger := new } : World).Beside later { second with ledger := other } := by
  refine ⟨beside.faultless, ?_, related⟩
  rw [beside.same]

theorem mono (beside : first.Beside rows second)
    (weaken : ∀ ledger other, rows ledger other → later ledger other) : first.Beside later second :=
  ⟨beside.faultless, beside.same, weaken _ _ beside.rows⟩

end World.Beside

namespace Call

variable {Answer Other : Type} {rows later : Ledger → Ledger → Prop}

theorem parallel_ledger : Parallel (World.Beside rows) rows (World.Beside rows) ledger ledger :=
  fun _ _ beside => .ok beside.rows beside

theorem parallel_putLedger {new other : Ledger} (related : later new other) :
    Parallel (World.Beside rows) Eq (World.Beside later) (putLedger new) (putLedger other) :=
  fun _ _ beside => .ok rfl (beside.putLedger related)

/-- What is read from related ledgers is read alike if it does not depend on what tells them
apart. -/
theorem keeps_read {read : Ledger → Answer}
    (same : ∀ ledger other, rows ledger other → read other = read ledger) :
    Keeps (World.Beside rows) (do return read (← ledger)) := by
  refine parallel_ledger.bind fun current other related => ?_
  rw [same _ _ related]
  exact keeps_pure _

/-- Nothing shows where no fault is armed. -/
theorem parallel_visit (point : FaultPoint) :
    Parallel (World.Beside rows) (fun shown other => shown = none ∧ other = none)
      (World.Beside rows) (visit point) (visit point) := by
  intro first second beside
  rw [visit_of_faultless beside.faultless, visit_of_faultless beside.second_faultless]
  exact .ok ⟨rfl, rfl⟩ beside

theorem keeps_failAt (point : FaultPoint) (failure : Failure) :
    Keeps (World.Beside rows) (failAt point failure) := by
  intro first second beside
  rw [failAt_of_faultless beside.faultless, failAt_of_faultless beside.second_faultless]
  exact .ok rfl beside

/-- Where work fails, the ledgers are as before. -/
theorem Parallel.unit {answers : Answer → Other → Prop} {call : Call Answer} {other : Call Other}
    (work : Parallel (World.Beside rows) answers (World.Beside rows) call other) :
    Parallel (World.Beside rows) answers (World.Beside rows) (Call.atomically call)
      (Call.atomically other) :=
  Parallel.atomically (keeps_failAt _ _)
    (fun _ _ _ _ beside ended => ended.putLedger beside.rows) work

end Call

end Cashbook
