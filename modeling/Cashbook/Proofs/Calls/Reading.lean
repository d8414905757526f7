import Cashbook.Ledger.World
import Mathlib.Order.Basic
import Mathlib.Order.Nat

/-!
# What calls keep

A call is taken apart at its steps: it ends with an answer exactly when each step does, and what
each step keeps the call keeps.  Every call of the library leaves the clock alone and arms no
fault; a call that only reads leaves the ledger alone as well.
-/

namespace Cashbook

/-! ## Steps that may stop -/

/-- A step and the rest come to an answer exactly when both do. -/
theorem Except.bind_eq_ok_iff {Error First Second : Type} {step : Except Error First}
    {next : First → Except Error Second} {answer : Second} :
    (step >>= next) = .ok answer ↔ ∃ first, step = .ok first ∧ next first = .ok answer := by
  constructor
  · intro run
    cases step with
    | ok first => exact ⟨first, rfl, run⟩
    | error error => cases run
  · rintro ⟨first, rfl, rest⟩
    exact rest

theorem Except.bind_eq_error_iff {Error First Second : Type} {step : Except Error First}
    {next : First → Except Error Second} {error : Error} :
    (step >>= next) = .error error ↔
      step = .error error ∨ ∃ first, step = .ok first ∧ next first = .error error := by
  cases step with
  | ok first =>
      constructor
      · exact fun stopped => .inr ⟨first, rfl, stopped⟩
      · rintro (⟨⟨⟩⟩ | ⟨_, ⟨⟩, stopped⟩)
        exact stopped
  | error other =>
      constructor
      · rintro ⟨⟩
        exact .inl rfl
      · rintro (⟨⟨⟩⟩ | ⟨_, ⟨⟩, -⟩)
        rfl

theorem Except.map_eq_ok_iff {Error First Second : Type} {step : Except Error First}
    {change : First → Second} {answer : Second} :
    (change <$> step) = .ok answer ↔ ∃ first, step = .ok first ∧ change first = answer := by
  cases step with
  | ok first =>
      constructor
      · rintro ⟨⟩
        exact ⟨first, rfl, rfl⟩
      · rintro ⟨_, ⟨⟩, rfl⟩
        rfl
  | error error =>
      constructor
      · rintro ⟨⟩
      · rintro ⟨_, ⟨⟩, -⟩

theorem Except.map_eq_error_iff {Error First Second : Type} {step : Except Error First}
    {change : First → Second} {error : Error} :
    (change <$> step) = .error error ↔ step = .error error := by
  cases step with
  | ok first => constructor <;> rintro ⟨⟩
  | error other =>
      constructor
      · rintro ⟨⟩
        rfl
      · rintro ⟨⟩
        rfl

/-! ## Worlds -/

namespace World

/-- What every call keeps: the clock stands still, no fault shows up that was not armed, and names
once given stay given. -/
structure Follows (before after : World) : Prop where
  today : after.today = before.today
  now : after.now = before.now
  fault : ∀ fault, after.fault = some fault → ∃ earlier, before.fault = some earlier
    ∧ fault.point = earlier.point ∧ fault.rival = earlier.rival
  groupsNamed : before.groupsNamed ≤ after.groupsNamed

/-- What a call keeps that does not write. -/
structure Rests (before after : World) : Prop extends Follows before after where
  ledger : after.ledger = before.ledger

/-- Is no other transfer about to slip in? -/
def IsRaceless (world : World) : Prop :=
  ∀ fault, world.fault = some fault → fault.point ≠ .race

variable {before middle after : World}

theorem Follows.refl (world : World) : world.Follows world :=
  ⟨rfl, rfl, fun fault armed => ⟨fault, armed, rfl, rfl⟩, le_rfl⟩

theorem Follows.trans (first : before.Follows middle) (second : middle.Follows after) :
    before.Follows after where
  today := second.today.trans first.today
  now := second.now.trans first.now
  fault fault armed := by
    rcases second.fault fault armed with ⟨later, later_armed, later_point, later_rival⟩
    rcases first.fault later later_armed with ⟨earlier, earlier_armed, earlier_point,
      earlier_rival⟩
    exact ⟨earlier, earlier_armed, later_point.trans earlier_point,
      later_rival.trans earlier_rival⟩
  groupsNamed := first.groupsNamed.trans second.groupsNamed

theorem Rests.refl (world : World) : world.Rests world :=
  ⟨Follows.refl world, rfl⟩

theorem Rests.trans (first : before.Rests middle) (second : middle.Rests after) :
    before.Rests after :=
  ⟨first.toFollows.trans second.toFollows, second.ledger.trans first.ledger⟩

/-- Without a fault, none waits at any place. -/
theorem point_ne_of_faultless {world : World} (faultless : world.fault = none)
    (point : FaultPoint) : ∀ fault, world.fault = some fault → fault.point ≠ point := by
  simp [faultless]

/-- A call does not move a fault to another place. -/
theorem Follows.point_ne {point : FaultPoint} (follows : before.Follows after)
    (elsewhere : ∀ fault, before.fault = some fault → fault.point ≠ point) :
    ∀ fault, after.fault = some fault → fault.point ≠ point := by
  intro fault armed
  rcases follows.fault fault armed with ⟨earlier, earlier_armed, same, -⟩
  rw [same]
  exact elsewhere earlier earlier_armed

theorem Follows.isRaceless (follows : before.Follows after) (raceless : before.IsRaceless) :
    after.IsRaceless :=
  follows.point_ne raceless

/-- Another ledger alone changes nothing that every call keeps. -/
theorem follows_putLedger (world : World) (ledger : Ledger) :
    world.Follows { world with ledger := ledger } :=
  ⟨rfl, rfl, fun fault armed => ⟨fault, armed, rfl, rfl⟩, le_rfl⟩

/-- A relation between worlds that steps one after another keep. -/
class IsKept (relation : World → World → Prop) : Prop where
  refl : ∀ world, relation world world
  trans : ∀ {before middle after}, relation before middle → relation middle after →
    relation before after

instance : IsKept Follows :=
  ⟨Follows.refl, Follows.trans⟩

instance : IsKept Rests :=
  ⟨Rests.refl, Rests.trans⟩

end World

namespace Call

variable {Answer Next : Type} {call : Call Answer} {next : Answer → Call Next}
  {world after : World} {failure : Failure} {point : FaultPoint}

/-! ## Taking calls apart -/

theorem bind_eq_ok_iff {answer : Next} :
    (call >>= next) world = .ok answer after ↔
      ∃ first middle, call world = .ok first middle ∧ next first middle = .ok answer after := by
  change (EStateM.bind call next) world = _ ↔ _
  unfold EStateM.bind
  cases call world with
  | ok first middle =>
      constructor
      · exact fun run => ⟨first, middle, rfl, run⟩
      · rintro ⟨_, _, step, run⟩
        cases step
        exact run
  | error early middle =>
      constructor
      · rintro ⟨⟩
      · rintro ⟨_, _, ⟨⟩, _⟩

theorem bind_eq_error_iff :
    (call >>= next) world = .error failure after ↔
      call world = .error failure after ∨
      ∃ first middle, call world = .ok first middle
        ∧ next first middle = .error failure after := by
  change (EStateM.bind call next) world = _ ↔ _
  unfold EStateM.bind
  cases call world with
  | ok first middle =>
      constructor
      · exact fun run => .inr ⟨first, middle, rfl, run⟩
      · rintro (step | ⟨_, _, step, run⟩)
        · cases step
        · cases step
          exact run
  | error early middle =>
      constructor
      · rintro ⟨⟩
        exact .inl rfl
      · rintro (step | ⟨_, _, step, _⟩)
        · cases step
          rfl
        · cases step

theorem bind_of_ok {first : Answer} (step : call world = .ok first after) :
    (call >>= next) world = next first after := by
  change (EStateM.bind call next) world = _
  unfold EStateM.bind
  rw [step]

theorem bind_of_error (step : call world = .error failure after) :
    (call >>= next) world = .error failure after := by
  change (EStateM.bind call next) world = _
  unfold EStateM.bind
  rw [step]

theorem pure_apply (answer : Answer) (world : World) :
    (pure answer : Call Answer) world = .ok answer world :=
  rfl

theorem throw_apply (failure : Failure) (world : World) :
    (throw failure : Call Answer) world = .error failure world :=
  rfl

theorem get_apply (world : World) : (get : Call World) world = .ok world world :=
  rfl

theorem ledger_apply (world : World) : ledger world = .ok world.ledger world :=
  rfl

theorem putLedger_apply (new : Ledger) (world : World) :
    putLedger new world = .ok () { world with ledger := new } :=
  rfl

theorem changeLedger_apply (change : Ledger → Ledger) (world : World) :
    changeLedger change world = .ok () { world with ledger := change world.ledger } :=
  rfl

theorem tryCatch_apply (handler : Failure → Call Answer) :
    (tryCatch call handler) world =
      match call world with
      | .ok answer after => .ok answer after
      | .error failure after => handler failure after := by
  change EStateM.tryCatch call handler world = _
  unfold EStateM.tryCatch
  cases call world <;> rfl

theorem map_eq_bind (change : Answer → Next) :
    change <$> call = call >>= fun answer => pure (change answer) :=
  map_eq_pure_bind change call

theorem map_eq_ok_iff {change : Answer → Next} {answer : Next} :
    (change <$> call) world = .ok answer after ↔
      ∃ first, call world = .ok first after ∧ change first = answer := by
  rw [map_eq_bind, bind_eq_ok_iff]
  constructor
  · rintro ⟨first, middle, step, last⟩
    cases last
    exact ⟨first, step, rfl⟩
  · rintro ⟨first, step, rfl⟩
    exact ⟨first, after, step, rfl⟩

/-! ## What calls keep -/

/-- The world that a call leaves behind, with an answer or a failure. -/
def worldAfter (call : Call Answer) (world : World) : World :=
  match call world with
  | .ok _ after => after
  | .error _ after => after

/-- What a call answers. -/
def answer (call : Call Answer) (world : World) : Except Failure Answer :=
  match call world with
  | .ok answer _ => .ok answer
  | .error failure _ => .error failure

/-- Does every run of the call keep a relation between worlds? -/
def Respects (relation : World → World → Prop) (call : Call Answer) : Prop :=
  ∀ world, relation world (call.worldAfter world)

/-- A call that leaves the clock alone and arms no fault. -/
abbrev Proceeds (call : Call Answer) : Prop :=
  Respects World.Follows call

/-- A call that does not write either. -/
abbrev Reads (call : Call Answer) : Prop :=
  Respects World.Rests call

theorem worldAfter_of_ok {answer : Answer} (run : call world = .ok answer after) :
    call.worldAfter world = after := by
  simp [worldAfter, run]

theorem worldAfter_of_error (run : call world = .error failure after) :
    call.worldAfter world = after := by
  simp [worldAfter, run]

theorem answer_eq_ok_iff {answer : Answer} :
    call.answer world = .ok answer ↔ ∃ after, call world = .ok answer after := by
  unfold Call.answer
  cases call world with
  | ok first after => simp
  | error failure after => simp

theorem Reads.proceeds (reads : Reads call) : Proceeds call :=
  fun world => (reads world).toFollows

section Respects

variable {relation : World → World → Prop}

theorem Respects.of_ok {answer : Answer} (respects : Respects relation call)
    (run : call world = .ok answer after) : relation world after :=
  worldAfter_of_ok run ▸ respects world

theorem Respects.of_error (respects : Respects relation call)
    (run : call world = .error failure after) : relation world after :=
  worldAfter_of_error run ▸ respects world

theorem Respects.ite {condition : Prop} [Decidable condition] {other : Call Answer}
    (first : Respects relation call) (second : Respects relation other) :
    Respects relation (if condition then call else other) := by
  split_ifs
  · exact first
  · exact second

variable [World.IsKept relation]

theorem respects_pure (answer : Answer) : Respects relation (pure answer : Call Answer) :=
  fun world => World.IsKept.refl world

theorem respects_throw (failure : Failure) : Respects relation (throw failure : Call Answer) :=
  fun world => World.IsKept.refl world

theorem respects_get : Respects relation (get : Call World) :=
  fun world => World.IsKept.refl world

theorem respects_ledger : Respects relation ledger :=
  fun world => World.IsKept.refl world

theorem Respects.bind (first : Respects relation call)
    (second : ∀ answer, Respects relation (next answer)) : Respects relation (call >>= next) := by
  intro world
  unfold worldAfter
  cases step : call world with
  | ok answer middle =>
      rw [bind_of_ok step]
      exact World.IsKept.trans (first.of_ok step) (second answer middle)
  | error failure middle =>
      rw [bind_of_error step]
      exact first.of_error step

theorem Respects.map (respects : Respects relation call) (change : Answer → Next) :
    Respects relation (change <$> call) := by
  rw [map_eq_bind]
  exact respects.bind fun _ => respects_pure _

theorem Respects.tryCatch {handler : Failure → Call Answer} (first : Respects relation call)
    (second : ∀ failure, Respects relation (handler failure)) :
    Respects relation (tryCatch call handler) := by
  intro world
  unfold worldAfter
  rw [tryCatch_apply]
  cases step : call world with
  | ok answer middle => exact first.of_ok step
  | error failure middle =>
      exact World.IsKept.trans (first.of_error step) (second failure middle)

theorem respects_forM {Item : Type} {work : Item → Call PUnit} {items : List Item}
    (respects : ∀ item ∈ items, Respects relation (work item)) :
    Respects relation (items.forM work) := by
  induction items with
  | nil => exact respects_pure _
  | cons item rest ih =>
      rw [List.forall_mem_cons] at respects
      exact respects.1.bind fun _ => ih respects.2

theorem respects_mapM {Item : Type} {work : Item → Call Answer} {items : List Item}
    (respects : ∀ item ∈ items, Respects relation (work item)) :
    Respects relation (items.mapM work) := by
  induction items with
  | nil => exact respects_pure _
  | cons item rest ih =>
      rw [List.forall_mem_cons] at respects
      rw [List.mapM_cons]
      exact respects.1.bind fun _ => (ih respects.2).bind fun _ => respects_pure _

end Respects

theorem proceeds_putLedger (new : Ledger) : Proceeds (putLedger new) :=
  fun world => world.follows_putLedger new

theorem proceeds_changeLedger (change : Ledger → Ledger) : Proceeds (changeLedger change) :=
  fun world => world.follows_putLedger (change world.ledger)

end Call

end Cashbook
